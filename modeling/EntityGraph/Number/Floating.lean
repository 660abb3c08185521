import EntityGraph.Number.Shortest

/-!
# Written floating point numbers

A decimal is read as the nearest double, rounded once however long it is; what is too large is
infinite. In plain form the shortest decimal which reads back is written without an exponent, and
without a point if it is an integer.

* `Floating.read?`: the number a text stands for;
* `Floating.plain`: the plain form.
-/

namespace EntityGraph

inductive Floating where
  | finite (d : Double)
  | infinite (negative : Bool)
  | notANumber
deriving DecidableEq, Repr

namespace Floating

/-- The number of decimal digits. -/
def natOf (digits : List Char) : Nat :=
  digits.foldl (fun n c => n * 10 + (c.toNat - '0'.toNat)) 0

/-- Exponents beyond this do not matter for any double, for digits few enough. -/
def farExponent : Nat := 400

/-- The number nearest to `digits * 10 ^ exponent`. -/
def ofDecimal (negative : Bool) (digits : List Char) (exponent : Int) : Floating :=
  let digits := digits.dropWhile (· == '0')
  let leading := exponent + digits.length
  if digits.isEmpty ∨ leading < -farExponent then .finite (.zero negative)
  else if (farExponent : Int) < leading then .infinite negative
  else
    let value := natOf digits
    let rounded := match exponent with
      | .ofNat n => Double.round negative (value * Nat.pow 10 n * Double.one) 1
      | .negSucc n => Double.round negative (value * Double.one) (Nat.pow 10 (n + 1))
    rounded.elim (.infinite negative) .finite

/-- A sign, and what is behind it. -/
def sign (cs : List Char) : Bool × List Char :=
  match cs with
  | '-' :: rest => (true, rest)
  | '+' :: rest => (false, rest)
  | cs => (false, cs)

/-- The exponent a text consists of; no text is no exponent. -/
def exponent? : List Char → Option Int
  | [] => some 0
  | e :: rest =>
    if e = 'e' ∨ e = 'E' then
      let (negative, digits) := sign rest
      if digits.isEmpty ∨ !digits.all Char.isDigit then none
      else
        let v : Nat := min (natOf digits) 0xffffffffffffffff
        some (if negative then -v else v)
    else none

/-- The number of a decimal without sign: digits with a point somewhere, and an exponent. -/
def readDecimal? (negative : Bool) (cs : List Char) : Option Floating := do
  let whole := cs.takeWhile Char.isDigit
  let (fraction, rest) := match cs.dropWhile Char.isDigit with
    | '.' :: rest => (rest.takeWhile Char.isDigit, rest.dropWhile Char.isDigit)
    | rest => ([], rest)
  if whole.isEmpty && fraction.isEmpty then none
  let exponent ← exponent? rest
  return ofDecimal negative (whole ++ fraction) (exponent - fraction.length)

/-- The number a text stands for. -/
def read? (cs : List Char) : Option Floating :=
  let (negative, rest) := sign cs
  let word := String.ofList (rest.map Char.toLower)
  if word = "inf" ∨ word = "infinity" then some (.infinite negative)
  else if word = "nan" then some .notANumber
  else readDecimal? negative rest

/-- The plain form. -/
def plain : Floating → String
  | .infinite negative => if negative then "-inf" else "inf"
  | .notANumber => "NaN"
  | .finite d =>
    let body :=
      if d.isZero then ['0']
      else
        let (digits, exponent) := d.digitsAndExponent
        if exponent + 1 < digits.length then Double.positional digits exponent
        else digits ++ List.replicate (exponent + 1 - digits.length).toNat '0'
    String.ofList (if d.negative then '-' :: body else body)

end Floating

end EntityGraph
