import EntityGraph.Number.Double

/-!
# Shortest decimals

Of all decimals which round to a given double, the one written is the one with the fewest digits,
and among those the nearest one. The digits are found on the decimal grids: for one digit, two
digits and so on, the two grid points around the double are tried, the first grid with a point
inside the rounding interval wins.

* `Double.shortest`: the digits and the power of ten;
* `Double.text`: the written number, positional for exponents from `-5` to `15`, otherwise with a
  signed exponent.
-/

namespace EntityGraph

/-- The decimal `digits * 10 ^ exponent`. -/
structure Decimal where
  digits : Nat
  exponent : Int
deriving DecidableEq, Repr

namespace Double

/-- The least `j` up to `fuel` steps away for which `s * 10 ^ j` reaches one. -/
def leadingZeros (s : Nat) : (fuel j : Nat) → Nat
  | 0, j => j
  | fuel + 1, j => if one ≤ s * Nat.pow 10 j then j else leadingZeros s fuel (j + 1)

/-- The exponent of the leading decimal digit: `10 ^ k ≤ d < 10 ^ (k + 1)` for a positive `d`. -/
def decimalExponent (d : Double) : Int :=
  let whole := d.scaled / one
  if whole = 0 then -(leadingZeros d.scaled 325 1 : Nat) else (Nat.toDigits 10 whole).length - 1

/-- Ends of the interval of reals which round to `d`, in units of `2 ^ (-1076)`. The lower half
    is narrower at a power of two, whose lower neighbour is nearer. -/
def interval (d : Double) : Nat × Nat :=
  let step := Nat.pow 2 d.scale
  let below := if d.fraction.val = 0 ∧ 1 < d.exponent.val then step else 2 * step
  (4 * d.scaled - below, 4 * d.scaled + 2 * step)

/-- Multiplies by `10 ^ j` on one side or the other, so that `x * 10 ^ j` and `y` are compared as
    natural numbers. -/
def onGrid (j : Int) (x y : Nat) : Nat × Nat :=
  match j with
  | .ofNat n => (x * Nat.pow 10 n, y)
  | .negSucc n => (x, y * Nat.pow 10 (n + 1))

/-- The grid point `c * 10 ^ j` rounds to `d`. -/
def roundsFrom (d : Double) (j : Int) (c : Nat) : Bool :=
  let (low, high) := d.interval
  let even := d.significand % 2 == 0
  let (x, l) := onGrid j (c * (4 * one)) low
  let (_, h) := onGrid j (c * (4 * one)) high
  if even then decide (l ≤ x) && decide (x ≤ h) else decide (l < x) && decide (x < h)

/-- Distance of `c * 10 ^ j` from `d`, in a unit fixed by `j`. -/
def distance (d : Double) (j : Int) (c : Nat) : Nat :=
  let (x, v) := onGrid j (c * one) d.scaled
  (x - v) + (v - x)

/-- The better of the two grid points around `d`, if one of them rounds to `d`. -/
def gridPoint? (d : Double) (j : Int) : Option Nat :=
  let (unit, v) := onGrid j one d.scaled
  let a := v / unit
  match d.roundsFrom j a, d.roundsFrom j (a + 1) with
  | true, true =>
    let da := d.distance j a
    let db := d.distance j (a + 1)
    some (if da < db then a else if db < da then a + 1 else if a % 2 = 0 then a else a + 1)
  | true, false => some a
  | false, true => some (a + 1)
  | false, false => none

/-- The first grid of `n`, `n + 1`, … digits with a point which rounds to `d`. -/
def searchGrids (d : Double) (k : Int) : (fuel n : Nat) → Decimal
  | 0, _ => ⟨d.scaled, -1074⟩
  | fuel + 1, n =>
    let j := k - (n : Int) + 1
    match d.gridPoint? j with
    | some c => ⟨c, j⟩
    | none => searchGrids d k fuel (n + 1)

/-- The shortest decimal which rounds to a positive `d`. -/
def shortest (d : Double) : Decimal := searchGrids d d.decimalExponent 20 1

/-- The digits without trailing zeros, and the exponent of the first of them. -/
def digitsAndExponent (d : Double) : List Char × Int :=
  let s := d.shortest
  let all := Nat.toDigits 10 s.digits
  let kept := (all.reverse.dropWhile (· == '0')).reverse
  (kept, s.exponent + all.length - 1)

/-- Digits of `1.25`, `0.5`, `100.0`: at least one digit on each side of the point. -/
def positional (digits : List Char) (exponent : Int) : List Char :=
  match exponent with
  | .negSucc n => '0' :: '.' :: (List.replicate n '0' ++ digits)
  | .ofNat n =>
    let whole := digits.take (n + 1)
    let rest := digits.drop (n + 1)
    whole ++ List.replicate (n + 1 - whole.length) '0' ++ '.' ::
      (if rest.isEmpty then ['0'] else rest)

/-- Digits of `1e+20`, `1.5e-7`: the exponent always has a sign. -/
def scientific (digits : List Char) (exponent : Int) : List Char :=
  let mantissa := match digits with
    | [] => ['0']
    | [c] => [c]
    | c :: rest => c :: '.' :: rest
  let sign := if exponent < 0 then '-' else '+'
  mantissa ++ 'e' :: sign :: Nat.toDigits 10 exponent.natAbs

/-- The text of a double: the fewest digits which read back, positional for a leading digit
    between `10 ^ (-5)` and `10 ^ 15`. -/
def chars (d : Double) : List Char :=
  let body :=
    if d.isZero then ['0', '.', '0']
    else
      let (digits, exponent) := d.digitsAndExponent
      if -5 ≤ exponent ∧ exponent < 16 then positional digits exponent
      else scientific digits exponent
  if d.negative then '-' :: body else body

def text (d : Double) : String := String.ofList d.chars

end Double

end EntityGraph
