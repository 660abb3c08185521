/-!
# Finite doubles

A finite double is a sign, a biased exponent and a fraction; every combination of the three is a
different double. All arithmetic is done on natural numbers: the magnitude of a double is
`scaled / one`, where `one` is `2 ^ 1074`, so a comparison or a rounding of an exact quotient never
needs a fraction.

* `Double.round`: the double nearest to an exact quotient, ties going to the even significand;
* `Double.mul`, `Double.div`: the exact result, rounded once;
* `Double.toInt?`: the integer a double is, if it is one.
-/

namespace EntityGraph

/-- A finite double in its three fields. -/
structure Double where
  negative : Bool
  /-- Biased exponent; `0` belongs to zero and the subnormal numbers. -/
  exponent : Fin 2047
  /-- The 52 bits below the leading one. -/
  fraction : Fin 0x10000000000000
deriving DecidableEq, Repr

namespace Double

/-- Zero, of either sign. -/
def zero (negative : Bool) : Double := ⟨negative, 0, 0⟩

instance : Inhabited Double := ⟨zero false⟩

/-- The integer significand, with the leading bit normal numbers leave out. -/
def significand (d : Double) : Nat :=
  if d.exponent.val = 0 then d.fraction.val else 0x10000000000000 + d.fraction.val

/-- The unit of the significand is `2 ^ (d.scale - 1074)`. -/
def scale (d : Double) : Nat := d.exponent.val - 1

/-- The magnitude in units of `2 ^ (-1074)`, the smallest positive double. -/
def scaled (d : Double) : Nat := d.significand * Nat.pow 2 d.scale

/-- One, in units of `2 ^ (-1074)`. -/
def one : Nat := Nat.pow 2 1074

def isZero (d : Double) : Bool := d.scaled == 0

def neg (d : Double) : Double := { d with negative := !d.negative }

/-- The double with significand `m` in units of `2 ^ (p - 1074)`, for an `m` below `2 ^ 53` which
    is at least `2 ^ 52` unless `p` is zero; none if it is too large to be finite. -/
def ofParts? (negative : Bool) (m p : Nat) : Option Double :=
  if m < 0x10000000000000 then
    some ⟨negative, 0, Fin.ofNat _ m⟩
  else if h : p + 1 < 2047 then
    some ⟨negative, ⟨p + 1, h⟩, Fin.ofNat _ (m - 0x10000000000000)⟩
  else
    none

/-- The double nearest to `num / den` in units of `2 ^ (-1074)`. Of two equally near ones the one
    with the even significand is taken; none if the result is too large to be finite. -/
def round (negative : Bool) (num den : Nat) : Option Double :=
  let q := num / den
  let p := if q < 0x20000000000000 then 0 else q.log2 - 52
  let unit := den * Nat.pow 2 p
  let m := num / unit
  let rest := num % unit
  let up := decide (unit < 2 * rest) || (decide (unit = 2 * rest) && m % 2 == 1)
  let m := if up then m + 1 else m
  if m = 0x20000000000000 then ofParts? negative 0x10000000000000 (p + 1)
  else ofParts? negative m p

/-- The double nearest to a natural number. -/
def ofNat? (n : Nat) : Option Double := round false (n * one) 1

def mul (a b : Double) : Option Double :=
  round (a.negative != b.negative) (a.scaled * b.scaled) one

def div (a b : Double) : Option Double :=
  round (a.negative != b.negative) (a.scaled * one) b.scaled

/-- The integer a double is equal to, if it has no fractional part. -/
def toInt? (d : Double) : Option Int :=
  if d.scaled % one = 0 then
    let n : Int := (d.scaled / one : Nat)
    some (if d.negative then -n else n)
  else
    none

end Double

end EntityGraph
