import EntityGraph.Text.LetterTable

/-!
# The case of a first letter

Names derived from other names change the case of one letter, the first. The full mapping of the
Unicode standard is used, so the result may be longer than the name: `ß` becomes `SS`.
-/

namespace EntityGraph.LetterCase

/-- The run containing a code point moves it by its shift. -/
def shift? (runs : List Run) (n : Nat) : Option Nat :=
  (runs.find? fun r => decide (r.first ≤ n) && decide (n ≤ r.last)
    && (n - r.first) % r.step == 0).map fun r => ((n : Int) + r.shift).toNat

/-- The characters a character is mapped to. -/
def mapping (long : List (Nat × List Nat)) (runs : List Run) (c : Char) : List Char :=
  match long.lookup c.toNat with
  | some cs => cs.map Char.ofNat
  | none =>
    match shift? runs c.toNat with
    | some n => [Char.ofNat n]
    | none => [c]

/-- Upper case of one character. Letters of ASCII are looked up nowhere. -/
def upper (c : Char) : List Char :=
  if c.toNat < 0x80 then [c.toUpper] else mapping upperLong upperRuns c

/-- Lower case of one character. -/
def lower (c : Char) : List Char :=
  if c.toNat < 0x80 then [c.toLower] else mapping lowerLong lowerRuns c

end EntityGraph.LetterCase

namespace EntityGraph

/-- The name with its first letter in upper case. -/
def upperFirst (name : String) : String :=
  match name.toList with
  | [] => ""
  | c :: rest => String.ofList (LetterCase.upper c ++ rest)

/-- The name with its first letter in lower case. -/
def lowerFirst (name : String) : String :=
  match name.toList with
  | [] => ""
  | c :: rest => String.ofList (LetterCase.lower c ++ rest)

end EntityGraph
