import EntityGraph.Json.Basic
import EntityGraph.Number.Shortest

/-!
# JSON text

Three ways to write a value. The *compact* text has no white space; the *canonical* text is the
compact one with integral floats up to `2 ^ 53 - 1` written as integers, so that numbers which
compare equal are written alike; the *indented* text puts every element on a line of its own.
-/

namespace EntityGraph.Json

/-! ### Strings and numbers -/

/-- The escape of a character inside a JSON string, or the character itself. -/
def escapeChar (c : Char) : List Char :=
  match c with
  | '"' => ['\\', '"']
  | '\\' => ['\\', '\\']
  | '\x08' => ['\\', 'b']
  | '\x0c' => ['\\', 'f']
  | '\n' => ['\\', 'n']
  | '\r' => ['\\', 'r']
  | '\t' => ['\\', 't']
  | c =>
    if c.toNat < 0x20 then
      ['\\', 'u', '0', '0', Nat.digitChar (c.toNat / 16), Nat.digitChar (c.toNat % 16)]
    else [c]

/-- A string between quotes. -/
def quoteChars (s : String) : List Char :=
  '"' :: (s.toList.flatMap escapeChar ++ ['"'])

def quote (s : String) : String := String.ofList (quoteChars s)

/-- Decimal digits of an integer, with a sign if it is negative. -/
def intChars (n : Int) : List Char :=
  match n with
  | .ofNat n => Nat.toDigits 10 n
  | .negSucc n => '-' :: Nat.toDigits 10 (n + 1)

end EntityGraph.Json

namespace EntityGraph.Number

/-- A number as it is written in compact text. -/
def chars : Number → List Char
  | .whole n => Json.intChars n.val
  | .float d => d.chars

def text (n : Number) : String := String.ofList n.chars

/-- Integral floats of magnitude up to `2 ^ 53 - 1` become the integer of that value, `-0.0`
    becomes `0`. Every other number stays as it is. -/
def canonical : Number → Number
  | .whole n => .whole n
  | .float d =>
    match d.toInt? with
    | some n =>
      if h : n.natAbs ≤ 0x1fffffffffffff then .whole ⟨n, by omega⟩ else .float d
    | none => .float d

end EntityGraph.Number

namespace EntityGraph.Json

/-! ### Compact text -/

mutual

/-- The text of a value without white space, `num` writing its numbers. -/
def writeWith (num : Number → List Char) : Json → List Char
  | .null => "null".toList
  | .bool true => "true".toList
  | .bool false => "false".toList
  | .number n => num n
  | .string s => quoteChars s
  | .array items => '[' :: writeItems num items
  | .object fields => '{' :: writeFields num fields

/-- The items of an array and its closing bracket. -/
def writeItems (num : Number → List Char) : List Json → List Char
  | [] => [']']
  | [v] => writeWith num v ++ [']']
  | v :: rest => writeWith num v ++ ',' :: writeItems num rest

/-- The fields of an object and its closing brace. -/
def writeFields (num : Number → List Char) : List (String × Json) → List Char
  | [] => ['}']
  | [(n, v)] => quoteChars n ++ ':' :: (writeWith num v ++ ['}'])
  | (n, v) :: rest => quoteChars n ++ ':' :: (writeWith num v ++ ',' :: writeFields num rest)

end

/-- The compact text of a value. -/
def compact (v : Json) : String := String.ofList (writeWith Number.chars v)

/-- The canonical text of a value: equal for values which differ only in how their numbers are
    written. -/
def canonicalText (v : Json) : String := String.ofList (writeWith (fun n => n.canonical.chars) v)

mutual

/-- The value with every number in canonical form. -/
def canonical : Json → Json
  | .number n => .number n.canonical
  | .array items => .array (canonicalItems items)
  | .object fields => .object (canonicalFields fields)
  | v => v

def canonicalItems : List Json → List Json
  | [] => []
  | v :: rest => canonical v :: canonicalItems rest

def canonicalFields : List (String × Json) → List (String × Json)
  | [] => []
  | (n, v) :: rest => (n, canonical v) :: canonicalFields rest

end

end EntityGraph.Json
