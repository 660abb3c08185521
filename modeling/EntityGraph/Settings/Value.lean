import EntityGraph.Json.Text
import EntityGraph.Text.Decimal
import EntityGraph.Text.Quoted
import EntityGraph.Text.WhiteSpace
import EntityGraph.Toml.Reader

/-!
# Setting values

A setting may be given in a file, in the environment or on the command line. What is given has a
kind of its own before it is known which kind the setting needs.

* `SettingValue.ofToml`: values of a file;
* `SettingValue.ofText`: values of the environment, which are written without quotes where this is
  not ambiguous;
* `SettingValue.shown`: what was found, in the words of an error.
-/

namespace EntityGraph

inductive SettingValue where
  | text (s : String)
  | letter (c : Char)
  | unsigned (n : Nat)
  | signed (n : Int)
  | float (x : Floating)
  | bool (b : Bool)
  | sequence
  | map
  /-- A text which was cut within a character. -/
  | torn
deriving DecidableEq, Repr

namespace SettingValue

def shown : SettingValue → String
  | .text s => "string " ++ Text.quoted s
  | .letter c => "char " ++ Text.quotedChar c
  | .unsigned n => s!"unsigned int `{Text.decimal n}`"
  | .signed n => s!"signed int `{String.ofList (Json.intChars n)}`"
  | .float x => s!"float `{x.plain}`"
  | .bool b => if b then "bool true" else "bool false"
  | .sequence => "sequence"
  | .map => "map"
  | .torn => "torn string"

def ofToml : TomlValue → SettingValue
  | .string s => .text s
  | .integer n => .signed n
  | .float x => .float x
  | .bool b => .bool b
  | .array _ | .tables _ => .sequence
  | .dateTime | .inlineTable _ | .table .. => .map

/-! ### Text of the environment -/

/-- Characters which end a word. -/
def isSeparator (c : Char) : Bool :=
  c == ',' || c == '\x7b' || c == '\x7d' || c == '[' || c == ']'

def isSpace (c : Char) : Bool :=
  c == ' ' || c == '\t' || c == '\n' || c == '\x0c' || c == '\r'

def skipSpace (cs : List Char) : List Char := cs.dropWhile isSpace

/-- A natural number which fits 64 bits, perhaps behind a plus sign. -/
def unsigned? (cs : List Char) : Option Nat :=
  let digits := match cs with
    | '+' :: rest => rest
    | cs => cs
  if digits.isEmpty ∨ !digits.all Char.isDigit then none
  else
    let n := Floating.natOf digits
    if n ≤ 0xffffffffffffffff then some n else none

/-- A negative number which fits 64 bits. -/
def negative? (cs : List Char) : Option Int :=
  match cs with
  | '-' :: digits =>
    if digits.isEmpty ∨ !digits.all Char.isDigit then none
    else
      let n := Floating.natOf digits
      if n ≤ 0x8000000000000000 then some (-n) else none
  | _ => none

/-- The value of a word without quotes. -/
def ofWord (word : List Char) : SettingValue :=
  let float := if word.contains '.' then Floating.read? word else none
  match float, unsigned? word, negative? word with
  | some x, _, _ => .float x
  | none, some n, _ => .unsigned n
  | none, none, some n => .signed n
  | none, none, none => .text (String.ofList word)

/-- What is behind the key and the equals sign of a field. -/
def fieldKey? (cs : List Char) : Option (List Char) :=
  let afterKey := match skipSpace cs with
    | '"' :: rest => (Toml.basicRest rest.length rest).map Prod.snd
    | cs =>
      let isKeyChar (c : Char) : Bool := c.isAlphanum || c == '_' || c == '-'
      if cs.head?.any isKeyChar then some (cs.dropWhile isKeyChar) else none
  afterKey.bind fun rest => Toml.mark? '=' (skipSpace rest)

/-- What is behind parts separated by commas and the mark `closing` after them. -/
def partsEnd? (part : List Char → Option (List Char)) (closing : Char) (fuel : Nat)
    (cs : List Char) : Option (List Char) :=
  match fuel with
  | 0 => none
  | fuel + 1 =>
    match Toml.mark? closing cs with
    | some rest => some rest
    | none => do
      let rest ← part cs
      match Toml.mark? ',' rest with
      | some rest => partsEnd? part closing fuel rest
      | none => Toml.mark? closing rest

/-- The characters which take up a number of bytes at the front of a text. -/
def bytePrefix? : Nat → List Char → Option (List Char)
  | 0, _ => some []
  | _, [] => none
  | size, c :: rest =>
    if c.utf8Size ≤ size then (bytePrefix? (size - c.utf8Size) rest).map (c :: ·) else none

/-- The text up to a closing quote. Of what stands in front of the first escape, as many bytes are
    kept as there are characters. -/
def quoted? (cs : List Char) : Option (SettingValue × List Char) :=
  (Toml.basicRest cs.length cs).map fun (s, rest) =>
    let written := cs.take (cs.length - rest.length - 1)
    let plain := (written.takeWhile (· ≠ '\\')).length
    if plain = written.length then (.text (String.ofList s), rest)
    else match bytePrefix? plain written with
      | some kept => (.text (String.ofList (kept ++ s.drop plain)), rest)
      | none => (.torn, rest)

/-- The value at the front of a text, containers nesting at most `depth` deep, and what is behind
    it and the space after it. -/
def read (depth : Nat) (cs : List Char) : Option (SettingValue × List Char) :=
  let cs := skipSpace cs
  let found : Option (SettingValue × List Char) :=
    if "true".toList.isPrefixOf cs then some (.bool true, cs.drop 4)
    else if "false".toList.isPrefixOf cs then some (.bool false, cs.drop 5)
    else match depth, cs with
      | 0, '\x7b' :: _ | 0, '[' :: _ => none
      | depth + 1, '\x7b' :: rest =>
        let field (cs : List Char) : Option (List Char) := do
          let (_, rest) ← read depth (← fieldKey? cs)
          return rest
        do
          let rest ← partsEnd? field '\x7d' (rest.length + 1) rest
          return (.map, rest)
      | depth + 1, '[' :: rest =>
        let item (cs : List Char) : Option (List Char) := do
          let (_, rest) ← read depth cs
          return rest
        do
          let rest ← partsEnd? item ']' (rest.length + 1) rest
          return (.sequence, rest)
      | _, '"' :: rest => quoted? rest
      | _, '\'' :: c :: '\'' :: rest => some (.letter c, rest)
      | _, '\'' :: _ => none
      | _, cs =>
        some (ofWord (Text.trim (cs.takeWhile fun c => !isSeparator c)),
          cs.dropWhile fun c => !isSeparator c)
  found.map fun (v, rest) => (v, skipSpace rest)

/-- The value a text of the environment stands for; the text itself if nothing else fits. -/
def ofText (text : String) : SettingValue :=
  match read text.length text.toList with
  | some (.torn, _) => .torn
  | some (v, []) => v
  | _ => .text text

end SettingValue

end EntityGraph
