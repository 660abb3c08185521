import EntityGraph.Json.Basic

/-!
# Reading JSON text

A strict reader: one value, white space around it and nothing else. Containers nest at most 127
deep, surrogate escapes come in pairs, and of several fields with one name the last one stays.

A number without fraction and exponent which fits 64 bits is a whole number. Any other number is
a double: its leading digits, as many as fit 64 bits, are rounded to a double, which is then
scaled by the remaining power of ten with one more rounding.

* `Json.read`: the value of a text, or the fault and the place where it was noticed;
* `ReadError.message`: the fault in words, with line and column.
-/

namespace EntityGraph.Json

/-! ### Faults -/

/-- Why a text is not JSON. -/
inductive ReadFault where
  | endInValue
  | endInList
  | endInObject
  | endInString
  | expectedColon
  | expectedListEnd
  | expectedObjectEnd
  | expectedIdent
  | expectedValue
  | invalidEscape
  | invalidNumber
  | numberOutOfRange
  | controlCharacter
  | keyNotString
  | loneSurrogate
  | trailingComma
  | trailingCharacters
  | unfinishedEscape
  | tooDeep
deriving DecidableEq, Repr

def ReadFault.words : ReadFault → String
  | .endInValue => "EOF while parsing a value"
  | .endInList => "EOF while parsing a list"
  | .endInObject => "EOF while parsing an object"
  | .endInString => "EOF while parsing a string"
  | .expectedColon => "expected `:`"
  | .expectedListEnd => "expected `,` or `]`"
  | .expectedObjectEnd => "expected `,` or `\x7d`"
  | .expectedIdent => "expected ident"
  | .expectedValue => "expected value"
  | .invalidEscape => "invalid escape"
  | .invalidNumber => "invalid number"
  | .numberOutOfRange => "number out of range"
  | .controlCharacter => "control character (\\u0000-\\u001F) found while parsing a string"
  | .keyNotString => "key must be a string"
  | .loneSurrogate => "lone leading surrogate in hex escape"
  | .trailingComma => "trailing comma"
  | .trailingCharacters => "trailing characters"
  | .unfinishedEscape => "unexpected end of hex escape"
  | .tooDeep => "recursion limit exceeded"

/-- A fault and where it was noticed: the characters not yet read, the first of which is the
    offending one if `onNext` is set. -/
structure ReadError where
  fault : ReadFault
  onNext : Bool
  ahead : List Char

/-- The next character is wrong, or missing. -/
def failOn {α : Type} (fault : ReadFault) (s : List Char) : Except ReadError α :=
  .error ⟨fault, true, s⟩

/-- What was read just before is wrong. -/
def failBehind {α : Type} (fault : ReadFault) (s : List Char) : Except ReadError α :=
  .error ⟨fault, false, s⟩

namespace ReadError

/-- Line (from 1) and column (bytes since the line began) of a fault in `text`. -/
def position (text : String) (e : ReadError) : Nat × Nat :=
  let all := text.toList
  let before := all.take (all.length - e.ahead.length)
  let seen := match e.onNext, e.ahead with
    | true, c :: _ => before ++ [if c.toNat < 0x80 then c else 'x']
    | _, _ => before
  let lineStart := (seen.reverse.takeWhile (· != '\n')).reverse
  (1 + seen.count '\n', (String.ofList lineStart).utf8ByteSize)

def message (text : String) (e : ReadError) : String :=
  let (line, column) := e.position text
  s!"{e.fault.words} at line {line} column {column}"

end ReadError

/-! ### White space and literals -/

namespace Reader

def isBlank (c : Char) : Bool := c == ' ' || c == '\n' || c == '\t' || c == '\r'

def skipBlank (s : List Char) : List Char := s.dropWhile isBlank

/-- The rest of `null`, `true` or `false` after its first letter. -/
def literalRest : (expected : List Char) → List Char → Except ReadError (List Char)
  | [], s => .ok s
  | _ :: _, [] => failOn .endInValue []
  | e :: es, c :: s => if c = e then literalRest es s else failOn .expectedIdent (c :: s)

/-! ### Strings -/

def hexValue? (c : Char) : Option Nat :=
  if '0' ≤ c ∧ c ≤ '9' then some (c.toNat - '0'.toNat)
  else if 'a' ≤ c ∧ c ≤ 'f' then some (c.toNat - 'a'.toNat + 10)
  else if 'A' ≤ c ∧ c ≤ 'F' then some (c.toNat - 'A'.toNat + 10)
  else none

/-- The number written by four hexadecimal digits. -/
def hex4? (a b c d : Char) : Option Nat := do
  let a ← hexValue? a
  let b ← hexValue? b
  let c ← hexValue? c
  let d ← hexValue? d
  return a * 4096 + b * 256 + c * 16 + d

/-- The character a one-letter escape stands for. -/
def simpleEscape? : Char → Option Char
  | '"' => some '"'
  | '\\' => some '\\'
  | '/' => some '/'
  | 'b' => some '\x08'
  | 'f' => some '\x0c'
  | 'n' => some '\n'
  | 'r' => some '\r'
  | 't' => some '\t'
  | _ => none

/-- The characters of a string up to its closing quote, and what follows the quote. -/
def stringRest : List Char → Except ReadError ((List Char) × List Char)
  | [] => failOn .endInString []
  | '"' :: s => .ok ([], s)
  | ['\\'] => failOn .endInString []
  | '\\' :: 'u' :: a :: b :: c :: d :: s =>
    match hex4? a b c d with
    | none => failBehind .invalidEscape s
    | some n =>
      if n < 0xD800 ∨ 0xDFFF < n then
        (stringRest s).map fun (cs, r) => (Char.ofNat n :: cs, r)
      else if 0xDC00 ≤ n then failBehind .loneSurrogate s
      else match s with
        | '\\' :: 'u' :: a' :: b' :: c' :: d' :: s' =>
          match hex4? a' b' c' d' with
          | none => failBehind .invalidEscape s'
          | some n' =>
            if 0xDC00 ≤ n' ∧ n' ≤ 0xDFFF then
              (stringRest s').map fun (cs, r) =>
                (Char.ofNat ((n - 0xD800) * 0x400 + (n' - 0xDC00) + 0x10000) :: cs, r)
            else failBehind .loneSurrogate s'
        | '\\' :: 'u' :: _ => failOn .endInString []
        | ['\\'] => failOn .endInString []
        | '\\' :: s' => failOn .unfinishedEscape s'
        | s' => if s'.isEmpty then failOn .endInString [] else failOn .unfinishedEscape s'
  | '\\' :: 'u' :: _ => failOn .endInString []
  | '\\' :: c :: s =>
    match simpleEscape? c with
    | some e => (stringRest s).map fun (cs, r) => (e :: cs, r)
    | none => failOn .invalidEscape (c :: s)
  | c :: s =>
    if c.toNat < 0x20 then failOn .controlCharacter (c :: s)
    else (stringRest s).map fun (cs, r) => (c :: cs, r)

/-! ### Numbers -/

/-- Appends decimal digits to `acc` as long as the result fits 64 bits; also how many digits were
    appended and how many were left over. -/
def takeDigits (acc : Nat) : List Char → Nat × Nat × Nat
  | [] => (acc, 0, 0)
  | c :: cs =>
    let next := acc * 10 + (c.toNat - '0'.toNat)
    if next ≤ 0xffffffffffffffff then
      let (value, kept, dropped) := takeDigits next cs
      (value, kept + 1, dropped)
    else (acc, 0, cs.length + 1)

/-- Scales a double by a power of ten; none if the result is too large. Powers below `-308` are
    divided out in steps, each with its own rounding. -/
def scaleTen : (fuel : Nat) → Double → Int → Option Double
  | 0, d, _ => some (Double.zero d.negative)
  | fuel + 1, d, e =>
    if e.natAbs ≤ 308 then do
      let power ← Double.ofNat? (Nat.pow 10 e.natAbs)
      if 0 ≤ e then d.mul power else d.div power
    else if d.isZero then some d
    else if 0 ≤ e then none
    else do
      let power ← Double.ofNat? (Nat.pow 10 308)
      let d ← d.div power
      scaleTen fuel d (e + 308)

/-- A number in its written parts. -/
structure Numeral where
  negative : Bool
  whole : List Char
  fraction : List Char
  /-- Sign and digits of the exponent. -/
  exponent : Option (Bool × List Char)
deriving DecidableEq, Repr

namespace Numeral

/-- The value of the exponent digits, cut off where it can not matter any more. -/
def exponentValue (n : Numeral) : Int :=
  match n.exponent with
  | none => 0
  | some (negative, digits) =>
    let v : Nat := digits.foldl (fun a c => min (a * 10 + (c.toNat - '0'.toNat)) 0x80000000) 0
    if negative then -v else v

/-- The number a numeral stands for; none if it is too large to be finite. -/
def number? (n : Numeral) : Option Number :=
  let (whole, _, dropped) := takeDigits 0 n.whole
  let asFloat (significand : Nat) (exponent : Int) : Option Number := do
    let d ← Double.ofNat? significand
    let d ← scaleTen 5 d exponent
    return .float (if n.negative then d.neg else d)
  if n.fraction.isEmpty && n.exponent.isNone then
    if dropped ≠ 0 then asFloat whole dropped
    else if n.negative then
      if 0 < whole ∧ whole ≤ 0x8000000000000000 then (Whole.ofInt? (-whole)).map .whole
      else asFloat whole 0
    else (Whole.ofInt? whole).map .whole
  else
    let (significand, kept, _) := takeDigits whole n.fraction
    asFloat significand (dropped - kept + n.exponentValue)

end Numeral

/-- The digits before the point. There is at least one, and behind a leading zero no other. -/
def wholeRest : List Char → Except ReadError (List Char × List Char)
  | [] => failOn .endInValue []
  | '0' :: c :: r =>
    if c.isDigit then failOn .invalidNumber (c :: r) else .ok (['0'], c :: r)
  | c :: r =>
    if c.isDigit then .ok ((c :: r).takeWhile Char.isDigit, r.dropWhile Char.isDigit)
    else failOn .invalidNumber (c :: r)

/-- The digits behind the point, if there is one. -/
def fractionRest : List Char → Except ReadError (List Char × List Char)
  | '.' :: [] => failOn .endInValue []
  | '.' :: c :: t =>
    if c.isDigit then .ok ((c :: t).takeWhile Char.isDigit, t.dropWhile Char.isDigit)
    else failOn .invalidNumber (c :: t)
  | r => .ok ([], r)

/-- The digits of an exponent, behind its sign. -/
def exponentDigits (negative : Bool) :
    List Char → Except ReadError ((Bool × List Char) × List Char)
  | [] => failOn .endInValue []
  | c :: r =>
    if c.isDigit then .ok ((negative, (c :: r).takeWhile Char.isDigit), r.dropWhile Char.isDigit)
    else failOn .invalidNumber (c :: r)

/-- The exponent of a number, if there is one. -/
def exponentRest : List Char → Except ReadError (Option (Bool × List Char) × List Char)
  | c :: r =>
    if c = 'e' ∨ c = 'E' then
      (match r with
        | '+' :: r => exponentDigits false r
        | '-' :: r => exponentDigits true r
        | r => exponentDigits false r).map fun (exponent, r) => (some exponent, r)
    else .ok (none, c :: r)
  | [] => .ok (none, [])

/-- The written parts of a number whose sign has been read. -/
def numeral (negative : Bool) (s : List Char) : Except ReadError (Numeral × List Char) := do
  let (whole, s) ← wholeRest s
  let (fraction, s) ← fractionRest s
  let (exponent, s) ← exponentRest s
  .ok (⟨negative, whole, fraction, exponent⟩, s)

def number (negative : Bool) (s : List Char) : Except ReadError (Json × List Char) := do
  let (n, s) ← numeral negative s
  match n.number? with
  | some n => .ok (.number n, s)
  | none => failBehind .numberOutOfRange s

/-! ### Values -/

mutual

/-- One value. Every call reads at least one character, so the length of the text is fuel enough;
    `depth` is how many more containers may be opened. -/
def value : (fuel depth : Nat) → List Char → Except ReadError (Json × List Char)
  | 0, _, s => failOn .endInValue s
  | fuel + 1, depth, s =>
    match skipBlank s with
    | [] => failOn .endInValue []
    | '"' :: r => do
      let (cs, r) ← stringRest r
      .ok (.string (String.ofList cs), r)
    | '[' :: r =>
      match depth with
      | 0 => failOn .tooDeep ('[' :: r)
      | depth + 1 =>
        match skipBlank r with
        | [] => failOn .endInList []
        | ']' :: r => .ok (.array [], r)
        | r => do
          let (v, r) ← value fuel depth r
          let (vs, r) ← itemsRest fuel depth r
          .ok (.array (v :: vs), r)
    | '{' :: r =>
      match depth with
      | 0 => failOn .tooDeep ('{' :: r)
      | depth + 1 =>
        match skipBlank r with
        | [] => failOn .endInObject []
        | '}' :: r => .ok (.object [], r)
        | r => do
          let (f, r) ← field fuel depth r
          let (fs, r) ← fieldsRest fuel depth r
          .ok (.object (Fields.ofList (f :: fs)), r)
    | 'n' :: r => (literalRest "ull".toList r).map fun r => (.null, r)
    | 't' :: r => (literalRest "rue".toList r).map fun r => (.bool true, r)
    | 'f' :: r => (literalRest "alse".toList r).map fun r => (.bool false, r)
    | '-' :: r => number true r
    | c :: r => if c.isDigit then number false (c :: r) else failOn .expectedValue (c :: r)

/-- The items after the first one, up to the closing bracket. -/
def itemsRest : (fuel depth : Nat) → List Char → Except ReadError ((List Json) × List Char)
  | 0, _, s => failOn .endInList s
  | fuel + 1, depth, s =>
    match skipBlank s with
    | [] => failOn .endInList []
    | ']' :: r => .ok ([], r)
    | ',' :: r =>
      match skipBlank r with
      | [] => failOn .endInValue []
      | ']' :: r => failOn .trailingComma (']' :: r)
      | r => do
        let (v, r) ← value fuel depth r
        let (vs, r) ← itemsRest fuel depth r
        .ok (v :: vs, r)
    | r => failOn .expectedListEnd r

/-- A field: its name, a colon and its value. -/
def field : (fuel depth : Nat) → List Char → Except ReadError ((String × Json) × List Char)
  | 0, _, s => failOn .endInObject s
  | fuel + 1, depth, s =>
    match s with
    | '"' :: r => do
      let (name, r) ← stringRest r
      match skipBlank r with
      | [] => failOn .endInObject []
      | ':' :: r => do
        let (v, r) ← value fuel depth r
        .ok ((String.ofList name, v), r)
      | r => failOn .expectedColon r
    | r => failOn .keyNotString r

/-- The fields after the first one, up to the closing brace. -/
def fieldsRest : (fuel depth : Nat) → List Char →
    Except ReadError ((List (String × Json)) × List Char)
  | 0, _, s => failOn .endInObject s
  | fuel + 1, depth, s =>
    match skipBlank s with
    | [] => failOn .endInObject []
    | '}' :: r => .ok ([], r)
    | ',' :: r =>
      match skipBlank r with
      | [] => failOn .endInValue []
      | '}' :: r => failOn .trailingComma ('}' :: r)
      | r => do
        let (f, r) ← field fuel depth r
        let (fs, r) ← fieldsRest fuel depth r
        .ok (f :: fs, r)
    | r => failOn .expectedObjectEnd r

end

end Reader

/-- How deep containers may nest. -/
def maxDepth : Nat := 127

/-- The value of a text. -/
def read (text : String) : Except ReadError Json :=
  let s := text.toList
  match Reader.value (2 * s.length + 1) maxDepth s with
  | .error e => .error e
  | .ok (v, r) =>
    match Reader.skipBlank r with
    | [] => .ok v
    | r => failOn .trailingCharacters r

def read? (text : String) : Option Json := (read text).toOption

/-- The fields of an object as they are written: in order, with every repetition of a name. None
    if the text is not that of an object. -/
def readFields? (text : String) : Option (List (String × Json)) :=
  let fuel := 2 * text.length + 1
  let written : Except ReadError (List (String × Json) × List Char) :=
    match Reader.skipBlank text.toList with
    | '{' :: r =>
      match Reader.skipBlank r with
      | '}' :: r => .ok ([], r)
      | r => do
        let (f, r) ← Reader.field fuel (maxDepth - 1) r
        let (fs, r) ← Reader.fieldsRest fuel (maxDepth - 1) r
        .ok (f :: fs, r)
    | r => failOn .expectedValue r
  match written with
  | .ok (fields, r) => if (Reader.skipBlank r).isEmpty then some fields else none
  | .error _ => none

end EntityGraph.Json
