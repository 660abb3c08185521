import EntityGraph.Error
import EntityGraph.Language.Lexical
import EntityGraph.Language.Position
import EntityGraph.Language.TypeRef
import EntityGraph.Language.Value

/-!
# Reading steps

A reading step takes characters from the front of a text, or fails. Alternatives are ordered and a
repetition takes as much as it can, so a text is read in at most one way. A word of the language
needs no delimiter behind it: `queryName` is the word `query` and a name.

Most steps skip the layout behind what they read; those called *tight* do not. The steps which
read nested parts take a bound on their depth; `Grammar.run` provides one which is never reached.

What is well written may still be at fault, as a number out of range is. The first such fault is
noted on the way, and counts only if the whole text can be read.
-/

namespace EntityGraph

/-- A fault and the places in the document it is about. -/
structure DocumentError where
  fault : ParseFault
  positions : List Position

/-- How far a document is read. -/
structure Cursor where
  rest : List Char
  ruler : Ruler
  /-- The first fault of what was read. -/
  fault : Option DocumentError

namespace Cursor

def start (text : String) : Cursor := ⟨text.toList, ⟨.start, text.toList⟩, none⟩

/-- The cursor behind some characters, `rest` being what follows them. -/
def behind (c : Cursor) (taken rest : List Char) : Cursor :=
  { c with
    rest
    ruler := c.ruler.advance (taken.foldl (fun size char => size + char.utf8Size) 0) }

def skipLayout (c : Cursor) : Cursor :=
  let (taken, rest) := Lexical.layout c.rest
  c.behind taken rest

/-- Notes a fault unless there is one before. -/
def note (c : Cursor) (e : DocumentError) : Cursor := { c with fault := c.fault.or (some e) }

end Cursor

/-- A step reading an `α`. -/
abbrev Grammar (α : Type) := StateT Cursor Option α

namespace Grammar

/-! ### Combining steps -/

/-- Reads all of a text, whose first fault is told beside what is read. -/
def run {α : Type} (step : Nat → Grammar α) (text : String) : Option (α × Option DocumentError) :=
  match step (text.length + 1) (Cursor.start text).skipLayout with
  | some (a, ⟨[], _, fault⟩) => some (a, fault)
  | _ => none

/-- Reads an `α` if there is one. -/
def optional {α : Type} (step : Grammar α) : Grammar (Option α) := fun s =>
  match step s with
  | some (a, rest) => some (some a, rest)
  | none => some (none, s)

/-- Reads as the first of two steps which succeeds. -/
def orElse {α : Type} (first second : Grammar α) : Grammar α := fun s =>
  match first s with
  | some result => some result
  | none => second s

/-- Reads as the first of several steps which succeeds. -/
def oneOf {α : Type} (steps : List (Grammar α)) : Grammar α := fun s =>
  steps.findSome? fun step => step s

/-- Reads as often as possible, at most `bound` times. -/
def many {α : Type} (bound : Nat) (step : Grammar α) : Grammar (List α) := fun s =>
  match bound with
  | 0 => some ([], s)
  | bound + 1 =>
    match step s with
    | some (a, rest) =>
      match many bound step rest with
      | some (more, rest) => some (a :: more, rest)
      | none => none
    | none => some ([], s)

/-- Reads as often as possible, at least once. -/
def some1 {α : Type} (bound : Nat) (step : Grammar α) : Grammar (List α) := do
  let first ← step
  let more ← many bound step
  return first :: more

/-- Succeeds, reading nothing, unless the step would succeed. -/
def notAhead {α : Type} (step : Grammar α) : Grammar Unit := fun s =>
  match step s with
  | some _ => none
  | none => some ((), s)

/-- Where the next part stands. -/
def position : Grammar Position := fun s => some (s.ruler.position, s)

def note (e : DocumentError) : Grammar Unit := fun s => some ((), s.note e)

def layout : Grammar Unit := fun s => some ((), s.skipLayout)

/-- Skips the layout behind a step, and tells where the step began. -/
def loose {α : Type} (step : Grammar α) : Grammar (Located α) := do
  let p ← position
  let a ← step
  layout
  return ⟨a, p⟩

/-! ### Marks, words and names -/

/-- Reads certain characters. -/
def tightMark (text : String) : Grammar Unit := fun s =>
  if text.toList.isPrefixOf s.rest then
    some ((), s.behind text.toList (s.rest.drop text.length))
  else none

def tightName : Grammar String := fun s =>
  match Lexical.name? s.rest with
  | some (chars, rest) => some (String.ofList chars, s.behind chars rest)
  | none => none

/-- One or more blanks. -/
def blanks : Grammar Unit := fun s =>
  match s.rest.takeWhile Lexical.isBlank with
  | [] => none
  | taken => some ((), s.behind taken (s.rest.dropWhile Lexical.isBlank))

/-- Reads a mark or a word of the language and tells where it stands. -/
def mark (text : String) : Grammar Position := do return (← loose (tightMark text)).position

def name : Grammar (Located String) := loose tightName

/-- A name other than those of the boolean values and of null. -/
def enumName : Grammar (Located String) := do
  notAhead (oneOf (["true", "false", "null"].map tightMark))
  name

/-! ### Numbers and strings -/

/-- Reads what a reader of characters does, together with its characters. -/
def lexical {α : Type} (reader? : List Char → Option (α × List Char)) :
    Grammar (Located (α × List Char)) :=
  loose fun s =>
    match reader? s.rest with
    | some (a, rest) =>
      let taken := s.rest.take (s.rest.length - rest.length)
      some ((a, taken), s.behind taken rest)
    | none => none

def string : Grammar String := do
  return String.ofList (← lexical Lexical.string?).value.1

/-- Why a numeral stands for no number. -/
def numberFault? (text : String) : Option ParseFault :=
  match Json.read text with
  | .error e => some (.invalidNumber (e.message text))
  | .ok _ => none

/-- A number, none if it is out of range, which is a fault. -/
def number : Grammar (Option Number) := do
  let ⟨(numeral, chars), p⟩ ← lexical Lexical.numeral?
  let n := numeral.number?
  if n.isNone then
    for fault in numberFault? (String.ofList chars) do note ⟨fault, [p]⟩
  return n

/-! ### Types and values -/

/-- A type reference, which holds no layout. -/
def tightType (depth : Nat) : Grammar TypeRef :=
  match depth with
  | 0 => failure
  | depth + 1 => do
    let base ← orElse (do return .named (← tightName)) (do
      tightMark "["
      let item ← tightType depth
      tightMark "]"
      return .list item)
    let bang ← optional (tightMark "!")
    return if bang.isSome then .nonNull base else base

def typeRef (depth : Nat) : Grammar (Located TypeRef) := loose (tightType depth)

/-- A literal, `var` reading its variables. -/
def literal {ν : Type} (var : Grammar ν) (depth : Nat) : Grammar (Literal ν) :=
  match depth with
  | 0 => failure
  | depth + 1 => oneOf
    [do return .variable (← var),
      do return (← number).elim .null .number,
      do return .string (← string),
      do let _ ← mark "true"; return .bool true,
      do let _ ← mark "false"; return .bool false,
      do let _ ← mark "null"; return .null,
      do return .enum (← enumName).value,
      do
        let _ ← mark "["
        let items ← many depth (literal var depth)
        let _ ← mark "]"
        return .list items,
      do
        let _ ← mark "\x7b"
        let fields ← many depth (do
          let key ← name
          let _ ← mark ":"
          return (key.value, ← literal var depth))
        let _ ← mark "\x7d"
        return .object
          (fields.foldl (fun acc (f : String × Literal ν) => Literal.setField f.1 f.2 acc) [])]

/-- The name of a variable. -/
def variableName : Grammar (Located String) := do
  let p ← mark "$"
  let n ← name
  return ⟨n.value, p⟩

/-- No variable. -/
def noVariable : Grammar Empty := failure

end Grammar

/-- An argument of a field or a directive. -/
structure Argument (ν : Type) where
  name : Located String
  value : Located (Literal ν)

/-- A directive with its arguments. -/
structure DirectiveUse (ν : Type) where
  position : Position
  name : Located String
  arguments : List (Argument ν)

/-- An argument by name; of two the first counts. -/
def DirectiveUse.argument? {ν : Type} (d : DirectiveUse ν) (name : String) :
    Option (Located (Literal ν)) :=
  (d.arguments.find? fun a => a.name.value = name).map (·.value)

namespace Grammar

variable {ν : Type}

def argument (var : Grammar ν) (depth : Nat) : Grammar (Argument ν) := do
  let n ← name
  let _ ← mark ":"
  let p ← position
  let v ← literal var depth
  return ⟨n, ⟨v, p⟩⟩

/-- Arguments in parentheses, at least one. -/
def arguments (var : Grammar ν) (depth : Nat) : Grammar (List (Argument ν)) := do
  let _ ← mark "("
  let args ← some1 depth (argument var depth)
  let _ ← mark ")"
  return args

/-- Any number of directives. -/
def directives (var : Grammar ν) (depth : Nat) : Grammar (List (DirectiveUse ν)) :=
  many depth do
    let p ← mark "@"
    let n ← name
    let args ← optional (arguments var depth)
    return ⟨p, n, args.getD []⟩

/-- The value behind an equals sign. -/
def defaultValue (depth : Nat) : Grammar (Located Constant) := do
  let _ ← mark "="
  let p ← position
  let v ← literal noVariable depth
  return ⟨v, p⟩

end Grammar

end EntityGraph
