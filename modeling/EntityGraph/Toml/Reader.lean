import EntityGraph.Text.Decimal
import EntityGraph.Toml.Scalar

/-!
# Reading TOML documents

A document is read line by line: each line holds a statement, a comment, both or nothing. The
statements extend the table read so far one after the other. Values nest at most
`Toml.maxDepth` deep, and dotted keys have at most as many parts.

* `Toml.read`: the table a text stands for, or where it is no document.
-/

namespace EntityGraph.Toml

/-! ### Layout -/

/-- What is behind a comment, which ends where the line does. -/
def skipComment (cs : List Char) : List Char :=
  match cs with
  | '#' :: rest => rest.dropWhile isPrintable
  | cs => cs

/-- What is behind blanks, comments and line ends. -/
def skipLayout (fuel : Nat) (cs : List Char) : List Char :=
  match fuel with
  | 0 => cs
  | fuel + 1 =>
    let rest := skipComment (skipBlanks cs)
    (lineEnd? rest).elim rest (skipLayout fuel)

/-- What is behind the rest of a line without statement. -/
def endLine? (cs : List Char) : Option (List Char) :=
  match skipComment (skipBlanks cs) with
  | [] => some []
  | rest => lineEnd? rest

/-! ### Keys -/

def isKeyChar (c : Char) : Bool := c.isAlphanum || c == '_' || c == '-'

/-- A key without dots. -/
def simpleKey (cs : List Char) : Option (String × List Char) :=
  match cs with
  | '"' :: rest =>
    (basicRest rest.length rest).map fun (s, rest) => (String.ofList s, rest)
  | '\'' :: rest => (literalRest rest).map fun (s, rest) => (String.ofList s, rest)
  | cs =>
    let chars := cs.takeWhile isKeyChar
    if chars.isEmpty then none else some (String.ofList chars, cs.dropWhile isKeyChar)

/-- How deep values nest, and how many parts a key may have. -/
def maxDepth : Nat := 79

/-- A key of at most `bound` parts which are separated by dots: the parts before the last one, and
    that one. -/
def keyWithin (bound : Nat) (cs : List Char) : Option ((List String × String) × List Char) :=
  match bound with
  | 0 => none
  | bound + 1 => do
    let (part, rest) ← simpleKey (skipBlanks cs)
    match skipBlanks rest with
    | '.' :: rest => do
      let ((path, key), rest) ← keyWithin bound rest
      return ((part :: path, key), rest)
    | rest => return (([], part), rest)

def dottedKey (cs : List Char) : Option ((List String × String) × List Char) :=
  keyWithin maxDepth cs

/-! ### Values -/

/-- The items of an array up to its closing bracket. -/
def items (value : Reader TomlValue) (fuel : Nat) (cs : List Char) :
    Option (List TomlValue × List Char) :=
  match fuel with
  | 0 => none
  | fuel + 1 =>
    match skipLayout cs.length cs with
    | ']' :: rest => some ([], rest)
    | cs => do
      let (v, rest) ← value cs
      match skipLayout rest.length rest with
      | ',' :: rest => do
        let (more, rest) ← items value fuel rest
        return (v :: more, rest)
      | ']' :: rest => return ([v], rest)
      | _ => none

/-- A key and its value. -/
def keyValue (value : Reader TomlValue) (cs : List Char) :
    Option ((List String × String × TomlValue) × List Char) := do
  let ((path, key), rest) ← dottedKey cs
  let rest ← mark? '=' rest
  let (v, rest) ← value (skipBlanks rest)
  return ((path, key, v), rest)

/-- The fields of a table in braces up to its closing brace; at least one. -/
def fields (value : Reader TomlValue) (fuel : Nat) (t : TomlTable) (cs : List Char) :
    Option (TomlTable × List Char) :=
  match fuel with
  | 0 => none
  | fuel + 1 => do
    let ((path, key, v), rest) ← keyValue value cs
    let t ← t.define path key v
    match skipBlanks rest with
    | ',' :: rest => fields value fuel t rest
    | '}' :: rest => return (t, rest)
    | _ => none

/-- A value nested at most `depth` deep. -/
def value (depth : Nat) (cs : List Char) : Option (TomlValue × List Char) :=
  match cs with
  | '[' :: rest =>
    match depth with
    | 0 => none
    | depth + 1 =>
      (items (value depth) (rest.length + 1) rest).map fun (vs, rest) => (.array vs, rest)
  | '{' :: rest =>
    match depth with
    | 0 => none
    | depth + 1 =>
      match skipBlanks rest with
      | '}' :: rest => some (.inlineTable [], rest)
      | rest =>
        (fields (value depth) (rest.length + 1) [] rest).map fun (t, rest) =>
          (.inlineTable t, rest)
  | cs => scalar cs

/-! ### Documents -/

/-- The document read so far and the path of the table opened last. -/
structure Progress where
  opened : List String
  table : TomlTable

namespace Progress

/-- Reads the statement at the front of a text. -/
def statement (p : Progress) (cs : List Char) : Option (Progress × List Char) :=
  match cs with
  | '[' :: '[' :: rest => do
    let ((path, key), rest) ← dottedKey rest
    let rest ← mark? ']' (← mark? ']' rest)
    return (⟨path ++ [key], ← p.table.arrayHeader path key⟩, rest)
  | '[' :: rest => do
    let ((path, key), rest) ← dottedKey rest
    let rest ← mark? ']' rest
    return (⟨path ++ [key], ← p.table.header path key⟩, rest)
  | cs => do
    let ((path, key, v), rest) ← keyValue (value maxDepth) cs
    return ({ p with table := ← p.table.defineIn p.opened path key v }, rest)

/-- Reads a text to its end; what is left where this fails. -/
def finish (fuel : Nat) (p : Progress) (cs : List Char) : Except (List Char) TomlTable :=
  match fuel with
  | 0 => .error cs
  | fuel + 1 =>
    match skipLayout cs.length cs with
    | [] => .ok p.table
    | cs =>
      match (p.statement cs).bind fun (p, rest) => (endLine? rest).map (p, ·) with
      | some (p, rest) => finish fuel p rest
      | none => .error cs

end Progress

/-- Where a document can not be read: the line and the column of a statement. -/
structure Fault where
  line : Nat
  column : Nat
deriving DecidableEq, Repr

def Fault.message (f : Fault) : String :=
  s!"TOML parse error at line {Text.decimal f.line}, column {Text.decimal f.column}"

/-- The fault of a text of which `rest` is left. -/
def Fault.before (text rest : List Char) : Fault :=
  let done := text.take (text.length - rest.length)
  ⟨1 + done.count '\n', 1 + (done.reverse.takeWhile (· ≠ '\n')).length⟩

/-- The table a text stands for. A byte order mark in front of it is left out. -/
def read (text : String) : Except Fault TomlTable :=
  let cs := match text.toList with
    | '\ufeff' :: rest => rest
    | cs => cs
  (Progress.finish (cs.length + 1) ⟨[], []⟩ cs).mapError (Fault.before cs)

end EntityGraph.Toml
