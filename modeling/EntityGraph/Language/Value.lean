import EntityGraph.Json.Text

/-!
# Values written in GraphQL documents

A literal may hold variables, a constant does not: `Literal ν` is the type of literals whose
variables are of type `ν`, so that a constant is a literal over the empty type.
-/

namespace EntityGraph

/-- A value as it is written in a document. -/
inductive Literal (ν : Type) where
  | variable (v : ν)
  | null
  | bool (value : Bool)
  | number (value : Number)
  | string (value : String)
  | enum (name : String)
  | list (items : List (Literal ν))
  | object (fields : List (String × Literal ν))

/-- A value without variables. -/
abbrev Constant := Literal Empty

/-- Values of variables by name. -/
abbrev Variables := List (String × Constant)

namespace Literal

variable {ν : Type}

instance : Inhabited (Literal ν) := ⟨.null⟩

/-- Sets a field of an object which is kept in the order of writing: a field set again keeps its
    place. -/
def setField (name : String) (value : Literal ν) :
    List (String × Literal ν) → List (String × Literal ν)
  | [] => [(name, value)]
  | (n, v) :: rest => if n = name then (n, value) :: rest else (n, v) :: setField name value rest

/-- The escape of a character in a string literal, or the character itself. -/
def escapeChar (c : Char) : List Char :=
  match c with
  | '\r' => ['\\', 'r']
  | '\n' => ['\\', 'n']
  | '\t' => ['\\', 't']
  | '"' => ['\\', '"']
  | '\\' => ['\\', '\\']
  | c => if c.toNat < 0x20 ∨ (0x7f ≤ c.toNat ∧ c.toNat < 0xa0) then
      "\\u".toList ++ (Nat.toDigits 10 c.toNat |> fun d => List.replicate (4 - d.length) '0' ++ d)
    else [c]

/-- A string between quotes. -/
def quote (s : String) : String := String.ofList ('"' :: (s.toList.flatMap escapeChar ++ ['"']))

mutual

/-- The text of a literal, `var` writing its variables. -/
def text (var : ν → String) : Literal ν → String
  | .variable v => var v
  | .null => "null"
  | .bool true => "true"
  | .bool false => "false"
  | .number n => n.text
  | .string s => quote s
  | .enum name => name
  | .list items => "[" ++ String.intercalate "," (texts var items) ++ "]"
  | .object fields => "\x7b" ++ String.intercalate "," (fieldTexts var fields) ++ "\x7d"

def texts (var : ν → String) : List (Literal ν) → List String
  | [] => []
  | v :: rest => text var v :: texts var rest

def fieldTexts (var : ν → String) : List (String × Literal ν) → List String
  | [] => []
  | (n, v) :: rest => (n ++ ": " ++ text var v) :: fieldTexts var rest

end

mutual

/-- The JSON value of a literal, `var` giving the values of its variables. The name of an enum
    value becomes a string. -/
def toJson (var : ν → Json) : Literal ν → Json
  | .variable v => var v
  | .null => .null
  | .bool b => .bool b
  | .number n => .number n
  | .string s => .string s
  | .enum name => .string name
  | .list items => .array (toJsonItems var items)
  | .object fields => .object (toJsonFields var fields)

def toJsonItems (var : ν → Json) : List (Literal ν) → List Json
  | [] => []
  | v :: rest => toJson var v :: toJsonItems var rest

def toJsonFields (var : ν → Json) : List (String × Literal ν) → Json.Fields
  | [] => []
  | (n, v) :: rest => Json.Fields.insert n (toJson var v) (toJsonFields var rest)

end

mutual

/-- The constant a literal becomes once its variables have values; none if one of them has no
    value. -/
def substitute (var : ν → Option Constant) : Literal ν → Option Constant
  | .variable v => var v
  | .null => some .null
  | .bool b => some (.bool b)
  | .number n => some (.number n)
  | .string s => some (.string s)
  | .enum name => some (.enum name)
  | .list items => (substituteItems var items).map .list
  | .object fields => (substituteFields var fields).map .object

def substituteItems (var : ν → Option Constant) : List (Literal ν) → Option (List Constant)
  | [] => some []
  | v :: rest => do return (← substitute var v) :: (← substituteItems var rest)

def substituteFields (var : ν → Option Constant) :
    List (String × Literal ν) → Option (List (String × Constant))
  | [] => some []
  | (n, v) :: rest => do return (n, ← substitute var v) :: (← substituteFields var rest)

end

mutual

/-- Both literals are the same value, the order of object fields apart. -/
def alike [BEq ν] : Literal ν → Literal ν → Bool
  | .variable v, .variable w => v == w
  | .null, .null => true
  | .bool b, .bool c => b == c
  | .number n, .number m => n.alike m
  | .string s, .string t => s == t
  | .enum name, .enum other => name == other
  | .list items, .list others => itemsAlike items others
  | .object fields, .object others =>
    fields.length == others.length && fieldsAlike fields others
  | _, _ => false

def itemsAlike [BEq ν] : List (Literal ν) → List (Literal ν) → Bool
  | [], [] => true
  | v :: rest, w :: others => alike v w && itemsAlike rest others
  | _, _ => false

/-- All fields are among the others, with the same values. -/
def fieldsAlike [BEq ν] : List (String × Literal ν) → List (String × Literal ν) → Bool
  | [], _ => true
  | (name, v) :: rest, others =>
    (match others.lookup name with
      | some w => alike v w
      | none => false) && fieldsAlike rest others

end

mutual

/-- The variables of a literal in order of writing. -/
def usedVariables : Literal ν → List ν
  | .variable v => [v]
  | .list items => itemVariables items
  | .object fields => fieldVariables fields
  | _ => []

def itemVariables : List (Literal ν) → List ν
  | [] => []
  | v :: rest => usedVariables v ++ itemVariables rest

def fieldVariables : List (String × Literal ν) → List ν
  | [] => []
  | (_, v) :: rest => usedVariables v ++ fieldVariables rest

end

end Literal

namespace Constant

mutual

/-- The constant of a JSON value. -/
def ofJson : Json → Constant
  | .null => .null
  | .bool b => .bool b
  | .number n => .number n
  | .string s => .string s
  | .array items => .list (ofItems items)
  | .object fields => .object (ofFields fields)

def ofItems : List Json → List Constant
  | [] => []
  | v :: rest => ofJson v :: ofItems rest

def ofFields : List (String × Json) → List (String × Constant)
  | [] => []
  | (n, v) :: rest => (n, ofJson v) :: ofFields rest

end

/-- The text of a constant. -/
def text (c : Constant) : String := Literal.text Empty.elim c

def toJson (c : Constant) : Json := Literal.toJson Empty.elim c

end Constant

end EntityGraph
