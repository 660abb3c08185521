import EntityGraph.Schema.Basic

/-!
# Text of a schema

Types are written in the order of their names, each followed by an empty line. Built-in scalars
write nothing but that line, and types of introspection not even that. Lines inside of a type are
indented by tabs; descriptions are block strings on lines of their own. The arguments of a field
stand on one line unless one of them has a description. Objects name their interfaces, interfaces
do not.
-/

namespace EntityGraph

namespace SchemaType

/-- A description as a block string whose lines are indented. -/
def descriptionText (indent : String) : Option String → String
  | none => ""
  | some d =>
    let body := String.intercalate ("\n" ++ indent) (d.splitOn "\n")
    indent ++ "\"\"\"\n" ++ indent ++ body ++ "\n" ++ indent ++ "\"\"\"\n"

/-- An argument or an input field with its default. -/
def inputValueText (v : InputValue) : String :=
  v.name ++ ": " ++ v.type.text ++ v.default.elim "" fun d => " = " ++ Constant.text d

/-- Arguments in parentheses, one by one on lines of their own if `spread` is set. -/
def argumentTexts (spread : Bool) : Bool → List InputValue → String
  | _, [] => ""
  | first, a :: rest =>
    (if first then "" else ",")
      ++ (if a.description.isSome then "\n" ++ descriptionText "\t\t" a.description else "")
      ++ (if spread then "\t\t" else if first then "" else " ")
      ++ inputValueText a ++ argumentTexts spread false rest

def argumentsText (arguments : List InputValue) : String :=
  if arguments.isEmpty then ""
  else
    let spread := arguments.any (·.description.isSome)
    "(" ++ argumentTexts spread true arguments ++ (if spread then "\n\t)" else ")")

def fieldText (f : FieldConfig) : String :=
  if isReserved f.name then ""
  else descriptionText "\t" f.description ++ "\t" ++ f.name ++ argumentsText f.arguments ++ ": "
    ++ f.type.text ++ "\n"

def implementsText (interfaces : List String) : String :=
  if interfaces.isEmpty then "" else " implements " ++ String.intercalate " & " interfaces

/-- A keyword, what is between it and the braces, and lines in braces. -/
def bodyText (head : String) (lines : List String) : String :=
  head ++ " \x7b\n" ++ String.join lines ++ "\x7d\n"

def body (t : SchemaType) : String :=
  match t with
  | .scalar t => "scalar " ++ t.name ++ "\n"
  | .object o =>
    bodyText ("type " ++ o.name ++ implementsText o.interfaces) (t.fields.map fieldText)
  | .interface i =>
    bodyText ("interface " ++ i.name) (i.fields.map fieldText)
  | .union u => "union " ++ u.name ++ " ="
      ++ (if u.members.isEmpty then "" else " " ++ String.intercalate " | " u.members) ++ "\n"
  | .enum e => bodyText ("enum " ++ e.name) (e.values.map fun v => "\t" ++ v ++ "\n")
  | .input i => bodyText ("input " ++ i.name) <| i.fields.map fun f =>
      descriptionText "\t" f.description ++ "\t" ++ inputValueText f ++ "\n"

/-- A type with its description; nothing for a built-in scalar. -/
def text (t : SchemaType) : String :=
  if t.name ∈ builtInScalars then "" else descriptionText "" t.description ++ t.body

end SchemaType

/-- The text of a schema. -/
def Schema.text (s : Schema) : String :=
  let types := (s.types.filter fun t => !isReserved t.name).mergeSort
    fun a b => a.name ≤ b.name
  String.join (types.map fun t => t.text ++ "\n")
    ++ SchemaType.bodyText "schema" ["\tquery: " ++ s.queryType ++ "\n"]

end EntityGraph
