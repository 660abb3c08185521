import EntityGraph.Text.Decimal
import EntityGraph.Schema.Assembly
import EntityGraph.Text.Quoted

/-!
# Texts for developers

How values of the library look to a developer: the name of the kind of value, then its parts in
braces. Parts which have no text of their own are left out and stand as two points.
-/

namespace EntityGraph.Inspect

/-- The name of a structure and its parts, with a mark if there are others. -/
def record (name : String) (parts : List (String × String)) (hasMore : Bool) : String :=
  let texts := parts.map fun p => p.1 ++ ": " ++ p.2
  let texts := if hasMore then texts ++ [".."] else texts
  name ++ " \x7b " ++ String.intercalate ", " texts ++ " \x7d"

/-- The name of a kind of value and the value in parentheses. -/
def wrapped (name content : String) : String := name ++ "(" ++ content ++ ")"

def list (items : List String) : String := "[" ++ String.intercalate ", " items ++ "]"

def truth (b : Bool) : String := if b then "true" else "false"

def typeRef : TypeRef → String
  | .named name => wrapped "Named" (Text.quoted name)
  | .list item => wrapped "List" (typeRef item)
  | .nonNull inner => wrapped "NonNull" (typeRef inner)

def number : Number → String := Number.text

mutual

def constant : Constant → String
  | .variable v => v.elim
  | .null => "Null"
  | .bool b => wrapped "Boolean" (truth b)
  | .number n => wrapped "Number" (wrapped "Number" (number n))
  | .string s => wrapped "String" (Text.quoted s)
  | .enum name => wrapped "Enum" (wrapped "Name" (Text.quoted name))
  | .list items => wrapped "List" (list (constants items))
  | .object fields =>
    wrapped "Object" ("\x7b" ++ String.intercalate ", " (constantFields fields) ++ "\x7d")

def constants : List Constant → List String
  | [] => []
  | c :: rest => constant c :: constants rest

def constantFields : List (String × Constant) → List String
  | [] => []
  | (n, c) :: rest => (wrapped "Name" (Text.quoted n) ++ ": " ++ constant c) :: constantFields rest

end

def argument (a : InputValue) : String :=
  record "ArgConfig" [("name", Text.quoted a.name),
    ("description", Text.optional Text.quoted a.description), ("ty", typeRef a.type),
    ("default_value", Text.optional constant a.default)] false

def fieldConfig (f : FieldConfig) : String :=
  record "FieldConfig" [("name", Text.quoted f.name),
    ("description", Text.optional Text.quoted f.description), ("ty", typeRef f.type),
    ("kind", f.kind.name), ("arguments", list (f.arguments.map argument))] false

def objectField (f : ObjectField) : String :=
  record "ObjectField" [("config", fieldConfig f.config)] true

def slot {δ : Type} (s : TypeSlot δ) : String :=
  record "TypeSlot" [("name", Text.quoted s.name), ("kind", s.kind.name),
    ("pending", truth s.definition.isSome)] false

def typeMap {δ : Type} (map : TypeMap δ) : String :=
  record "TypeMap" [("slots", list (map.map slot))] false

/-- The type map while it is evaluated, and how many types have been generated. -/
def evaluation {δ : Type} (map : TypeMap δ) (generated : Nat) : String :=
  record "ThunkContext" [("type_map", typeMap map.begun),
    ("generated", Text.decimal generated)] false

def configuration (c : Configuration) : String :=
  record "Configuration" [("schema_path", Text.quoted c.schemaPath),
    ("index_path", Text.quoted c.indexPath)] false

/-- A source of suffixes tells nothing about itself. -/
def anySuffixes : String := "SuffixGenerator"

def countingSuffixes (next : Nat) : String :=
  record "CounterSuffix" [("next", Text.decimal next)] false

def randomSuffixes : String := "RandomSuffix"

/-- The options a schema is built with. -/
def options (config : Configuration) (hasLookup hasSuffixes : Bool) : String :=
  record "SchemaOptions" [("config", configuration config), ("custom_lookup", truth hasLookup),
    ("suffixes", if hasSuffixes then wrapped "Some" anySuffixes else "None")] false

def directory (root : String) : String :=
  record "DirectoryFetcher" [("root", Text.quoted root)] false

def indexLookup (indexPath : String) : String :=
  record "IndexLookup" [("index_path", Text.quoted indexPath)] false

def storage : String := record "Storage" [] true

def httpContext : String := record "HttpServiceContext" [] true

/-- An eventual value, shown if it is there. -/
def eventual {ε α : Type} (shown : α → String) (e : Eventual ε α) : String :=
  if e.isReady then wrapped "Ready" (shown e.wait) else "Pending"

def result {σ α : Type} (failure : σ → String) (shown : α → String) : Except σ α → String
  | .ok a => wrapped "Ok" (shown a)
  | .error e => wrapped "Err" (failure e)

end EntityGraph.Inspect
