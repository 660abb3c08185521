import EntityGraph.Json.Reader

/-!
# Configuration

Where the documents are which a schema is built from. A configuration may be written as a JSON
object or as a list of its values in order; what is missing has its default.
-/

namespace EntityGraph

structure Configuration where
  /-- Path of the schema document. -/
  schemaPath : String
  /-- Path of the index from encoded keys to document paths. -/
  indexPath : String
deriving DecidableEq, Repr

namespace Configuration

def default : Configuration := ⟨"schema.graphql", "index.json"⟩

def schemaPathKey : String := "schema_path"

def indexPathKey : String := "index_path"

/-- The only value written under a name, if there is one. It has to be a string. -/
def setting? (name fallback : String) (fields : List (String × Json)) : Option String :=
  match fields.filter fun f => f.1 = name with
  | [] => some fallback
  | [(_, .string value)] => some value
  | _ => none

/-- The configuration of the fields of an object. Unknown fields do not matter. -/
def ofFields? (fields : List (String × Json)) : Option Configuration := do
  let schemaPath ← setting? schemaPathKey default.schemaPath fields
  let indexPath ← setting? indexPathKey default.indexPath fields
  return ⟨schemaPath, indexPath⟩

def ofItems? : List Json → Option Configuration
  | [] => some default
  | [.string schemaPath] => some ⟨schemaPath, default.indexPath⟩
  | [.string schemaPath, .string indexPath] => some ⟨schemaPath, indexPath⟩
  | _ => none

/-- The configuration a JSON text stands for. -/
def read? (text : String) : Option Configuration :=
  match Json.read? text with
  | some (.object _) => (Json.readFields? text).bind ofFields?
  | some (.array items) => ofItems? items
  | _ => none

end Configuration

end EntityGraph
