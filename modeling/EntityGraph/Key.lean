import EntityGraph.Json.Reader
import EntityGraph.Json.Text

/-!
# Entity keys

An entity is identified by some of its fields together with the name of its type, which is the
field `__typename`. The encoded key is the canonical text of that object: it is what the index is
asked for and, at the same time, the global id of the entity.
-/

namespace EntityGraph

/-- The field of a value which names its type. -/
def typenameField : String := "__typename"

/-- The fields identifying an entity. -/
abbrev EntityKey := Json.Fields

namespace EntityKey

/-- The key of a value of a type: the fields of the value, of which `__typename` is set to the
    name of the type. A value which is no object has no other fields. -/
def ofValue (value : Json) (type : String) : EntityKey :=
  Json.Fields.insert typenameField (.string type) value.fields

/-- The canonical text of a key. -/
def encode (key : EntityKey) : String := Json.canonicalText (.object key)

/-- The key a text stands for; none unless it is a JSON object. -/
def decode? (id : String) : Option EntityKey :=
  match Json.read? id with
  | some (.object fields) => some fields
  | _ => none

end EntityKey

end EntityGraph
