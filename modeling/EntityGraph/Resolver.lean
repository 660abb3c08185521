import EntityGraph.KeyProjection
import EntityGraph.TypeMap

/-!
# Resolving fields

Where a field takes its value from is data: from the value of its parent, from the document of
its parent, the global id of its parent, the entity of a global id, or the entity of a key. So it
can be told for every field of a schema what it does, and `FieldSource.resolve` does it.

`OutputValue.ofJson` fits a resolved value to the type of its field.
-/

namespace EntityGraph

/-- What a resolver gets to know about the field it resolves. -/
structure ResolveParams where
  /-- The value the parent field resolved to, `null` on the query root. -/
  parent : Json
  arguments : Json.Fields
  fieldName : String
  /-- The object type the field is resolved on. -/
  parentType : String

/-- Where a field takes its value from. -/
inductive FieldSource where
  /-- The field of the parent value. -/
  | parentValue
  /-- The field of the document of the parent entity. -/
  | document
  /-- The global id of the parent, by its first key if it has one. -/
  | globalId (key : Option KeyProjection)
  /-- The entity whose global id is the argument. -/
  | node
  /-- The entity of a type whose key fields are the arguments. -/
  | byKey (type : String)

/-- Names of the generated fields and of their argument. -/
def idField : String := "id"

def nodeField : String := "node"

def idArgument : String := "id"

namespace FieldSource

/-- The field of an entity, read from its document. -/
def resolveDocument (storage : Storage) (p : ResolveParams) : RunResult ResolveError Json :=
  let key := EntityKey.ofValue p.parent p.parentType
  (Run.log .resolvers .trace
    s!"Resolve {p.parentType}.{p.fieldName} for {EntityKey.encode key}").andThen fun _ =>
    Eventual.map (Except.map fun document => (Json.Fields.get? p.fieldName document).getD .null)
      (storage.entity key)

/-- The id of a selected key. -/
def idOfSelected (type : String) (selected : Json) : Except ResolveError Json :=
  if selected.isObject then .ok (.string (EntityKey.encode (EntityKey.ofValue selected type)))
  else .error (.selfLookupFailed type)

/-- The global id of the parent: the encoded key with the fields of its first key, or all fields
    of the parent where there is no key. -/
def resolveId (storage : Storage) (key : Option KeyProjection) (p : ResolveParams) :
    RunResult ResolveError Json :=
  match key with
  | none => EventualResult.ok (.string (EntityKey.encode (EntityKey.ofValue p.parent p.parentType)))
  | some projection =>
    let parent := if p.parent.isObject then p.parent else .object []
    Eventual.map (fun selected => selected.bind (idOfSelected p.parentType))
      (projection.select storage parent)

/-- The key a global id stands for, if the lookup knows it; `null` otherwise. -/
def resolveNode (storage : Storage) (id : String) : RunResult ResolveError Json :=
  match EntityKey.decode? id with
  | none =>
    (Run.log .node .trace s!"Ignore malformed id {id}").andThen fun _ => EventualResult.ok .null
  | some key =>
    Eventual.map (Except.map fun
      | some _ => .object key
      | none => .null) (storage.path? key)

/-- The value of a field. -/
def resolve (storage : Storage) : FieldSource → ResolveParams → RunResult ResolveError Json
  | .parentValue, p => EventualResult.ok ((p.parent.field? p.fieldName).getD .null)
  | .document, p => resolveDocument storage p
  | .globalId key, p => resolveId storage key p
  | .node, p =>
    match Json.Fields.get? idArgument p.arguments with
    | some (.string id) => resolveNode storage id
    | _ => EventualResult.fail (.missingArgument nodeField idArgument)
  | .byKey type, p =>
    resolveNode storage (EntityKey.encode (EntityKey.ofValue (.object p.arguments) type))

end FieldSource

/-- A resolved value which fits the type of its field. -/
inductive OutputValue where
  /-- An item of a list which is `null`. -/
  | null
  | list (items : List OutputValue)
  | value (v : Json)
  | enum (name : String)
  /-- A value of the named type, where several types are possible. -/
  | typed (v : Json) (type : String)

namespace OutputValue

/-- The value at the core of a type. -/
def ofCore (type : String) (kind : Kind) (value : Json) : Except ResolveError OutputValue :=
  if kind.isAbstract then
    match value.field? typenameField with
    | some (.string concrete) => .ok (.typed value concrete)
    | _ => .error (.missingTypename type)
  else if kind = .enum then
    match value with
    | .string name => .ok (.enum name)
    | v => .error (.expectedEnum type v.compact)
  else .ok (.value value)

/-- Fits a value to a type whose core is of a kind; `null` fits everywhere and is no value. -/
def ofJson (kind : Kind) : TypeRef → Json → Except ResolveError (Option OutputValue)
  | _, .null => .ok none
  | .nonNull inner, v => ofJson kind inner v
  | .list item, .array items => do
    let items ← items.mapM fun v => do return (← ofJson kind item v).getD .null
    return some (.list items)
  | .list item, v => .error (.expectedList (TypeRef.list item).text v.compact)
  | .named name, v => (ofCore name kind v).map some

end OutputValue

/-- A field of an object type and where it takes its value from. -/
structure ObjectField where
  config : FieldConfig
  source : FieldSource

namespace ObjectField

def name (f : ObjectField) : String := f.config.name

/-- A list has a field of a name. -/
def declared (fields : List ObjectField) (name : String) : Bool := fields.any fun f => f.name = name

end ObjectField

end EntityGraph
