import EntityGraph.Store.Storage
import EntityGraph.TypeSystem

/-!
# Key projections

A key projection is a key selection resolved against the types it is made on: it knows at every
level which type the selected fields belong to and whether that type is primary.

* `KeyProjection.ofSelection`: the projection of a selection on a type;
* `KeyProjection.project`: the key fields of a value, none if one of them is missing;
* `KeyProjection.select`: the same, reading the documents of entities whose value does not have
  all of them.
-/

namespace EntityGraph

mutual

/-- Key fields of a type. -/
inductive KeyProjection where
  | mk (type : String) (isPrimary : Bool) (fields : List KeyField)

/-- A key field, taken as it is or projected in turn. -/
inductive KeyField where
  | leaf (name : String)
  | nested (name : String) (projection : KeyProjection)

end

namespace KeyField

def name : KeyField → String
  | .leaf name => name
  | .nested name _ => name

end KeyField

namespace KeyProjection

def type : KeyProjection → String
  | .mk type _ _ => type

def isPrimary : KeyProjection → Bool
  | .mk _ isPrimary _ => isPrimary

def fields : KeyProjection → List KeyField
  | .mk _ _ fields => fields

/-! ### Resolving a selection -/

mutual

/-- The key field of a selected field of a type. -/
def fieldOfSelection (ts : TypeSystem) (t : SourceType) : Selection → Except BuildError KeyField
  | .mk name children =>
    match t.field? name with
    | none => .error (.unknownKeyField t.name name)
    | some field =>
      match children with
      | [] => .ok (.leaf name)
      | c :: cs =>
        match ts.get? field.type.core with
        | none => .error (.missingReplacement field.type.core)
        | some inner => do
          let fields ← fieldsOfSelection ts inner (c :: cs)
          return .nested name (.mk field.type.core (ts.isPrimary inner) fields)

def fieldsOfSelection (ts : TypeSystem) (t : SourceType) :
    List Selection → Except BuildError (List KeyField)
  | [] => .ok []
  | s :: rest => do
    let first ← fieldOfSelection ts t s
    return first :: (← fieldsOfSelection ts t rest)

end

/-- The projection of a selection on the type of a name. -/
def ofSelection (ts : TypeSystem) (type : String) (selection : SelectionTree) :
    Except BuildError KeyProjection :=
  match ts.get? type with
  | none => .error (.missingReplacement type)
  | some t => do return .mk type (ts.isPrimary t) (← fieldsOfSelection ts t selection)

/-! ### Projecting values -/

mutual

/-- Applies `f` to the objects of a value, which lies in any number of arrays. `null` stays as it
    is, anything else has no key fields. -/
def onObjects (f : Json.Fields → Option Json) : Json → Option Json
  | .null => some .null
  | .array items => (onItems f items).map .array
  | .object fields => f fields
  | _ => none

def onItems (f : Json.Fields → Option Json) : List Json → Option (List Json)
  | [] => some []
  | v :: rest =>
    match onObjects f v with
    | none => none
    | some v => (onItems f rest).map (v :: ·)

end

mutual

/-- The key fields of a value, none if one of them is missing. -/
def project : KeyProjection → Json → Option Json
  | .mk _ _ fields => onObjects fun map => (projectFields fields map []).map .object

/-- Adds the projected fields of an object to `acc`. -/
def projectFields : List KeyField → Json.Fields → Json.Fields → Option Json.Fields
  | [], _, acc => some acc
  | field :: rest, map, acc =>
    match projectField field map with
    | none => none
    | some value => projectFields rest map (Json.Fields.insert field.name value acc)

def projectField : KeyField → Json.Fields → Option Json
  | .leaf name, map => Json.Fields.get? name map
  | .nested name projection, map =>
    match Json.Fields.get? name map with
    | none => none
    | some value => projection.project value

end

/-! ### Selecting key fields -/

mutual

/-- Takes the projected value if there is one, item by item inside arrays, and what `complete`
    makes of the value otherwise. -/
def selectWith (projected : Json → Option Json) (complete : Json → RunResult ResolveError Json) :
    Json → RunResult ResolveError Json
  | .array items =>
    match projected (.array items) with
    | some value => EventualResult.ok value
    | none => Eventual.map (Except.map .array)
        (EventualResult.joinAll (selectItems projected complete items))
  | value =>
    match projected value with
    | some value => EventualResult.ok value
    | none => complete value

def selectItems (projected : Json → Option Json)
    (complete : Json → RunResult ResolveError Json) :
    List Json → List (RunResult ResolveError Json)
  | [] => []
  | v :: rest => selectWith projected complete v :: selectItems projected complete rest

end

/-- The document of an entity whose key fields are asked for. -/
def entityOf (storage : Storage) (type : String) (value : Json) :
    RunResult ResolveError Json.Fields :=
  let key := EntityKey.ofValue value type
  (Run.log .node .trace s!"Look up {EntityKey.encode key} to select its key fields").andThen
    fun _ => EventualResult.mapError (fun
      | .keyNotFound key => .selfLookupFailed key
      | e => e) (storage.entity key)

/-- The object of fields which are still to be had. -/
def gather (fields : List (RunResult ResolveError (String × Json))) :
    RunResult ResolveError Json :=
  Eventual.map (Except.map fun fields => .object (Json.Fields.ofList fields))
    (EventualResult.joinAll fields)

mutual

/-- The key fields of a value. If one is missing they are taken from the document of the entity,
    or for a type which is not primary from the value itself with `null` for what is missing. -/
def select (storage : Storage) : KeyProjection → Json → RunResult ResolveError Json
  | .mk type isPrimary fields =>
    selectWith (project (.mk type isPrimary fields)) fun value =>
      if isPrimary then
        EventualResult.andThen (entityOf storage type value) fun document =>
          gather (selectFields storage fields document)
      else gather (selectFields storage fields value.fields)

/-- The key fields of an object, all of them started in order. -/
def selectFields (storage : Storage) :
    List KeyField → Json.Fields → List (RunResult ResolveError (String × Json))
  | [], _ => []
  | field :: rest, map => selectField storage field map :: selectFields storage rest map

def selectField (storage : Storage) :
    KeyField → Json.Fields → RunResult ResolveError (String × Json)
  | .leaf name, map => EventualResult.ok (name, (Json.Fields.get? name map).getD .null)
  | .nested name projection, map =>
    Eventual.map (Except.map fun value => (name, value))
      (select storage projection ((Json.Fields.get? name map).getD .null))

end

end KeyProjection

end EntityGraph
