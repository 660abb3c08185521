import EntityGraph.Configuration
import EntityGraph.Schema.Violation
import EntityGraph.Store.Fetcher

/-!
# Assembling a schema

A type system becomes a schema in two steps. First all types are declared, those of introspection
apart; then the definition of each is evaluated against the type map. Every field of a primary
type reads the document of its entity, primary types get an `id` and implement `Node`, the query
root gets `node` and the query fields of all keys. Generated input types come last.

* `Assembly.ofTypeSystem`: the declared types;
* `Assembly.evaluate`: their definitions, in order;
* `Schema.build`: from the text of a schema document to a checked schema;
* `Schema.create`: the same from the document a fetcher answers.
-/

namespace EntityGraph

/-- What is needed to define a type. -/
inductive Definition where
  /-- The interface `Node`. -/
  | node
  /-- An object with its first key; the query root gets further fields. -/
  | object (source : SourceType) (firstKey : Option KeyProjection) (isRoot : Bool)
  /-- Any other type, taken over as it is. -/
  | copied (source : SourceType)

/-- A step of building without generated types. -/
abbrev Step (α : Type) := Except BuildFailure α

/-- The declared types of a type system. -/
abbrev Assembly := TypeMap Definition

namespace Assembly

/-! ### Declaring -/

/-- The definition of an object type, its first key resolved. -/
def objectDefinition (ts : TypeSystem) (t : SourceType) : Except BuildError Definition := do
  let isRoot := t.name = ts.queryType
  match ((ts.keysOf? t).getD []).head? with
  | some key => return .object t (some (← KeyProjection.ofSelection ts t.name key.selection)) isRoot
  | none => return .object t none isRoot

/-- Declares a type of a type system. -/
def declareType (ts : TypeSystem) (map : Assembly) (t : SourceType) :
    Except BuildError (Assembly × List LogRecord) := do
  if isReserved t.name then return (map, [])
  if t.name = nodeInterface then throw (.reservedTypeName t.name)
  if t.isBuiltIn then return (map.declareBuiltIn t.name t.kind.tag, [])
  let definition ← match t.kind with
    | .object .. => objectDefinition ts t
    | _ => pure (.copied t)
  let record := LogSource.schema.record .debug s!"Declare {t.kind.tag.name} type {t.name}"
  return (map.declare t.name t.kind.tag definition, [record])

/-- Declares types in order. The records written before a failure are kept. -/
def declareAll (ts : TypeSystem) (map : Assembly) :
    List SourceType → Except BuildError Assembly × List LogRecord
  | [] => (.ok map, [])
  | t :: rest =>
    match declareType ts map t with
    | .error e => (.error e, [])
    | .ok (map, records) =>
      let (result, more) := declareAll ts map rest
      (result, records ++ more)

/-- The type map of a type system: `Node`, then all types in order. -/
def ofTypeSystem (ts : TypeSystem) : Except BuildError Assembly × List LogRecord :=
  declareAll ts (TypeMap.declare [] nodeInterface .interface .node) ts.types

/-! ### Defining -/

/-- Refuses to define two fields of one name. -/
def uniqueFields (type : String) (names : List String) : Except BuildFailure Unit :=
  match firstRepeated? names with
  | some field => .error (.fieldTwice type field)
  | none => .ok ()

/-- Refuses to implement an interface twice. -/
def uniqueInterfaces (type : String) (names : List String) : Except BuildFailure Unit :=
  match firstRepeated? names with
  | some interface => .error (.interfaceTwice type interface)
  | none => .ok ()

/-- An implemented interface, which has to be one. -/
def interfaceOf (map : Assembly) (type interface : String) : Except BuildError String :=
  match map.kind? interface with
  | some .interface => .ok interface
  | some _ => .error (.notAnInterface type interface)
  | none => .error (.missingReplacement interface)

/-- The member of a union, which has to be an object. -/
def memberOf (map : Assembly) (union member : String) : Except BuildError String :=
  match map.kind? member with
  | some .object => .ok member
  | _ => .error (.unionMemberNotFound union member)

def raise {α : Type} : Except BuildError α → Step α := Except.mapError .error

/-- Maps items in order, refusing a second one of a name as soon as it was mapped. -/
def mapUnique {α β : Type} (name : β → String) (twice : String → BuildFailure)
    (f : α → Except BuildError β) (items : List α) : Step (List β) :=
  items.foldlM (fun acc item => do
    let mapped ← raise (f item)
    if acc.any fun other => name other = name mapped then throw (twice (name mapped))
    return acc ++ [mapped]) []

/-- A field in which each argument occurs once. -/
def settleArguments (f : FieldConfig) : FieldConfig :=
  { f with arguments := lastByName (·.name) f.arguments }

/-- The interface `Node`. -/
def nodeType : SchemaType :=
  .interface ⟨nodeInterface, none, [⟨idField, none, requiredId, .scalar, []⟩], []⟩

/-- The fields and interfaces of an object type before they are put together. -/
def objectParts (ts : TypeSystem) (map : Assembly) (suffixes : Suffixes) (t : SourceType)
    (firstKey : Option KeyProjection) (isRoot : Bool) :
    Generating (List ObjectField × List String) := do
  let isPrimary := ts.isPrimary t
  let source : FieldSource := if isPrimary then .document else .parentValue
  let declared ← Generating.lift <| t.fields.mapM fun f => do
    return (⟨← map.remapField f, source⟩ : ObjectField)
  let implemented ← match t.kind with
    | .object interfaces _ => Generating.lift (interfaces.mapM (interfaceOf map t.name))
    | _ => pure []
  let (fields, interfaces) ←
    if isPrimary then do
      pure (← Generating.lift (addIdField declared t.name firstKey),
        implemented ++ [nodeInterface])
    else pure (declared, implemented)
  let fields ←
    if isRoot then do
      let fields ← Generating.lift (addNodeField fields t.name)
      addKeyFields ts map suffixes fields
    else pure fields
  return (fields, interfaces)

def defineObject (ts : TypeSystem) (map : Assembly) (suffixes : Suffixes) (t : SourceType)
    (firstKey : Option KeyProjection) (isRoot : Bool) : Generating SchemaType := do
  let (fields, interfaces) ← objectParts ts map suffixes t firstKey isRoot
  Generating.log .schema .trace s!"Define object {t.name} with {fields.length} fields"
  liftExcept (uniqueFields t.name (fields.map (·.name)))
  liftExcept (uniqueInterfaces t.name interfaces)
  let fields := fields.map fun f => { f with config := settleArguments f.config }
  return .object ⟨t.name, t.description, fields, interfaces⟩
where
  liftExcept {α : Type} (e : Except BuildFailure α) : Generating α := ExceptT.mk (pure e)

/-- A type which is taken over as it is. -/
def defineCopied (map : Assembly) (t : SourceType) : Step SchemaType :=
  match t.kind with
  | .scalar => .ok (.scalar ⟨t.name, t.description⟩)
  | .enum values => .ok (.enum ⟨t.name, t.description, lastByName id values⟩)
  | .inputObject fields => do
    let fields ← mapUnique (·.name) (.fieldTwice t.name) map.remapInputValue fields
    return .input ⟨t.name, t.description, fields⟩
  | .interface interfaces fields => do
    let fields ← mapUnique (·.name) (.fieldTwice t.name) map.remapField fields
    let interfaces ← mapUnique id (.interfaceTwice t.name) (interfaceOf map t.name) interfaces
    return .interface ⟨t.name, t.description, fields.map settleArguments, interfaces⟩
  | .union members => do
    let members ← raise (members.mapM (memberOf map t.name))
    return .union ⟨t.name, t.description, lastByName id members⟩
  | .object .. => .error (.error (.reservedTypeName t.name))

def define (ts : TypeSystem) (map : Assembly) (suffixes : Suffixes) :
    Definition → Generating SchemaType
  | .node => return nodeType
  | .object t firstKey isRoot => defineObject ts map suffixes t firstKey isRoot
  | .copied t => ExceptT.mk (pure (defineCopied map t))

def GeneratedInput.type (g : GeneratedInput) : SchemaType :=
  .input ⟨g.name, some generatedDescription, g.fields⟩

/-- Evaluates all definitions in order. Generated input types come after the declared ones. -/
def evaluate (ts : TypeSystem) (map : Assembly) (suffixes : Suffixes) :
    Generating (List SchemaType) := do
  let types ← (map.filterMap (·.definition)).mapM (define ts map.begun suffixes)
  return types ++ (← get).generated.map GeneratedInput.type

end Assembly

namespace Schema

/-- The types of a type system, and the records written on the way. -/
def typesOf (ts : TypeSystem) (suffixes : Suffixes) :
    Except BuildFailure (List SchemaType) × List LogRecord :=
  match Assembly.ofTypeSystem ts with
  | (.error e, records) => (.error (.error e), records)
  | (.ok map, records) =>
    let (result, g) := (Assembly.evaluate ts map suffixes).run .empty
    (result, records ++ g.records)

/-- The checked schema of its evaluated types. -/
def ofEvaluated (queryType : String) (types : List SchemaType) : Except BuildFailure Schema :=
  let schema := Schema.ofTypes queryType types
  match schema.check with
  | .ok () => .ok schema
  | .error violation => .error (.error (.invalidSchema violation))

/-- The schema of a schema document, and the records written on the way. -/
def build (sdl : String) (suffixes : Suffixes) : Except BuildFailure Schema × List LogRecord :=
  match TypeSystem.loadLogged sdl with
  | (.error e, records) => (.error (.error e), records)
  | (.ok ts, records) =>
    match typesOf ts suffixes with
    | (.error e, more) => (.error e, records ++ more)
    | (.ok types, more) =>
      let registered := LogSource.schema.record .debug s!"Register {types.length} types"
      (ofEvaluated ts.queryType types, records ++ more ++ [registered])

/-- Builds the schema whose document is at the configured path. -/
def create (fetcher : Fetcher) (config : Configuration) (suffixes : Suffixes) :
    RunResult BuildFailure Schema :=
  (Run.log .schema .debug s!"Fetch schema document {config.schemaPath}").andThen fun _ =>
    EventualResult.andThen
      (EventualResult.mapError (fun e => .error (.fetch e)) (fetcher.fetch config.schemaPath))
      fun sdl =>
        let (result, records) := build sdl suffixes
        ⟨records.map Event.log, [], result⟩

end Schema

end EntityGraph
