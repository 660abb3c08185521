import EntityGraph.Execution.Introspection
import EntityGraph.Request.Rules
import EntityGraph.Store.Storage

/-!
# Executing requests

A request is read, checked and executed. Execution resolves the selected fields in order, each
together with all that is selected below it. The first failure ends it: the response has no data
then, but tells what went wrong.
-/

namespace EntityGraph

structure Request where
  query : String
  variableValues : Variables
  operation : Option String

namespace Request

/-- Variables given as JSON; anything but an object gives none. -/
def variablesOf (v : Json) : Variables := Constant.ofFields v.fields

end Request

/-! ### Depth -/

namespace QueryDocument

/-- How many levels of selections a query may have below the outermost one, fragments included. -/
def maxExecutionDepth : Nat := 32

/-- The first set of selections too deep down, starting with one at a position which may have
    `left` levels below it. -/
def tooDeepAt? (document : QueryDocument) (left : Nat) (selections : List QuerySelection) :
    Option Position :=
  let inner (p : Position) (below : List QuerySelection) : Option Position :=
    match left with
    | 0 => some p
    | left + 1 => tooDeepAt? document left below
  selections.findSome? fun
    | .field f below => f.setPosition.bind fun p => inner p below
    | .inlineFragment f below => inner f.setPosition below
    | .spread s =>
      (document.fragments.find? fun g => g.name.value = s.name.value).bind fun g =>
        inner g.setPosition g.selections

/-- Refuses a document with an operation which selects too deep. -/
def checkDepth (document : QueryDocument) : Except ResponseError Unit :=
  document.operations.forM fun o =>
    match document.tooDeepAt? maxExecutionDepth o.selections with
    | some p => .error ⟨.violation (.tooDeep maxExecutionDepth), [p], []⟩
    | none => .ok ()

end QueryDocument

/-! ### Left out selections -/

namespace QuerySelection

/-- The value of a condition, false unless it is a truth value. -/
def condition (given : Variables) (v : Literal String) : Bool :=
  match v.substitute fun name => List.lookup name given with
  | some (.bool b) => b
  | _ => false

/-- A directive leaves its selection out: one which skips and holds, or one which includes and
    does not hold. -/
def leavesOut (given : Variables) (d : DirectiveUse String) : Bool :=
  match d.argument? "if" with
  | none => false
  | some v =>
    match d.name.value with
    | "skip" => condition given v.value
    | "include" => !condition given v.value
    | _ => false

mutual

/-- Selections without those which are left out. -/
def kept (given : Variables) : List QuerySelection → List QuerySelection
  | [] => []
  | s :: rest =>
    if s.directives.any (leavesOut given) then kept given rest
    else keptBelow given s :: kept given rest

def keptBelow (given : Variables) : QuerySelection → QuerySelection
  | .field f below => .field f (kept given below)
  | .inlineFragment f below => .inlineFragment f (kept given below)
  | .spread s => .spread s

end

end QuerySelection

/-! ### Execution -/

/-- All that the execution of an operation reads. -/
structure ExecutionContext where
  schema : Schema
  registry : Registry
  storage : Storage
  document : QueryDocument
  operation : Operation
  given : Variables

namespace ExecutionContext

variable (c : ExecutionContext)

/-- The value of a variable: the given one, its default, or `null` if it may be missing. -/
def variableValue (name : String) : Except ExecutionFault Constant :=
  match c.operation.variableDefinitions.find? fun d => d.name.value = name with
  | none => .error (.undefinedVariable name)
  | some d =>
    match (List.lookup name c.given).or (d.default.map (·.value)) with
    | some v => .ok v
    | none => if d.type.value.isNonNull then .error (.undefinedVariable name) else .ok .null

/-- The value of an argument. -/
def argumentValue (v : Literal String) : Except ExecutionFault Constant := do
  for name in v.usedVariables do
    let _ ← c.variableValue name
  return (v.substitute fun name => (c.variableValue name).toOption).getD .null

/-- The arguments of a field as they are written. -/
def argumentsOf (args : List (Argument String)) :
    Except (ExecutionFault × Position) Json.Fields :=
  args.foldlM (fun acc a =>
    match c.argumentValue a.value.value with
    | .ok v => .ok (Json.Fields.insert a.name.value v.toJson acc)
    | .error fault => .error (fault, a.value.position)) []

/-- The fields selected on an object, the fragments which apply to it laid open: those without
    condition, on its own type or on one of its interfaces. `fuel` bounds the depth. -/
def fieldsOn (o : ObjectType) (fuel : Nat) (selections : List QuerySelection) :
    List (FieldHead × List QuerySelection) :=
  let applies (condition : String) := condition = o.name || o.interfaces.contains condition
  match fuel with
  | 0 => []
  | fuel + 1 => selections.flatMap fun
    | .field f below => [(f, below)]
    | .inlineFragment f below =>
      if f.condition.all fun t => applies t.value then fieldsOn o fuel below else []
    | .spread s =>
      match c.document.fragments.find? fun g => g.name.value = s.name.value with
      | some g => if applies g.condition.value then fieldsOn o fuel g.selections else []
      | none => []

/-- The JSON value the fields of an object are resolved on. -/
def parentOf : OutputValue → Json
  | .value v => v
  | .typed v _ => v
  | .enum name => .string name
  | _ => .null

/-- Completes a value of an object type in place of an abstract one. -/
def completeTyped (onObject : ObjectType → Json → List PathSegment → Executing Data)
    (p : Position) (path : List PathSegment) (t : SchemaType) (shape : ExecutionFault)
    (impossible : String → ExecutionFault) (v : OutputValue) : Executing Data :=
  match v with
  | .typed value concrete =>
    if (c.schema.possibleTypes t).contains concrete then
      match c.schema.get? concrete with
      | some (.object o) => onObject o value path
      | _ => Executing.failAt p path (impossible concrete)
    else Executing.failAt p path (impossible concrete)
  | _ => Executing.failAt p path shape

/-- Completes a value of a type given by its name. -/
def completeNamed (onObject : ObjectType → Json → List PathSegment → Executing Data)
    (p : Position) (path : List PathSegment) (name : String) (v : OutputValue) : Executing Data :=
  match c.schema.get? name with
  | none => EventualResult.ok .null
  | some t =>
    match t, v with
    | .scalar _, .value j => EventualResult.ok (Data.ofJson j)
    | .scalar _, .null => EventualResult.ok .null
    | .scalar _, .enum item => EventualResult.ok (.leaf (.string item))
    | .scalar s, _ => Executing.failAt p path (.scalarShape s.name)
    | .object o, v => onObject o (parentOf v) path
    | .enum e, .enum item | .enum e, .value (.string item) =>
      if e.values.contains item then EventualResult.ok (.leaf (.string item))
      else Executing.failAt p path (.enumItem e.name)
    | .enum e, .null => Executing.failAt p path (.enumItem e.name)
    | .enum e, _ => Executing.failAt p path (.enumShape e.name)
    | .interface i, v =>
      c.completeTyped onObject p path t (.interfaceShape i.name) (.notImplemented · i.name) v
    | .union u, v =>
      c.completeTyped onObject p path t (.unionShape u.name) (.notMember u.name ·) v
    | .input i, _ => Executing.failAt p path (.inputAsOutput i.name)

/-- Completes the value of a field: goes into lists and completes what lies at the core of its
    type, `onObject` completing objects. -/
def complete (onObject : ObjectType → Json → List PathSegment → Executing Data) (p : Position)
    (path : List PathSegment) : TypeRef → Option OutputValue → Executing Data
  | .nonNull _, none => Executing.failAt p path .missingValue
  | _, none => EventualResult.ok .null
  | .nonNull inner, some v => complete onObject p path inner (some v)
  | .list item, some (.list items) =>
    Eventual.map (Except.map .list) <| EventualResult.sideBySide
      (fun (v, i) => complete onObject p (path ++ [.index i]) item (some v)) items.zipIdx
  | .list _, some _ => Executing.failAt p path .notAList
  | .named name, some v => c.completeNamed onObject p path name v

/-- Resolves a field of an object and completes its value. -/
def field (onObject : List QuerySelection → ObjectType → Json → List PathSegment → Executing Data)
    (o : ObjectType) (parent : Json) (path : List PathSegment) (f : FieldHead)
    (below : List QuerySelection) (definition : ObjectField) : Executing Data :=
  match c.argumentsOf f.arguments with
  | .error (fault, p) => Executing.failAt p [] fault
  | .ok args =>
    let failed (e : ResolveError) : ResponseError := ⟨.execution (.resolve e), [f.position], []⟩
    let resolved := definition.source.resolve c.storage ⟨parent, args, f.name.value, o.name⟩
    EventualResult.andThen (Executing.ofRun (EventualResult.mapError failed resolved)) fun v =>
      match OutputValue.ofJson definition.config.kind definition.config.type v with
      | .error e => EventualResult.fail (failed e)
      | .ok v => c.complete (onObject below) f.position path definition.config.type v

/-- The description of the schema or of a type, if a field asks for one. -/
def introspected? (o : ObjectType) (fuel : Nat) (f : FieldHead) (below : List QuerySelection) :
    Option (Executing Data) :=
  if o.name ≠ c.schema.queryType then none
  else
    let visible := c.registry.visible
    let select (node : MetaNode) :=
      (IntrospectionContext.mk c.registry visible c.document c.argumentValue).select fuel [] below
        node
    match f.name.value with
    | "__schema" => some (select .schema)
    | "__type" => some <|
      match f.arguments.find? fun a => a.name.value = "name" with
      | none => EventualResult.ok .null
      | some a =>
        match c.argumentValue a.value.value with
        | .error fault => Executing.failAt a.value.position [] fault
        | .ok (.string name) =>
          if visible.contains name then (select (.type (.named name))).orNull
          else EventualResult.ok .null
        | .ok v => Executing.failAt a.value.position [] (.unexpectedInput "String" v)
    | _ => none

/-- Executes selections on an object: the outermost ones side by side, all others in turn. `fuel`
    bounds the depth of the selections. -/
def execute (fuel : Nat) (selections : List QuerySelection) (o : ObjectType) (parent : Json)
    (path : List PathSegment) : Executing Data :=
  match fuel with
  | 0 => EventualResult.ok .null
  | fuel + 1 =>
    let one (f : FieldHead) (below : List QuerySelection) : Executing (List (String × Data)) :=
      let keyed (e : Executing Data) := Eventual.map (Except.map fun d => [(f.responseKey, d)]) e
      if f.name.value = typenameField then keyed (EventualResult.ok (.leaf (.string o.name)))
      else match c.introspected? o fuel f below with
        | some e => keyed e
        | none =>
          match o.fields.find? fun d => d.name = f.name.value with
          | some d => keyed (c.field (fun below => execute fuel below) o parent
              (path ++ [.key f.responseKey]) f below d)
          | none => EventualResult.ok []
    let all := if path.isEmpty then EventualResult.sideBySide else EventualResult.inTurn
    Eventual.map (Except.map fun fields => Data.ofFields fields.flatten) <|
      all (fun (f, below) => one f below) (c.fieldsOn o (fuel + 1) selections)

end ExecutionContext

/-! ### Requests -/

/-- The operation a request asks for. -/
def QueryDocument.choose (document : QueryDocument) (name : Option String) :
    Except RequestFault Operation :=
  match name with
  | some name =>
    match document.operations.find? fun o => o.name.any (·.value = name) with
    | some o => .ok o
    | none => .error (.unknownOperation name)
  | none =>
    match document.operations with
    | [o] => .ok o
    | _ => .error .operationRequired

namespace Schema

/-- Reads and checks a request; what is left to do is to execute an operation. A request without an
    answer is refused without errors. -/
def prepare (s : Schema) (storage : Storage) (request : Request) :
    Except (List ResponseError) ExecutionContext := do
  let document ← (QueryDocument.read request.query).mapError fun e =>
    [⟨.document e.fault, e.positions, []⟩]
  document.checkDepth.mapError ([·])
  let registry := Registry.ofSchema s
  let scenes := Scene.ofDocument registry document
  let faults := Rule.merge (Rule.all registry document request.variableValues) scenes
  let again := document.operations.filter fun o => o.kind ≠ .query
  let faults := faults ++ again.map fun o => ⟨.notConfigured o.kind, [o.position]⟩
  if faults.any (·.violation.isUnanswered) then throw []
  unless faults.isEmpty do
    throw (faults.map fun f => ⟨.violation f.violation, f.positions, []⟩)
  let operation ← (document.choose request.operation).mapError fun fault => [⟨fault, [], []⟩]
  let keep := QuerySelection.kept request.variableValues
  let fragments := document.fragments.map fun f => { f with selections := keep f.selections }
  return ⟨s, registry, storage, ⟨document.operations, fragments⟩,
    { operation with selections := keep operation.selections }, request.variableValues⟩

/-- Answers a request. -/
def respond (s : Schema) (storage : Storage) (request : Request) : Run Response :=
  match s.prepare storage request with
  | .error errors => Eventual.pure (Response.ofErrors errors)
  | .ok c =>
    match s.get? s.queryType with
    | some (.object root) =>
      let depth := QueryDocument.maxExecutionDepth + 2
      (c.execute depth c.operation.selections root .null []).response
    | _ => Eventual.pure (Response.ofErrors [])

end Schema

end EntityGraph
