import EntityGraph.Execution.Executing

/-!
# Introspection

A schema describes itself as a graph of its own: the schema, types, fields, input values, enum
values and directives. The graph is endless, so it is walked as far as a query selects.

Only types which a query can meet are shown.
-/

namespace EntityGraph

/-- A node of the graph which describes a schema. -/
inductive MetaNode where
  | schema
  | type (reference : TypeRef)
  | field (f : FieldConfig)
  | inputValue (v : InputValue)
  | enumValue (v : EnumValue)
  | directive (d : DirectiveInfo)

/-- The value of a field of a node. -/
inductive MetaValue where
  | leaf (v : Json)
  | node (n : MetaNode)
  | nodes (ns : List MetaNode)

namespace Registry

/-! ### Visible types -/

/-- The types a type refers to. -/
def neighbours (t : TypeInfo) : List String :=
  t.fields.flatMap (fun f => f.type.core :: f.arguments.map (·.type.core))
    ++ (if t.kind.isAbstract then t.possible else []) ++ t.inputFields.map (·.type.core)

/-- The types reached from `pending`. Each step takes one off; `fuel` bounds how many there are. -/
def reachTypes (r : Registry) : (fuel : Nat) → (seen pending : List String) → List String
  | 0, seen, _ => seen
  | _, seen, [] => seen
  | fuel + 1, seen, name :: rest =>
    if seen.contains name then reachTypes r fuel seen rest
    else match r.type? name with
      | some t => reachTypes r fuel (name :: seen) (neighbours t ++ rest)
      | none => reachTypes r fuel seen rest

/-- The types a query can meet, and those every schema has. Interfaces count if one of the types
    which implement them does. -/
def visible (r : Registry) : List String :=
  let fuel := (r.types.flatMap neighbours).length + r.types.length + 1
  let reached := reachTypes r fuel [] [r.queryType]
  let reached := r.types.foldl (fun reached t =>
    if t.kind = .interface && t.possible.any reached.contains then
      reachTypes r fuel reached [t.name]
    else reached) reached
  (r.types.map (·.name)).filter fun name =>
    isReserved name || builtInScalars.contains name || reached.contains name

end Registry

namespace MetaNode

def typeName : MetaNode → String
  | .schema => "__Schema"
  | .type _ => "__Type"
  | .field _ => "__Field"
  | .inputValue _ => "__InputValue"
  | .enumValue _ => "__EnumValue"
  | .directive _ => "__Directive"

end MetaNode

namespace MetaValue

def null : MetaValue := .leaf .null

def string (s : String) : MetaValue := .leaf (.string s)

def optional (s : Option String) : MetaValue := s.elim null string

def named (name : String) : MetaNode := .type (.named name)

def kindName : Kind → String
  | .scalar => "SCALAR"
  | .object => "OBJECT"
  | .interface => "INTERFACE"
  | .union => "UNION"
  | .enum => "ENUM"
  | .inputObject => "INPUT_OBJECT"

/-- A field of the schema itself. -/
def ofSchema (r : Registry) (visible : List String) : String → MetaValue
  | "types" => .nodes (visible.map named)
  | "queryType" => .node (named r.queryType)
  | "directives" => .nodes (r.directives.map .directive)
  | _ => null

/-- A field of a type with a name. -/
def ofNamedType (visible : List String) (t : TypeInfo) : String → MetaValue
  | "kind" => string (kindName t.kind)
  | "name" => string t.name
  | "description" => optional t.description
  | "fields" =>
    match t.kind with
    | .object | .interface => .nodes ((t.fields.filter fun f => !isReserved f.name).map .field)
    | _ => null
  | "interfaces" =>
    match t.kind with
    | .object => .nodes ((t.interfaces.filter visible.contains).map named)
    | _ => null
  | "possibleTypes" =>
    if t.kind.isAbstract then .nodes ((t.possible.filter visible.contains).map named) else null
  | "enumValues" =>
    match t.kind with
    | .enum => .nodes (t.values.map .enumValue)
    | _ => null
  | "inputFields" =>
    match t.kind with
    | .inputObject => .nodes (t.inputFields.map .inputValue)
    | _ => null
  | "isOneOf" =>
    match t.kind with
    | .inputObject => .leaf (.bool false)
    | _ => null
  | _ => null

/-- A field of a type which wraps another one. -/
def ofWrapper (kind : String) (inner : TypeRef) : String → MetaValue
  | "kind" => string kind
  | "ofType" => .node (.type inner)
  | _ => null

def ofField (f : FieldConfig) : String → MetaValue
  | "name" => string f.name
  | "description" => optional f.description
  | "args" => .nodes (f.arguments.map .inputValue)
  | "type" => .node (.type f.type)
  | "isDeprecated" => .leaf (.bool false)
  | _ => null

def ofInputValue (v : InputValue) : String → MetaValue
  | "name" => string v.name
  | "description" => optional v.description
  | "type" => .node (.type v.type)
  | "defaultValue" => optional (v.default.map Constant.text)
  | _ => null

def ofEnumValue (v : EnumValue) : String → MetaValue
  | "name" => string v.name
  | "description" => optional v.description
  | "isDeprecated" => .leaf (.bool false)
  | _ => null

def ofDirective (d : DirectiveInfo) : String → MetaValue
  | "name" => string d.name
  | "description" => string d.description
  | "locations" => .leaf (.array (d.places.map .string))
  | "args" => .nodes (d.arguments.map .inputValue)
  | "isRepeatable" => .leaf (.bool false)
  | _ => null

/-- A field of a node. -/
def ofNode (r : Registry) (visible : List String) (node : MetaNode) (field : String) : MetaValue :=
  match node with
  | .schema => ofSchema r visible field
  | .type (.named name) =>
    match r.type? name with
    | some t => ofNamedType visible t field
    | none => null
  | .type (.list item) => ofWrapper "LIST" item field
  | .type (.nonNull inner) => ofWrapper "NON_NULL" inner field
  | .field f => ofField f field
  | .inputValue v => ofInputValue v field
  | .enumValue v => ofEnumValue v field
  | .directive d => ofDirective d field

end MetaValue

namespace MetaNode

/-- The fields selected on a node of a type, the fragments which apply laid open. `fuel` bounds
    the depth. -/
def fieldsOn (document : QueryDocument) (type : String) (fuel : Nat)
    (selections : List QuerySelection) : List (FieldHead × List QuerySelection) :=
  match fuel with
  | 0 => []
  | fuel + 1 => selections.flatMap fun
    | .field f below => [(f, below)]
    | .inlineFragment f below =>
      if f.condition.all fun c => c.value = type then fieldsOn document type fuel below else []
    | .spread s =>
      match document.fragments.find? fun g => g.name.value = s.name.value with
      | some g =>
        if g.condition.value = type then fieldsOn document type fuel g.selections else []
      | none => []

end MetaNode

/-- What introspection reads. -/
structure IntrospectionContext where
  registry : Registry
  visible : List String
  document : QueryDocument
  /-- The value of an argument. -/
  valueOf : Literal String → Except ExecutionFault Constant

namespace IntrospectionContext

variable (c : IntrospectionContext)

/-- What is wrong with the arguments of a field. -/
def argumentFault? (definition : FieldConfig) (f : FieldHead) :
    Option (ExecutionFault × Position) :=
  definition.arguments.findSome? fun declared =>
    (f.arguments.find? fun a => a.name.value = declared.name).bind fun a =>
      match c.valueOf a.value.value with
      | .error fault => some (fault, a.value.position)
      | .ok (.bool _) => none
      | .ok v => some (.unexpectedInput declared.type.core v, a.value.position)

/-- What a query selects on a node. An error below an item of a list is told of the item; one below
    a field which may be `null` is reported. `fuel` bounds the depth of the selections. -/
def select (fuel : Nat) (path : List PathSegment) (selections : List QuerySelection)
    (node : MetaNode) : Executing Data :=
  match fuel with
  | 0 => EventualResult.ok .null
  | fuel + 1 =>
    let type := c.registry.type? node.typeName
    let one (f : FieldHead) (below : List QuerySelection) : Executing Data :=
      if f.name.value = typenameField then EventualResult.ok (.leaf (.string node.typeName))
      else match type.bind (·.field? f.name.value) with
        | none => EventualResult.ok .null
        | some definition =>
          let path := path ++ [.key f.responseKey]
          match c.argumentFault? definition f with
          | some (fault, p) => Executing.failAt p path fault
          | none =>
            let value : Executing Data :=
              match MetaValue.ofNode c.registry c.visible node f.name.value with
              | .leaf v => EventualResult.ok (Data.ofJson v)
              | .node n => select fuel path below n
              | .nodes ns => Eventual.map (Except.map .list) <|
                EventualResult.inTurn (fun (n, i) =>
                  let path := path ++ [.index i]
                  EventualResult.mapError (fun e => { e with path }) (select fuel path below n))
                  ns.zipIdx
            if definition.type.isNonNull then value else value.orNull
    Eventual.map (Except.map Data.ofFields) <|
      EventualResult.inTurn (fun (f, below) =>
        Eventual.map (Except.map fun d => (f.responseKey, d)) (one f below))
        (MetaNode.fieldsOn c.document node.typeName (fuel + 1) selections)

end IntrospectionContext

end EntityGraph
