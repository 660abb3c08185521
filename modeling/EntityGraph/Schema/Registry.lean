import EntityGraph.Schema.Basic

/-!
# Registry

What a schema tells about its types, in a form which does not depend on how fields are resolved.
The registry also knows the types and fields of introspection and the directives a query may use:
queries are checked against it, and introspection reads it.
-/

namespace EntityGraph

/-- What is known about a type. -/
structure TypeInfo where
  name : String
  description : Option String
  kind : Kind
  /-- Fields of objects and interfaces. -/
  fields : List FieldConfig
  /-- Interfaces of objects. -/
  interfaces : List String
  /-- Object types a value of the type can have. -/
  possible : List String
  /-- Enum values. -/
  values : List EnumValue
  inputFields : List InputValue

namespace TypeInfo

def field? (t : TypeInfo) (name : String) : Option FieldConfig :=
  t.fields.find? fun f => f.name = name

/-- Values of the type have fields. -/
def isComposite (t : TypeInfo) : Bool :=
  match t.kind with
  | .object | .interface | .union => true
  | _ => false

/-- Values of the type have no fields. -/
def isLeaf (t : TypeInfo) : Bool :=
  match t.kind with
  | .scalar | .enum => true
  | _ => false

/-- Some value can be of both types. -/
def overlaps (a b : TypeInfo) : Bool :=
  if a.name = b.name then true
  else match a.kind.isAbstract, b.kind.isAbstract with
    | true, true => a.possible.any b.possible.contains
    | true, false => a.possible.contains b.name
    | false, true => b.possible.contains a.name
    | false, false => false

end TypeInfo

/-- A directive of queries, the places it may be used at, and its arguments. -/
structure DirectiveInfo where
  name : String
  description : String
  places : List String
  arguments : List InputValue

structure Registry where
  queryType : String
  /-- All types in the order of their names. -/
  types : List TypeInfo
  directives : List DirectiveInfo

namespace Registry

def type? (r : Registry) (name : String) : Option TypeInfo := r.types.find? fun t => t.name = name

def directive? (r : Registry) (name : String) : Option DirectiveInfo :=
  r.directives.find? fun d => d.name = name

/-! ### Introspection types -/

def field (name : String) (type : TypeRef) (arguments : List InputValue) : FieldConfig :=
  ⟨name, none, type, .object, arguments⟩

def required (name : String) : TypeRef := .nonNull (.named name)

/-- The reference `[T!]`. -/
def listOf (name : String) : TypeRef := .list (required name)

/-- The argument with which deprecated elements are asked for. -/
def includeDeprecated : InputValue :=
  ⟨"includeDeprecated", none, required "Boolean", some (.bool false)⟩

/-- A field with a description and without arguments. -/
def described (name description : String) (type : TypeRef) : FieldConfig :=
  ⟨name, some description, type, .object, []⟩

def objectInfo (name description : String) (fields : List FieldConfig) : TypeInfo :=
  ⟨name, some description, .object, fields, [], [name], [], []⟩

/-- An enum, with a description of each value. -/
def enumInfo (name description : String) (values : List (String × String)) : TypeInfo :=
  ⟨name, some description, .enum, [], [], [], values.map fun (n, d) => ⟨n, some d⟩, []⟩

/-- The places a directive can be used at. -/
def directivePlaces : List (String × String) := [
  ("QUERY", "a query operation"),
  ("MUTATION", "a mutation operation"),
  ("SUBSCRIPTION", "a subscription operation"),
  ("FIELD", "a field"),
  ("FRAGMENT_DEFINITION", "a fragment definition"),
  ("FRAGMENT_SPREAD", "a fragment spread"),
  ("INLINE_FRAGMENT", "an inline fragment"),
  ("VARIABLE_DEFINITION", "a variable definition"),
  ("SCHEMA", "a schema definition"),
  ("SCALAR", "a scalar definition"),
  ("OBJECT", "an object type definition"),
  ("FIELD_DEFINITION", "a field definition"),
  ("ARGUMENT_DEFINITION", "an argument definition"),
  ("INTERFACE", "an interface definition"),
  ("UNION", "a union definition"),
  ("ENUM", "an enum definition"),
  ("ENUM_VALUE", "an enum value definition"),
  ("INPUT_OBJECT", "an input object type definition"),
  ("INPUT_FIELD_DEFINITION", "an input object field definition")]

/-- The types which describe a schema. -/
def introspectionTypes : List TypeInfo := [
  objectInfo "__Schema"
    ("A GraphQL Schema defines the capabilities of a GraphQL server. It exposes\n"
      ++ "all available types and directives on the server, as well as the entry\n"
      ++ "points for query, mutation, and subscription operations.")
    [described "types" "A list of all types supported by this server."
      (.nonNull (listOf "__Type")),
    described "queryType" "The type that query operations will be rooted at."
      (required "__Type"),
    described "mutationType"
      ("If this server supports mutation, the type that mutation operations will\n"
        ++ "be rooted at.")
      (.named "__Type"),
    described "subscriptionType"
      ("If this server support subscription, the type that subscription\n"
        ++ "operations will be rooted at.")
      (.named "__Type"),
    described "directives" "A list of all directives supported by this server."
      (.nonNull (listOf "__Directive"))],
  objectInfo "__Type"
    ("The fundamental unit of any GraphQL Schema is the type. There are many kinds\n"
      ++ "of types in GraphQL as represented by the `__TypeKind` enum.\n\n"
      ++ "Depending on the kind of a type, certain fields describe information about\n"
      ++ "that type. Scalar types provide no information beyond a name and\n"
      ++ "description, while Enum types provide their values. Object and Interface\n"
      ++ "types provide the fields they describe. Abstract types, Union and Interface,\n"
      ++ "provide the Object types possible at runtime. List and NonNull types compose\n"
      ++ "other types.")
    [field "kind" (required "__TypeKind") [],
    field "name" (.named "String") [],
    field "description" (.named "String") [],
    field "fields" (listOf "__Field") [includeDeprecated],
    field "interfaces" (listOf "__Type") [],
    field "possibleTypes" (listOf "__Type") [],
    field "enumValues" (listOf "__EnumValue") [includeDeprecated],
    field "inputFields" (listOf "__InputValue") [],
    field "ofType" (.named "__Type") [],
    field "specifiedByURL" (.named "String") [],
    field "isOneOf" (.named "Boolean") []],
  objectInfo "__Field"
    ("Object and Interface types are described by a list of Fields, each of which\n"
      ++ "has a name, potentially a list of arguments, and a return type.")
    [field "name" (required "String") [],
    field "description" (.named "String") [],
    field "args" (.nonNull (listOf "__InputValue")) [],
    field "type" (required "__Type") [],
    field "isDeprecated" (required "Boolean") [],
    field "deprecationReason" (.named "String") []],
  objectInfo "__InputValue"
    ("Arguments provided to Fields or Directives and the input fields of an\n"
      ++ "InputObject are represented as Input Values which describe their type and\n"
      ++ "optionally a default value.")
    [field "name" (required "String") [],
    field "description" (.named "String") [],
    field "type" (required "__Type") [],
    field "defaultValue" (.named "String") []],
  objectInfo "__EnumValue"
    ("One possible value for a given Enum. Enum values are unique values, not a\n"
      ++ "placeholder for a string or numeric value. However an Enum value is returned\n"
      ++ "in a JSON response as a string.")
    [field "name" (required "String") [],
    field "description" (.named "String") [],
    field "isDeprecated" (required "Boolean") [],
    field "deprecationReason" (.named "String") []],
  objectInfo "__Directive"
    ("A Directive provides a way to describe alternate runtime execution and type\n"
      ++ "validation behavior in a GraphQL document.\n\n"
      ++ "In some cases, you need to provide options to alter GraphQL's execution\n"
      ++ "behavior in ways field arguments will not suffice, such as conditionally\n"
      ++ "including or skipping a field. Directives provide this by describing\n"
      ++ "additional information to the executor.")
    [field "name" (required "String") [],
    field "description" (.named "String") [],
    field "locations" (.nonNull (listOf "__DirectiveLocation")) [],
    field "args" (.nonNull (listOf "__InputValue")) [],
    field "isRepeatable" (required "Boolean") []],
  enumInfo "__TypeKind" "An enum describing what kind of type a given `__Type` is." [
    ("SCALAR", "Indicates this type is a scalar."),
    ("OBJECT", ("Indicates this type is an object. `fields` and `interfaces` are valid\n"
      ++ "fields.")),
    ("INTERFACE", ("Indicates this type is an interface. `fields` and `possibleTypes` are\n"
      ++ "valid fields.")),
    ("UNION", "Indicates this type is a union. `possibleTypes` is a valid field."),
    ("ENUM", "Indicates this type is an enum. `enumValues` is a valid field."),
    ("INPUT_OBJECT", "Indicates this type is an input object. `inputFields` is a valid field."),
    ("LIST", "Indicates this type is a list. `ofType` is a valid field."),
    ("NON_NULL", "Indicates this type is a non-null. `ofType` is a valid field.")],
  enumInfo "__DirectiveLocation"
    ("A Directive can be adjacent to many parts of the GraphQL language, a\n"
      ++ "__DirectiveLocation describes one such possible adjacencies.")
    (directivePlaces.map fun (name, place) => (name, s!"Location adjacent to {place}."))]

/-- The fields with which introspection starts. -/
def rootFields : List FieldConfig := [
  field "__schema" (.named "__Schema") [],
  field "__type" (.named "__Type") [⟨"name", none, required "String", none⟩]]

/-! ### Directives -/

def selectionPlaces : List String := ["FIELD", "FRAGMENT_SPREAD", "INLINE_FRAGMENT"]

def conditional (name description argument : String) : DirectiveInfo :=
  ⟨name, description, selectionPlaces, [⟨"if", some argument, required "Boolean", none⟩]⟩

def standardDirectives : List DirectiveInfo := [
  conditional "include"
    "Directs the executor to include this field or fragment only when the `if` argument is true."
    "Included when true.",
  conditional "skip"
    "Directs the executor to skip this field or fragment when the `if` argument is true."
    "Skipped when true."]

/-! ### Types of a schema -/

def scalarDescription? : String → Option String
  | "Boolean" => some "The `Boolean` scalar type represents `true` or `false`."
  | "Int" => some "The `Int` scalar type represents non-fractional whole numeric values."
  | "Float" => some ("The `Float` scalar type represents signed double-precision "
      ++ "fractional values as specified by [IEEE 754](https:"
      ++ "//en.wikipedia.org/wiki/IEEE_floating_point).")
  | "String" => some ("The `String` scalar type represents textual data, represented as UTF-8\n"
      ++ "character sequences. The String type is most often used by GraphQL to\n"
      ++ "represent free-form human-readable text.")
  | _ => none

def infoOf (s : Schema) (t : SchemaType) : TypeInfo where
  name := t.name
  description := t.description.or (scalarDescription? t.name)
  kind := t.kind
  fields := if t.name = s.queryType then t.fields ++ rootFields else t.fields
  interfaces := t.interfaces
  possible := s.possibleTypes t
  values := match t with
    | .enum e => e.values.map fun name => ⟨name, none⟩
    | _ => []
  inputFields := match t with
    | .input i => i.fields
    | _ => []

/-- The registry of a schema. -/
def ofSchema (s : Schema) : Registry where
  queryType := s.queryType
  types := (s.types.map (infoOf s) ++ introspectionTypes).mergeSort fun a b => a.name ≤ b.name
  directives := standardDirectives

end Registry

end EntityGraph
