import EntityGraph.QueryByKey

/-!
# Schema types

The types of a schema, and a schema: its types in order of registration and the name of its query
root. A name has one type, the one registered last, at the place of the first.
-/

namespace EntityGraph

structure ScalarType where
  name : String
  description : Option String

structure ObjectType where
  name : String
  description : Option String
  fields : List ObjectField
  interfaces : List String

structure InterfaceType where
  name : String
  description : Option String
  fields : List FieldConfig
  interfaces : List String

structure UnionType where
  name : String
  description : Option String
  members : List String

structure EnumType where
  name : String
  description : Option String
  values : List String

structure InputType where
  name : String
  description : Option String
  fields : List InputValue

inductive SchemaType where
  | scalar (t : ScalarType)
  | object (t : ObjectType)
  | interface (t : InterfaceType)
  | union (t : UnionType)
  | enum (t : EnumType)
  | input (t : InputType)

/-- Keeps one item per name: the last one, at the place of the first. -/
def lastByName {α : Type} (name : α → String) (items : List α) : List α :=
  items.foldl (fun acc item =>
    if acc.any fun other => name other = name item then
      acc.map fun other => if name other = name item then item else other
    else acc ++ [item]) []

namespace SchemaType

def name : SchemaType → String
  | .scalar t => t.name
  | .object t => t.name
  | .interface t => t.name
  | .union t => t.name
  | .enum t => t.name
  | .input t => t.name

def description : SchemaType → Option String
  | .scalar t => t.description
  | .object t => t.description
  | .interface t => t.description
  | .union t => t.description
  | .enum t => t.description
  | .input t => t.description

def kind : SchemaType → Kind
  | .scalar _ => .scalar
  | .object _ => .object
  | .interface _ => .interface
  | .union _ => .union
  | .enum _ => .enum
  | .input _ => .inputObject

/-- The fields of an object or an interface. -/
def fields : SchemaType → List FieldConfig
  | .object t => t.fields.map (·.config)
  | .interface t => t.fields
  | _ => []

def field? (t : SchemaType) (name : String) : Option FieldConfig :=
  t.fields.find? fun f => f.name = name

/-- The interfaces of an object or an interface. -/
def interfaces : SchemaType → List String
  | .object t => t.interfaces
  | .interface t => t.interfaces
  | _ => []

/-- A type of which values have fields. -/
def isComposite (t : SchemaType) : Bool :=
  match t with
  | .object _ | .interface _ | .union _ => true
  | _ => false

def isAbstract (t : SchemaType) : Bool := t.kind.isAbstract

/-- A type whose values have no fields. -/
def isLeaf (t : SchemaType) : Bool :=
  match t with
  | .scalar _ | .enum _ => true
  | _ => false

end SchemaType

/-- The types of a schema in order of registration. -/
structure Schema where
  queryType : String
  types : List SchemaType

namespace Schema

/-- The schema with types registered in order and the built-in scalars behind them. -/
def ofTypes (queryType : String) (types : List SchemaType) : Schema :=
  ⟨queryType, lastByName SchemaType.name
    (types ++ builtInScalars.map fun name => .scalar ⟨name, none⟩)⟩

def get? (s : Schema) (name : String) : Option SchemaType := s.types.find? fun t => t.name = name

def objects (s : Schema) : List ObjectType :=
  s.types.filterMap fun
    | .object t => some t
    | _ => none

/-- The object types a value of the type can have: those which implement an interface, the
    members of a union, an object itself. -/
def possibleTypes (s : Schema) (t : SchemaType) : List String :=
  match t with
  | .object t => [t.name]
  | .interface t => (s.objects.filter fun o => t.name ∈ o.interfaces).map (·.name)
  | .union t => lastByName id t.members
  | _ => []

end Schema

end EntityGraph
