import EntityGraph.TypeSystem

/-!
# Type map

Types reference each other in any order, so they are first declared by name and kind, and defined
afterwards, when every name can be found. The *type map* is what has been declared: a list of
slots, each with what is left to be done to define its type.

References are resolved against the map: `TypeMap.remapField` accepts a field whose type may be
returned and whose arguments may be passed in, and leaves it as it is.
-/

namespace EntityGraph

/-- Kind of a named type. -/
inductive Kind where
  | scalar
  | object
  | interface
  | union
  | enum
  | inputObject
deriving DecidableEq, Repr

namespace Kind

/-- Fields may return values of this kind. -/
def isOutput : Kind → Bool
  | .inputObject => false
  | _ => true

/-- Arguments may take values of this kind. -/
def isInput : Kind → Bool
  | .scalar | .enum | .inputObject => true
  | _ => false

/-- Values of this kind have to name their type. -/
def isAbstract : Kind → Bool
  | .interface | .union => true
  | _ => false

def name : Kind → String
  | .scalar => "Scalar"
  | .object => "Object"
  | .interface => "Interface"
  | .union => "Union"
  | .enum => "Enum"
  | .inputObject => "InputObject"

end Kind

def TypeKind.tag : TypeKind → Kind
  | .scalar => .scalar
  | .object .. => .object
  | .interface .. => .interface
  | .union _ => .union
  | .enum _ => .enum
  | .inputObject _ => .inputObject

/-- A declared type. `definition` is what its definition needs, nothing for a type which is
    provided already. -/
structure TypeSlot (δ : Type) where
  name : String
  kind : Kind
  definition : Option δ

/-- Declared types in order. -/
abbrev TypeMap (δ : Type) := List (TypeSlot δ)

/-- A field whose type has been found. -/
structure FieldConfig where
  name : String
  description : Option String
  type : TypeRef
  /-- Kind of the type the field returns. -/
  kind : Kind
  arguments : List InputValue

/-- An argument of a type, without description or default. -/
def InputValue.ofType (name : String) (type : TypeRef) : InputValue := ⟨name, none, type, none⟩

namespace TypeMap

variable {δ : Type}

/-- Declares a type which is provided already. -/
def declareBuiltIn (map : TypeMap δ) (name : String) (kind : Kind) : TypeMap δ :=
  map ++ [⟨name, kind, none⟩]

/-- Declares a type with its pending definition. -/
def declare (map : TypeMap δ) (name : String) (kind : Kind) (definition : δ) : TypeMap δ :=
  map ++ [⟨name, kind, some definition⟩]

/-- The kind of the first type declared under a name. -/
def kind? (map : TypeMap δ) (name : String) : Option Kind :=
  (map.find? fun slot => slot.name = name).map (·.kind)

def contains (map : TypeMap δ) (name : String) : Bool := (map.kind? name).isSome

/-- The map while its definitions are evaluated: none is pending any more. -/
def begun (map : TypeMap δ) : TypeMap δ := map.map fun slot => { slot with definition := none }

/-- The map which declares all types of a type system, but for those left out. -/
def ofTypeSystem (ts : TypeSystem) (omitted : List String) : TypeMap δ :=
  (ts.types.filter fun t => !omitted.contains t.name).map fun t => ⟨t.name, t.kind.tag, none⟩

/-! ### Resolving references -/

/-- The same reference, if the type at its core is declared. -/
def remapType (map : TypeMap δ) : TypeRef → Except BuildError TypeRef
  | .nonNull inner => (map.remapType inner).map .nonNull
  | .list item => (map.remapType item).map .list
  | .named name =>
    if map.contains name then .ok (.named name) else .error (.missingReplacement name)

/-- The kind of the type at the core of a reference. -/
def coreKind (map : TypeMap δ) (type : TypeRef) : Except BuildError Kind :=
  match map.kind? type.core with
  | some kind => .ok kind
  | none => .error (.missingReplacement type.core)

/-- An argument or an input field, if values of its type may be passed in. -/
def remapInputValue (map : TypeMap δ) (value : InputValue) : Except BuildError InputValue := do
  let type ← map.remapType value.type
  if !(← map.coreKind type).isInput then throw (.notAnInputType value.name type.text)
  return { value with type }

/-- A field, if values of its type may be returned and those of its arguments passed in. -/
def remapField (map : TypeMap δ) (field : FieldDeclaration) : Except BuildError FieldConfig := do
  let type ← map.remapType field.type
  let kind ← map.coreKind type
  if !kind.isOutput then throw (.notAnOutputType field.name type.text)
  let arguments ← field.arguments.mapM map.remapInputValue
  return ⟨field.name, field.description, type, kind, arguments⟩

end TypeMap

end EntityGraph
