import EntityGraph.Schema.Basic

/-!
# Rules for schemas

What a schema has to fulfil besides being well-formed: every type is there, objects have fields,
names with two leading underscores are left to introspection, interfaces are implemented, input
objects do not require themselves. `Schema.check` reports the first rule which is broken, the
rules being tried one after the other on all types.
-/

namespace EntityGraph

namespace Schema

/-- Fails with a violation if the condition holds. -/
def refuse (condition : Bool) (violation : SchemaViolation) : Except SchemaViolation Unit :=
  if condition then .error violation else .ok ()

/-! ### Types exist -/

/-- The types named by the arguments of fields. -/
def argumentTypes (fields : List FieldConfig) : List String :=
  fields.flatMap fun f => f.arguments.map fun a => a.type.core

/-- All types a type refers to. -/
def referred (t : SchemaType) : List String :=
  match t with
  | .object _ => t.fields.map (·.type.core) ++ argumentTypes t.fields ++ t.interfaces
  | .interface _ => t.fields.map (·.type.core) ++ argumentTypes t.fields
  | .input t => t.fields.map (·.type.core)
  | .union t => t.members
  | _ => []

def checkTypesExist (s : Schema) : Except SchemaViolation Unit :=
  let check (names : List String) := names.forM fun name =>
    refuse (s.get? name).isNone (.typeNotFound name)
  check [s.queryType] >>= fun _ => s.types.forM fun t => check (referred t)

def checkRoot (s : Schema) : Except SchemaViolation Unit :=
  match s.get? s.queryType with
  | some (.object _) | none => .ok ()
  | _ => .error .rootNotObject

/-! ### Fields -/

def isOutput (s : Schema) (type : TypeRef) : Bool :=
  (s.get? type.core).all fun t => t.kind.isOutput

def isInput (s : Schema) (type : TypeRef) : Bool :=
  (s.get? type.core).all fun t => t.kind.isInput

def checkArgument (s : Schema) (type field : String) (a : InputValue) :
    Except SchemaViolation Unit := do
  refuse (isReserved a.name) (.reservedArgument type field a.name)
  refuse (!s.isInput a.type) (.notInputArgument type field a.name)

def checkField (s : Schema) (type : String) (f : FieldConfig) : Except SchemaViolation Unit := do
  refuse (isReserved f.name) (.reservedField type f.name)
  refuse (!s.isOutput f.type) (.notOutputField type f.name)
  f.arguments.forM (s.checkArgument type f.name)

/-! ### Interfaces -/

/-- An argument of an interface field is an argument of the implementing field, of a type which
    takes every value the interface allows. -/
def checkImplementedArgument (type interface : String) (f own : FieldConfig) (a : InputValue) :
    Except SchemaViolation Unit :=
  match own.arguments.find? fun b => b.name = a.name with
  | none => refuse a.type.isNonNull (.missingArgument type f.name a.name interface)
  | some b => refuse (!a.type.covers b.type) (.argumentType type f.name a.name interface)

/-- A type has the fields of an interface. -/
def checkImplementation (t : SchemaType) (i : InterfaceType) : Except SchemaViolation Unit :=
  i.fields.forM fun f =>
    match t.field? f.name with
    | none => .error (.missingField t.kind.name t.name f.name i.name)
    | some own => do
      f.arguments.forM (checkImplementedArgument t.name i.name f own)
      refuse (!own.type.covers f.type) (.fieldType t.name f.name i.name)

/-- A type implements its interfaces. -/
def checkInterfacesOf (s : Schema) (t : SchemaType) : Except SchemaViolation Unit :=
  t.interfaces.forM fun name =>
    match s.get? name with
    | none => .ok ()
    | some (.interface i) => checkImplementation t i
    | some _ => .error (.notAnInterface name)

/-! ### Types -/

def checkObject (s : Schema) (t : SchemaType) : Except SchemaViolation Unit :=
  match t with
  | .object o => do
    refuse o.fields.isEmpty (.noFields o.name)
    t.fields.forM (s.checkField o.name)
    s.checkInterfacesOf t
  | _ => .ok ()

/-- The inputs which a value of an input has to hold. -/
def required (s : Schema) (t : InputType) : List InputType :=
  t.fields.filterMap fun f =>
    match f.type with
    | .nonNull (.named name) =>
      match s.get? name with
      | some (.input other) => some other
      | _ => none
    | _ => none

/-- A value of the input `t` holds one of the input `name`, `seen` being the inputs it lies in;
    `fuel` bounds how many there can be. -/
def requires (s : Schema) (fuel : Nat) (name : String) (seen : List String) (t : InputType) :
    Bool :=
  match fuel with
  | 0 => false
  | fuel + 1 => (s.required t).any fun other =>
    other.name == name
      || (!seen.contains other.name && requires s fuel name (other.name :: seen) other)

def checkInput (s : Schema) (t : SchemaType) : Except SchemaViolation Unit :=
  match t with
  | .input i => do
    i.fields.forM fun f => do
      refuse (isReserved f.name) (.reservedField i.name f.name)
      refuse (!s.isInput f.type) (.notInputField i.name f.name)
    refuse (s.requires (s.types.length + 1) i.name [] i) (.inputCycle i.name)
  | _ => .ok ()

def checkInterface (s : Schema) (t : SchemaType) : Except SchemaViolation Unit :=
  match t with
  | .interface i => i.fields.forM fun f => do
    s.checkField i.name f
    refuse (i.interfaces.contains i.name) (.implementsItself i.name)
    s.checkInterfacesOf t
  | _ => .ok ()

def checkUnion (s : Schema) (t : SchemaType) : Except SchemaViolation Unit :=
  match t with
  | .union u => u.members.forM fun member =>
    match s.get? member with
    | some (.object _) | none => .ok ()
    | some _ => .error (.memberNotObject u.name member)
  | _ => .ok ()

/-- The first rule a schema breaks. -/
def check (s : Schema) : Except SchemaViolation Unit := do
  s.checkTypesExist
  s.checkRoot
  s.types.forM s.checkObject
  s.types.forM s.checkInput
  s.types.forM s.checkInterface
  s.types.forM s.checkUnion

end Schema

end EntityGraph
