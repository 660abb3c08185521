import EntityGraph.Text.Decimal
import EntityGraph.Schema.Registry

/-!
# Checking input values

A value passed in for an argument has to fit the type of the argument. A list type takes a single
value as well; scalars of the schema itself take any value. The first part which does not fit is
reported with the path leading to it.
-/

namespace EntityGraph

/-- Why a value does not fit a type. -/
inductive InputMisfit where
  | wrongType (type : String)
  | unknownEnumValue (type value : String)
  | missingField (type : TypeRef) (field : String)
  | unknownField (type field : String)
  /-- Nothing can be said about a value of a type which does not exist. -/
  | unknownType (type : String)
deriving DecidableEq, Repr

def InputMisfit.message : InputMisfit → String
  | .wrongType type => s!"expected type \"{type}\""
  | .unknownEnumValue type value =>
    s!"enumeration type \"{type}\" does not contain the value \"{value}\""
  | .missingField type field =>
    s!"field \"{field}\" of type \"{type.text}\" is required but not provided"
  | .unknownField type field => s!"unknown field \"{field}\" of type \"{type}\""
  | .unknownType type => s!"unknown type \"{type}\""

/-- A misfit and the names and indices leading to it. -/
structure InputProblem where
  path : List String
  misfit : InputMisfit

def InputProblem.message (p : InputProblem) : String :=
  "\"" ++ String.intercalate "." p.path ++ "\", " ++ p.misfit.message

namespace Registry

/-- A constant is a value of a built-in scalar; any other scalar takes everything. -/
def scalarTakes (name : String) (v : Constant) : Bool :=
  match name, v with
  | "Int", .number (.whole n) => n.isSigned
  | "Int", _ => false
  | "Float", .number _ => true
  | "Float", _ => false
  | "String", .string _ => true
  | "String", _ => false
  | "Boolean", .bool _ => true
  | "Boolean", _ => false
  | "ID", .string _ => true
  | "ID", .number (.whole n) => n.isSigned
  | "ID", _ => false
  | _, _ => true

/-- A value without parts at the core of a type. -/
def leafMisfit? (r : Registry) (path : List String) (name : String) (v : Constant) :
    Option InputProblem :=
  match r.type? name with
  | none => some ⟨path, .unknownType name⟩
  | some t =>
    match t.kind, v with
    | .scalar, v => if scalarTakes name v then none else some ⟨path, .wrongType name⟩
    | .enum, .enum value | .enum, .string value =>
      if t.values.any (·.name = value) then none else some ⟨path, .unknownEnumValue t.name value⟩
    | .enum, _ => some ⟨path, .wrongType name⟩
    | _, _ => none

/-- The first misfit of an input object: declared fields in order, `found` telling the misfits of
    the given ones, then a field which is not declared. -/
def objectMisfit? (path : List String) (t : TypeInfo)
    (found : List (String × Option InputProblem)) : Option InputProblem :=
  (t.inputFields.findSome? fun f =>
    match found.lookup f.name with
    | some problem => problem
    | none =>
      if f.type.isNonNull && f.default.isNone then some ⟨path, .missingField f.type f.name⟩
      else none).or <|
  (found.find? fun f => !t.inputFields.any fun i => i.name = f.1).map fun f =>
    ⟨path, .unknownField t.name f.1⟩

/-- A reference without its outermost mark. -/
def unmarked : TypeRef → TypeRef
  | .nonNull inner => inner
  | type => type

mutual

/-- The first part of a constant which does not fit a type. -/
def misfit? (r : Registry) (path : List String) (type : TypeRef) : Constant → Option InputProblem
  | .null =>
    match type with
    | .nonNull inner => some ⟨path, .wrongType inner.text⟩
    | _ => none
  | .list items =>
    match unmarked type with
    | .list item => itemsMisfit? r path item 0 items
    | _ => leafMisfit? r path type.core (.list items)
  | .object fields =>
    match r.type? type.core with
    | some t =>
      if t.kind = .inputObject then objectMisfit? path t (fieldMisfits r path t fields)
      else leafMisfit? r path type.core (.object fields)
    | none => some ⟨path, .unknownType type.core⟩
  | v => leafMisfit? r path type.core v

def itemsMisfit? (r : Registry) (path : List String) (item : TypeRef) (index : Nat) :
    List Constant → Option InputProblem
  | [] => none
  | v :: rest =>
    (misfit? r (path ++ [Text.decimal index]) item v).or
      (itemsMisfit? r path item (index + 1) rest)

/-- The misfits of the fields of an input object, none for those which are not declared. -/
def fieldMisfits (r : Registry) (path : List String) (t : TypeInfo) :
    List (String × Constant) → List (String × Option InputProblem)
  | [] => []
  | (name, v) :: rest =>
    let here : Option InputProblem := match t.inputFields.find? fun f => f.name = name with
      | some f => misfit? r (path ++ [name]) f.type v
      | none => none
    (name, here) :: fieldMisfits r path t rest

end

/-- The first part of the value of `name` which does not fit its type. -/
def inputProblem? (r : Registry) (name : String) (type : TypeRef) (v : Constant) :
    Option InputProblem :=
  misfit? r [name] type v

end Registry

end EntityGraph
