import EntityGraph.Language.Grammar

/-!
# Schema documents

A schema document declares types, extends them and may name the roots of the schema.
`Declaration.readAll` reads one. The definitions of directives are read and left out.
-/

namespace EntityGraph

/-- An argument of a field or a field of an input object. -/
structure InputValue where
  name : String
  description : Option String
  type : TypeRef
  default : Option Constant

/-- A field of an object or an interface. -/
structure FieldDeclaration where
  name : String
  description : Option String
  type : TypeRef
  arguments : List InputValue

structure EnumValue where
  name : String
  description : Option String

/-- What a type is made of. -/
inductive TypeBody where
  | scalar
  | object (implements : List String) (fields : List FieldDeclaration)
  | interface (implements : List String) (fields : List FieldDeclaration)
  | union (members : List String)
  | enum (values : List EnumValue)
  | inputObject (fields : List InputValue)

/-- A type, or more for a type declared elsewhere. -/
structure TypeDeclaration where
  isExtension : Bool
  description : Option String
  name : String
  directives : List (DirectiveUse Empty)
  body : TypeBody

/-- The roots a schema definition names, in order of writing. -/
structure SchemaDeclaration where
  isExtension : Bool
  roots : List (String × String)

inductive Declaration where
  | schema (s : SchemaDeclaration)
  | type (t : TypeDeclaration)
  | directive

namespace SchemaDeclaration

/-- The type an operation of a kind starts from. -/
def root? (s : SchemaDeclaration) (kind : String) : Option String := s.roots.lookup kind

/-- The first kind of operation with a second root. -/
def doubledRoot? : List (String × String) → Option String
  | [] => none
  | roots => (roots.zipIdx.find? fun (r, i) => (roots.take i).any (·.1 = r.1)).map (·.1.1)

/-- A schema definition names each root once, and unless it is an extension a query root. -/
def check (s : SchemaDeclaration) : Except ParseFault Unit :=
  match doubledRoot? s.roots with
  | some root => .error (.multipleRoots root)
  | none =>
    if s.isExtension || (s.root? "query").isSome then .ok () else .error .missingQueryRoot

end SchemaDeclaration

/-! ### Reading -/

namespace Grammar

def constDirectives (depth : Nat) : Grammar (List (DirectiveUse Empty)) :=
  directives noVariable depth

/-- At least one directive. -/
def someDirectives (depth : Nat) : Grammar (List (DirectiveUse Empty)) := do
  match ← constDirectives depth with
  | [] => failure
  | uses => return uses

def inputValue (depth : Nat) : Grammar InputValue := do
  let description ← optional string
  let n ← name
  let _ ← mark ":"
  let type ← typeRef depth
  let default ← optional (defaultValue depth)
  let _ ← constDirectives depth
  return ⟨n.value, description, type.value, default.map (·.value)⟩

def argumentDeclarations (depth : Nat) : Grammar (List InputValue) := do
  let _ ← mark "("
  let args ← some1 depth (inputValue depth)
  let _ ← mark ")"
  return args

def fieldDeclaration (depth : Nat) : Grammar FieldDeclaration := do
  let description ← optional string
  let n ← name
  let args ← optional (argumentDeclarations depth)
  let _ ← mark ":"
  let type ← typeRef depth
  let _ ← constDirectives depth
  return ⟨n.value, description, type.value, args.getD []⟩

/-- Parts in braces, at least one. -/
def braced {α : Type} (depth : Nat) (part : Grammar α) : Grammar (List α) := do
  let _ ← mark "\x7b"
  let parts ← some1 depth part
  let _ ← mark "\x7d"
  return parts

/-- Names with a mark between them and perhaps one in front. -/
def separated {α : Type} (depth : Nat) (sign : String) (part : Grammar α) :
    Grammar (List α) := do
  let _ ← optional (mark sign)
  let first ← part
  let more ← many depth (do let _ ← mark sign; part)
  return first :: more

def implemented (depth : Nat) : Grammar (List String) := do
  let _ ← mark "implements"
  separated depth "&" do return (← name).value

def enumValue (depth : Nat) : Grammar EnumValue := do
  let description ← optional string
  let n ← enumName
  let _ ← constDirectives depth
  return ⟨n.value, description⟩

def members (depth : Nat) : Grammar (List String) := do
  let _ ← mark "="
  separated depth "|" do return (← name).value

/-- A type whose body has parts, which a declaration may leave out. An extension needs them or
    at least one directive. -/
def partsOrDirectives {α : Type} (isExtension : Bool) (depth : Nat) (parts : Grammar (List α)) :
    Grammar (List (DirectiveUse Empty) × List α) :=
  let both : Grammar (List (DirectiveUse Empty) × List α) := do
    let uses ← constDirectives depth
    if isExtension then return (uses, ← parts)
    else return (uses, (← optional parts).getD [])
  if isExtension then orElse both do return (← someDirectives depth, []) else both

/-- The name and the body of a type behind its description or the word `extend`. -/
def typeRest (isExtension : Bool) (depth : Nat) :
    Grammar (String × List (DirectiveUse Empty) × TypeBody) := oneOf
  [do
    let _ ← mark "scalar"
    let n ← name
    let uses ← if isExtension then someDirectives depth else constDirectives depth
    return (n.value, uses, .scalar),
  do
    let _ ← mark "type"
    let n ← name
    let interfaces ← optional (implemented depth)
    let rest := partsOrDirectives isExtension depth (braced depth (fieldDeclaration depth))
    let (uses, fields) ← if interfaces.isSome then orElse rest do return ([], []) else rest
    return (n.value, uses, .object (interfaces.getD []) fields),
  do
    let _ ← mark "interface"
    let n ← name
    let interfaces ← optional (implemented depth)
    let (uses, fields) ←
      partsOrDirectives isExtension depth (braced depth (fieldDeclaration depth))
    return (n.value, uses, .interface (interfaces.getD []) fields),
  do
    let _ ← mark "union"
    let n ← name
    let (uses, names) ← partsOrDirectives isExtension depth (members depth)
    return (n.value, uses, .union names),
  do
    let _ ← mark "enum"
    let n ← name
    let (uses, values) ← partsOrDirectives isExtension depth (braced depth (enumValue depth))
    return (n.value, uses, .enum values),
  do
    let _ ← mark "input"
    let n ← name
    let (uses, fields) ← partsOrDirectives isExtension depth (braced depth (inputValue depth))
    return (n.value, uses, .inputObject fields)]

def typeDeclaration (depth : Nat) : Grammar TypeDeclaration :=
  orElse (do
    let description ← optional string
    let (n, uses, body) ← typeRest false depth
    return ⟨false, description, n, uses, body⟩)
  (do
    let _ ← mark "extend"
    let (n, uses, body) ← typeRest true depth
    return ⟨true, none, n, uses, body⟩)

def rootDeclaration : Grammar (String × String) := do
  let kind ← oneOf (["query", "mutation", "subscription"].map fun word => do
    let _ ← mark word
    return word)
  let _ ← mark ":"
  return (kind, (← name).value)

/-- Notes the fault of a schema definition, if it has one. -/
def checked (s : SchemaDeclaration) : Grammar SchemaDeclaration := do
  if let .error fault := s.check then note ⟨fault, []⟩
  return s

def schemaDeclaration (depth : Nat) : Grammar SchemaDeclaration := oneOf
  [do
    let _ ← mark "schema"
    let _ ← constDirectives depth
    checked ⟨false, ← braced depth rootDeclaration⟩,
  do
    let _ ← mark "extend"
    let _ ← mark "schema"
    orElse (do
        let _ ← constDirectives depth
        checked ⟨true, ← braced depth rootDeclaration⟩)
      (do
        let _ ← someDirectives depth
        checked ⟨true, []⟩)]

def directivePlace : Grammar Position := oneOf (GrammarRule.directivePlaces.map mark)

def directiveDeclaration (depth : Nat) : Grammar Unit := do
  let _ ← optional string
  let _ ← mark "directive"
  let _ ← mark "@"
  let _ ← name
  let _ ← optional (argumentDeclarations depth)
  let _ ← optional (mark "repeatable")
  let _ ← mark "on"
  let _ ← separated depth "|" directivePlace

def declarations (depth : Nat) : Grammar (List Declaration) :=
  some1 depth
    (oneOf [do return .schema (← schemaDeclaration depth),
      do return .type (← typeDeclaration depth),
      do directiveDeclaration depth; return .directive])

end Grammar

namespace Declaration

/-- Reads a schema document. -/
def readAll (text : String) : Except ParseFault (List Declaration) :=
  match Grammar.run Grammar.declarations text with
  | none => .error (.unexpected (.ofText .serviceDocument text))
  | some (_, some e) => .error e.fault
  | some (declarations, none) => .ok declarations

end Declaration

end EntityGraph
