import EntityGraph.Language.Grammar

/-!
# Query documents

A query document holds operations and fragments. `QueryDocument.read` reads one; a document
without operation, with two operations of which one has no name, or with two definitions of one
name is refused, as is one whose selections nest too deep.
-/

namespace EntityGraph

/-- A field as it is selected, apart from what is selected below it. -/
structure FieldHead where
  position : Position
  label : Option String
  name : Located String
  arguments : List (Argument String)
  directives : List (DirectiveUse String)
  /-- Where the selections below the field start. -/
  setPosition : Option Position

namespace FieldHead

/-- The name of the field in the response. -/
def responseKey (f : FieldHead) : String := f.label.getD f.name.value

end FieldHead

/-- A part of the enclosing selections under conditions of its own. -/
structure InlineHead where
  position : Position
  condition : Option (Located String)
  directives : List (DirectiveUse String)
  setPosition : Position

structure FragmentSpread where
  position : Position
  name : Located String
  directives : List (DirectiveUse String)

inductive QuerySelection where
  /-- A field; without a selection set nothing is selected below it. -/
  | field (head : FieldHead) (below : List QuerySelection)
  | inlineFragment (head : InlineHead) (below : List QuerySelection)
  | spread (fragment : FragmentSpread)

namespace QuerySelection

def position : QuerySelection → Position
  | .field head _ => head.position
  | .inlineFragment head _ => head.position
  | .spread fragment => fragment.position

def directives : QuerySelection → List (DirectiveUse String)
  | .field head _ => head.directives
  | .inlineFragment head _ => head.directives
  | .spread fragment => fragment.directives

end QuerySelection

inductive OperationKind where
  | query
  | mutation
  | subscription
deriving DecidableEq, Repr

def OperationKind.word : OperationKind → String
  | .query => "query"
  | .mutation => "mutation"
  | .subscription => "subscription"

structure VariableDefinition where
  position : Position
  name : Located String
  type : Located TypeRef
  directives : List (DirectiveUse String)
  default : Option (Located Constant)

structure Operation where
  position : Position
  kind : OperationKind
  name : Option (Located String)
  variableDefinitions : List VariableDefinition
  directives : List (DirectiveUse String)
  setPosition : Position
  selections : List QuerySelection

structure Fragment where
  position : Position
  name : Located String
  condition : Located String
  directives : List (DirectiveUse String)
  setPosition : Position
  selections : List QuerySelection

inductive QueryDefinition where
  | operation (o : Operation)
  | fragment (f : Fragment)

/-- The definitions of a document in order of writing. -/
structure QueryDocument where
  operations : List Operation
  fragments : List Fragment

/-! ### Reading -/

namespace Grammar

def directiveUses (depth : Nat) : Grammar (List (DirectiveUse String)) :=
  directives (do return (← variableName).value) depth

/-- The word `on` and a name, with blanks but no comment between. -/
def typeCondition : Grammar (Located String) := do
  tightMark "on"
  blanks
  name

/-- How many levels of selections may lie below the outermost ones. -/
def maxLevel : Nat := 64

mutual

/-- Selections in braces, at least one, and where they start; `level` tells how many selections
    they lie below. -/
def selectionSet (level depth : Nat) : Grammar (Position × List QuerySelection) :=
  match depth with
  | 0 => failure
  | depth + 1 => do
    let p ← mark "\x7b"
    if maxLevel < level then note ⟨.tooDeep, []⟩
    let selections ← some1 depth (selection level depth)
    let _ ← mark "\x7d"
    return (p, selections)

def selection (level depth : Nat) : Grammar QuerySelection :=
  match depth with
  | 0 => failure
  | depth + 1 => oneOf [do
      let p ← position
      let label ← optional (do
        let n ← name
        let _ ← mark ":"
        return n.value)
      let n ← name
      let args ← optional (arguments (do return (← variableName).value) depth)
      let uses ← directiveUses depth
      let below ← optional (selectionSet (level + 1) depth)
      return .field ⟨p, label, n, args.getD [], uses, below.map (·.1)⟩ ((below.map (·.2)).getD []),
    do
      let p ← mark "..."
      let condition ← optional typeCondition
      let uses ← directiveUses depth
      let (start, below) ← selectionSet (level + 1) depth
      return .inlineFragment ⟨p, condition, uses, start⟩ below,
    do
      let p ← mark "..."
      notAhead typeCondition
      let n ← name
      let uses ← directiveUses depth
      return .spread ⟨p, n, uses⟩]

end

def operationKind : Grammar OperationKind :=
  oneOf ([OperationKind.query, .mutation, .subscription].map fun kind => do
    let _ ← mark kind.word
    return kind)

def variableDefinition (depth : Nat) : Grammar VariableDefinition := do
  let n ← variableName
  let _ ← mark ":"
  let type ← typeRef depth
  let uses ← directiveUses depth
  let default ← optional (defaultValue depth)
  return ⟨n.position, n, type, uses, default⟩

def variableDefinitions (depth : Nat) : Grammar (List VariableDefinition) := do
  let _ ← mark "("
  let definitions ← many depth (variableDefinition depth)
  let _ ← mark ")"
  return definitions

def operation (depth : Nat) : Grammar Operation :=
  orElse (do
    let p ← position
    let kind ← operationKind
    let n ← optional name
    let definitions ← optional (variableDefinitions depth)
    let uses ← directiveUses depth
    let (start, selections) ← selectionSet 0 depth
    return ⟨p, kind, n, definitions.getD [], uses, start, selections⟩)
  (do
    let (p, selections) ← selectionSet 0 depth
    return ⟨p, .query, none, [], [], p, selections⟩)

def fragment (depth : Nat) : Grammar Fragment := do
  let p ← mark "fragment"
  let n ← name
  let condition ← typeCondition
  let uses ← directiveUses depth
  let (start, selections) ← selectionSet 0 depth
  return ⟨p, n, condition, uses, start, selections⟩

def queryDefinitions (depth : Nat) : Grammar (List QueryDefinition) :=
  some1 depth (orElse (do return .operation (← operation depth))
    (do return .fragment (← fragment depth)))

end Grammar

namespace QueryDocument

/-- Adds an operation; an operation without a name has to be the only one. -/
def addOperation (document : QueryDocument) (o : Operation) : Except DocumentError QueryDocument :=
  let added : QueryDocument := { document with operations := document.operations ++ [o] }
  match o.name with
  | some n =>
    match document.operations.find? fun other => other.name.isNone with
    | some anonymous => .error ⟨.multipleOperations, [anonymous.position, o.position]⟩
    | none =>
      match document.operations.find? fun other => other.name.any (·.value = n.value) with
      | some first => .error ⟨.operationDuplicated n.value, [o.position, first.position]⟩
      | none => .ok added
  | none =>
    match document.operations with
    | [] => .ok added
    | other :: _ => .error ⟨.multipleOperations, [o.position, other.position]⟩

def addFragment (document : QueryDocument) (f : Fragment) : Except DocumentError QueryDocument :=
  match document.fragments.find? fun other => other.name.value = f.name.value with
  | some first => .error ⟨.fragmentDuplicated f.name.value, [f.position, first.position]⟩
  | none => .ok { document with fragments := document.fragments ++ [f] }

def add (document : QueryDocument) : QueryDefinition → Except DocumentError QueryDocument
  | .operation o => addOperation document o
  | .fragment f => addFragment document f

/-- The document of its definitions. -/
def ofDefinitions (definitions : List QueryDefinition) : Except DocumentError QueryDocument := do
  let document ← definitions.foldlM add ⟨[], []⟩
  if document.operations.isEmpty then throw ⟨.missingOperation, []⟩
  return document

/-- The diagnosis of a text which is no document. -/
def unreadable (text : String) : DocumentError :=
  let diagnosis := Diagnosis.ofText .executableDocument text
  ⟨.unexpected diagnosis, [diagnosis.position]⟩

/-- Reads a document. -/
def read (text : String) : Except DocumentError QueryDocument :=
  match Grammar.run Grammar.queryDefinitions text with
  | none => .error (unreadable text)
  | some (_, some fault) => .error fault
  | some (definitions, none) => ofDefinitions definitions

end QueryDocument

end EntityGraph
