import EntityGraph.Request.Violation

/-!
# Walking through a query

A query document is walked through from front to back: fragments first, then operations, every
part before the parts inside of it. The walk is a list of scenes; each tells what is met and which
types the selections around it are made on.
-/

namespace EntityGraph

/-- What is met on the walk. A part with parts inside of it is left again. -/
inductive Visit where
  | documentEnd
  | operation (o : Operation)
  | fragment (f : Fragment)
  /-- A kind of operation the schema does not have. -/
  | rootMissing (o : Operation)
  /-- A variable and those defined before it. -/
  | variable (d : VariableDefinition) (earlier : List VariableDefinition)
  /-- A directive and the place it is used at. -/
  | directive (d : DirectiveUse String) (place : String)
  | directiveEnd
  /-- An argument, those written before it, and the arguments which are declared. -/
  | argument (a : Argument String) (earlier : List (Argument String))
      (declared : Option (List InputValue))
  | selectionSet (selections : List QuerySelection)
  | field (f : FieldHead) (below : List QuerySelection)
  | fieldEnd
  | spread (s : FragmentSpread)
  | inlineFragment (f : InlineHead)

/-- What is met, the type of the selections around it, and its own type. -/
structure Scene where
  visit : Visit
  parent : Option TypeInfo
  current : Option TypeInfo

namespace Scene

/-- A scene among selections whose types are given, innermost first. -/
def among (types : List (Option TypeInfo)) (visit : Visit) : Scene where
  visit
  parent := (types[1]?).join
  current := (types[0]?).join

section

variable (r : Registry) (types : List (Option TypeInfo))

/-- Arguments, and those which are declared. -/
def ofArguments (declared : Option (List InputValue)) (args : List (Argument String)) :
    List Scene :=
  args.zipIdx.map fun (a, i) => among types (.argument a (args.take i) declared)

def ofDirectives (place : String) (uses : List (DirectiveUse String)) : List Scene :=
  uses.flatMap fun d =>
    let declared := (r.directive? d.name.value).map (·.arguments)
    among types (.directive d place) ::
      (ofArguments types declared d.arguments ++ [among types .directiveEnd])

end

/-- The type of a field selected on a type. -/
def fieldType? (r : Registry) (type : Option TypeInfo) (name : String) : Option TypeInfo :=
  (type.bind fun t => t.field? name).bind fun f => r.type? f.type.core

mutual

/-- A selection made on the innermost of the types. The name of a type can be asked for
    everywhere, so it is passed over. -/
def ofSelection (r : Registry) (types : List (Option TypeInfo)) : QuerySelection → List Scene
  | .field f below =>
    if f.name.value = typenameField then []
    else
      let type := (types[0]?).join
      let inner := fieldType? r type f.name.value :: types
      let declared := (type.bind fun t => t.field? f.name.value).map (·.arguments)
      among inner (.field f below) :: (ofArguments inner declared f.arguments
        ++ ofDirectives r inner "FIELD" f.directives
        ++ ofSelectionSet r inner below ++ [among inner .fieldEnd])
  | .spread s =>
    among types (.spread s) :: ofDirectives r types "FRAGMENT_SPREAD" s.directives
  | .inlineFragment f below =>
    let inner := match f.condition with
      | some condition => r.type? condition.value :: types
      | none => types
    among inner (.inlineFragment f) :: (ofDirectives r inner "INLINE_FRAGMENT" f.directives
      ++ ofSelectionSet r inner below)

def ofSelectionSet (r : Registry) (types : List (Option TypeInfo)) :
    List QuerySelection → List Scene
  | [] => []
  | s :: rest => among types (.selectionSet (s :: rest)) :: ofSelections r types (s :: rest)

def ofSelections (r : Registry) (types : List (Option TypeInfo)) : List QuerySelection → List Scene
  | [] => []
  | s :: rest => ofSelection r types s ++ ofSelections r types rest

end

def ofFragment (r : Registry) (f : Fragment) : List Scene :=
  let types := [r.type? f.condition.value]
  among types (.fragment f) :: (ofDirectives r types "FRAGMENT_DEFINITION" f.directives
    ++ ofSelectionSet r types f.selections)

/-- The place of a directive on an operation. -/
def operationPlace : OperationKind → String
  | .query => "QUERY"
  | .mutation => "MUTATION"
  | .subscription => "SUBSCRIPTION"

def ofOperation (r : Registry) (o : Operation) : List Scene :=
  among [] (.operation o) ::
    match o.kind with
    | .query =>
      let types := [r.type? r.queryType]
      (o.variableDefinitions.zipIdx.map fun (d, i) =>
          among types (.variable d (o.variableDefinitions.take i)))
        ++ ofDirectives r types (operationPlace o.kind) o.directives
        ++ ofSelectionSet r types o.selections
    | _ => [among [] (.rootMissing o)]

/-- All scenes of a document. -/
def ofDocument (r : Registry) (document : QueryDocument) : List Scene :=
  document.fragments.flatMap (ofFragment r) ++ document.operations.flatMap (ofOperation r)
    ++ [among [] .documentEnd]

end Scene

end EntityGraph
