import EntityGraph.Language.Query
import EntityGraph.Request.InputCheck
import EntityGraph.Request.Suggestion

/-!
# Violations of a query

What can be wrong with a query before it is executed: one constructor for each way in which it
does not fit the schema, and the places in the document it is about.
-/

namespace EntityGraph

inductive QueryViolation where
  | tooDeep (limit : Nat)
  | notConfigured (kind : OperationKind)
  | uploadOutsideMutation
  | conflictingFields (key first second : String)
  | conflictingArguments (key : String)
  | duplicateDirective (name : String)
  | unknownDirective (name : String)
  | misplacedDirective (name place : String)
  | missingDirectiveArgument (directive argument : String) (type : TypeRef)
  | missingFieldArgument (field argument type : String)
  | impossibleSpread (fragment : Option String) (type condition : String)
  | selectionOnLeaf (field type : String)
  | missingSelection (field type : String)
  | variableOfOutputType (var type : String)
  | duplicateVariable (name : String)
  | duplicateArgument (name : String)
  | unusedVariable (name : String) (operation : Option String)
  | undefinedVariable (name : String) (operation : Option String)
  | unusedFragment (name : String)
  | unknownType (name : String)
  | unknownFragment (name : String)
  | fragmentCycle (name : String)
  | unknownFieldArgument (argument field type hint : String)
  | unknownDirectiveArgument (argument directive hint : String)
  | fragmentOnLeaf (fragment : Option String) (type : String)
  | unknownField (field type hint : String)
  | defaultOfNonNull (var : String) (type : TypeRef)
  | invalidDefault (problem : InputProblem)
  | invalidArgument (problem : InputProblem)

namespace QueryViolation

/-- The operation a violation is about, if it has a name. -/
def byOperation : Option String → String
  | some name => s!" by operation \"{name}\""
  | none => ""

def conflictAdvice : String :=
  "Use different aliases on the fields to fetch both if this was intentional."

def message : QueryViolation → String
  | .tooDeep limit => s!"The recursion depth of the query cannot be greater than `{limit}`"
  | .notConfigured kind => s!"Schema is not configured for {kind.word}s."
  | .uploadOutsideMutation => "The Upload type is only allowed to be defined on a mutation."
  | .conflictingFields key first second =>
    s!"Fields \"{key}\" conflict because \"{first}\" and \"{second}\" are different fields."
      ++ s!" {conflictAdvice}"
  | .conflictingArguments key =>
    s!"Fields \"{key}\" conflict because they have differing arguments. {conflictAdvice}"
  | .duplicateDirective name => s!"Duplicate directive \"{name}\""
  | .unknownDirective name => s!"Unknown directive \"{name}\""
  | .misplacedDirective name place => s!"Directive \"{name}\" may not be used on \"{place}\""
  | .missingDirectiveArgument directive argument type =>
    s!"Directive \"@{directive}\" argument \"{argument}\" of type \"{type.text}\" is "
      ++ s!"required but not provided"
  | .missingFieldArgument field argument type =>
    s!"Field \"{field}\" argument \"{argument}\" of type \"{type}\" is required but not provided"
  | .impossibleSpread fragment type condition =>
    let subject := fragment.elim "Fragment" fun name => s!"Fragment \"{name}\""
    s!"{subject} cannot be spread here as objects of type \"{type}\" can never be of type "
      ++ s!"\"{condition}\""
  | .selectionOnLeaf field type =>
    s!"Field \"{field}\" must not have a selection since type \"{type}\" has no subfields"
  | .missingSelection field type =>
    s!"Field \"{field}\" of type \"{type}\" must have a selection of subfields"
  | .variableOfOutputType var type =>
    s!"Variable \"{var}\" cannot be of non-input type \"{type}\""
  | .duplicateVariable name => s!"There can only be one variable named \"${name}\""
  | .duplicateArgument name => s!"There can only be one argument named \"{name}\""
  | .unusedVariable name operation =>
    s!"Variable \"${name}\" is not used{byOperation operation}"
  | .undefinedVariable name operation =>
    s!"Variable \"${name}\" is not defined{byOperation operation}"
  | .unusedFragment name => s!"Fragment \"{name}\" is never used"
  | .unknownType name => s!"Unknown type \"{name}\""
  | .unknownFragment name => s!"Unknown fragment: \"{name}\""
  | .fragmentCycle name => s!"Cannot spread fragment \"{name}\""
  | .unknownFieldArgument argument field type hint =>
    s!"Unknown argument \"{argument}\" on field \"{field}\" of type \"{type}\".{hint}"
  | .unknownDirectiveArgument argument directive hint =>
    s!"Unknown argument \"{argument}\" on directive \"{directive}\".{hint}"
  | .fragmentOnLeaf fragment type =>
    let subject := fragment.elim "Fragment" fun name => s!"Fragment \"{name}\""
    s!"{subject} cannot condition non composite type \"{type}\""
  | .unknownField field type hint => s!"Unknown field \"{field}\" on type \"{type}\".{hint}"
  | .defaultOfNonNull var type =>
    s!"Argument \"{var}\" has type \"{type.text}\" and is not nullable, so it can't have a "
      ++ s!"default value"
  | .invalidDefault problem => s!"Invalid default value for argument: {problem.message}"
  | .invalidArgument problem => s!"Invalid value for argument {problem.message}"

/-- Some violations leave a request without an answer: one by a value which nothing can be said
    about. -/
def isUnanswered : QueryViolation → Bool
  | .invalidDefault ⟨_, .unknownType _⟩ | .invalidArgument ⟨_, .unknownType _⟩ => true
  | _ => false

end QueryViolation

/-- A violation and the places it is about. -/
structure QueryFault where
  violation : QueryViolation
  positions : List Position

end EntityGraph
