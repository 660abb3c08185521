import EntityGraph.Request.Scope
import EntityGraph.Schema.Violation

/-!
# Rules for queries

A rule looks at the scenes of a document one by one and reports what is wrong there. The
violations of a document are those of all scenes in order, for each scene in the order of the
rules.
-/

namespace EntityGraph

/-- A rule and what it remembers from scene to scene. -/
structure Rule where
  Memory : Type
  start : Memory
  step : Memory → Scene → Memory × List QueryFault

namespace Rule

/-- A rule which looks at every scene on its own. -/
def ofScene (check : Scene → List QueryFault) : Rule := ⟨Unit, (), fun _ s => ((), check s)⟩

/-- A rule which looks at the document once it was walked through. -/
def atEnd (faults : List QueryFault) : Rule := ofScene fun s =>
  match s.visit with
  | .documentEnd => faults
  | _ => []

/-- What a rule reports for each scene. -/
def reports (rule : Rule) (scenes : List Scene) : List (List QueryFault) :=
  go rule.start scenes
where
  go (memory : rule.Memory) : List Scene → List (List QueryFault)
    | [] => []
    | s :: rest =>
      let (memory, faults) := rule.step memory s
      faults :: go memory rest

/-- Reports scene by scene, those of earlier rules first. -/
def merge (rules : List Rule) (scenes : List Scene) : List QueryFault :=
  let all := rules.map fun rule => rule.reports scenes
  (scenes.foldl (fun (acc, left) _ =>
    (acc ++ left.flatMap (fun r => r.headD []), left.map List.tail))
      (([] : List QueryFault), all)).1

def report (violation : QueryViolation) (p : Position) : List QueryFault := [⟨violation, [p]⟩]

/-! ### Fields -/

/-- The name and position of the field and the type it is selected on. -/
def onField (check : FieldHead → List QuerySelection → TypeInfo → List QueryFault) : Rule :=
  ofScene fun s =>
    match s.visit, s.parent with
    | .field f below, some type => check f below type
    | _, _ => []

/-- A directive under which a field need not exist. -/
def optionalFieldDirective : String := "ifdef"

def fieldsExist : Rule := onField fun f _ type =>
  if (type.field? f.name.value).isSome
      || f.directives.any fun d => d.name.value = optionalFieldDirective then []
  else report (.unknownField f.name.value type.name
    (Suggestion.question (type.fields.map (·.name)) f.name.value)) f.position

def leafSelections (r : Registry) : Rule := onField fun f below type =>
  match Scene.fieldType? r (some type) f.name.value with
  | none => []
  | some t =>
    if t.isLeaf && !below.isEmpty then report (.selectionOnLeaf f.name.value t.name) f.position
    else if !t.isLeaf && below.isEmpty then
      report (.missingSelection f.name.value t.name) f.position
    else []

/-- A required argument without default which is not given. -/
def missing (given : List (Argument String)) (v : InputValue) : Bool :=
  v.type.isNonNull && v.default.isNone && !given.any fun a => a.name.value = v.name

def requiredArguments (r : Registry) : Rule := ofScene fun s =>
  match s.visit, s.parent with
  | .field f _, some type =>
    match type.field? f.name.value with
    | some declared => (declared.arguments.filter (missing f.arguments)).map fun v =>
      ⟨.missingFieldArgument f.name.value v.name type.name, [f.position]⟩
    | none => []
  | .directive d _, _ =>
    match r.directive? d.name.value with
    | some declared => (declared.arguments.filter (missing d.arguments)).map fun v =>
      ⟨.missingDirectiveArgument d.name.value v.name v.type, [d.position]⟩
    | none => []
  | _, _ => []

/-! ### Arguments -/

def argumentsAreUnique : Rule := ofScene fun s =>
  match s.visit with
  | .argument a earlier _ =>
    if earlier.any fun b => b.name.value = a.name.value then
      report (.duplicateArgument a.name.value) a.name.position
    else []
  | _ => []

/-- What declares the arguments which are written. -/
inductive ArgumentOwner where
  | field (name type : String)
  | directive (name : String)

def unknownArgument (owner : ArgumentOwner) (name hint : String) : QueryViolation :=
  match owner with
  | .field field type => .unknownFieldArgument name field type hint
  | .directive directive => .unknownDirectiveArgument name directive hint

/-- Arguments are declared by the field or directive they are written for. On a field which is not
    declared itself the declarations met before still hold. -/
def argumentsAreDeclared (r : Registry) : Rule where
  Memory := Option (List InputValue × ArgumentOwner)
  start := none
  step known s :=
    match s.visit with
    | .field f _ =>
      match s.parent.bind fun t => (t.field? f.name.value).map fun d => (t, d) with
      | some (type, d) => (some (d.arguments, .field f.name.value type.name), [])
      | none => (known, [])
    | .directive d _ =>
      ((r.directive? d.name.value).map fun i => (i.arguments, .directive d.name.value), [])
    | .fieldEnd | .directiveEnd => (none, [])
    | .argument a _ _ =>
      match known with
      | none => (known, [])
      | some (declared, owner) =>
        if declared.any fun v => v.name = a.name.value then (known, [])
        else
          let hint := Suggestion.question (declared.map (·.name)) a.name.value
          (known, report (unknownArgument owner a.name.value hint) a.name.position)
    | _ => (known, [])

/-- The value of an argument fits its type. Nothing is known about a value with variables of which
    one is not given. -/
def argumentsFit (r : Registry) (given : Variables) : Rule := ofScene fun s =>
  match s.visit with
  | .argument a _ declared =>
    match (declared.getD []).find? fun v => v.name = a.name.value with
    | none => []
    | some v =>
      match a.value.value.substitute fun name => List.lookup name given with
      | none => []
      | some c =>
        match r.inputProblem? v.name v.type c with
        | some problem => report (.invalidArgument problem) a.name.position
        | none => []
  | _ => []

/-! ### Variables -/

def onVariable (check : VariableDefinition → List VariableDefinition → List QueryFault) : Rule :=
  ofScene fun s =>
    match s.visit with
    | .variable d earlier => check d earlier
    | _ => []

def variablesAreUnique : Rule := onVariable fun d earlier =>
  if earlier.any fun e => e.name.value = d.name.value then
    report (.duplicateVariable d.name.value) d.position
  else []

def variablesAreInputs (r : Registry) : Rule := onVariable fun d _ =>
  match r.type? d.type.value.core with
  | some t => if t.kind.isInput then [] else
      report (.variableOfOutputType d.name.value t.name) d.position
  | none => []

def defaultsFit (r : Registry) : Rule := onVariable fun d _ =>
  match d.default with
  | none => []
  | some v =>
    if d.type.value.isNonNull then
      report (.defaultOfNonNull d.name.value d.type.value) d.position
    else
      match r.inputProblem? d.name.value d.type.value v.value with
      | some problem => report (.invalidDefault problem) d.position
      | none => []

def uploadType : String := "Upload"

def noUploads (r : Registry) : Rule := ofScene fun s =>
  match s.visit with
  | .operation o =>
    if o.kind = .mutation || (r.type? uploadType).isNone then []
    else (o.variableDefinitions.filter fun d => d.type.value.core = uploadType).map fun d =>
      ⟨.uploadOutsideMutation, [d.position]⟩
  | _ => []

/-! ### Fragments -/

/-- Types which are named exist. The type of a variable counts twice, as what is named and as what
    is at its core, unless it is a list. -/
def typesExist (r : Registry) : Rule := ofScene fun s =>
  let check (type : String) (p : Position) :=
    if (r.type? type).isSome then [] else report (.unknownType type) p
  match s.visit with
  | .fragment f => check f.condition.value f.position
  | .inlineFragment f => f.condition.elim [] fun c => check c.value f.position
  | .variable d _ =>
    let faults := check d.type.value.core d.position
    if d.type.value.isList then faults else faults ++ faults
  | _ => []

def fragmentsExist (document : QueryDocument) : Rule := ofScene fun s =>
  match s.visit with
  | .spread f =>
    if document.fragments.any fun g => g.name.value = f.name.value then []
    else report (.unknownFragment f.name.value) f.position
  | _ => []

def fragmentsOnComposites : Rule := ofScene fun s =>
  match s.visit, s.current with
  | .fragment f, some type =>
    if type.isComposite then []
    else report (.fragmentOnLeaf (some f.name.value) f.condition.value) f.position
  | .inlineFragment f, some type =>
    if type.isComposite then [] else report (.fragmentOnLeaf none type.name) f.position
  | _, _ => []

def spreadsArePossible (r : Registry) (document : QueryDocument) : Rule := ofScene fun s =>
  let check (fragment : Option String) (type : Option TypeInfo) (condition : String)
      (p : Position) :=
    match type, r.type? condition with
    | some type, some on =>
      if type.overlaps on then [] else report (.impossibleSpread fragment type.name condition) p
    | _, _ => []
  match s.visit with
  | .spread f =>
    match document.fragments.find? fun g => g.name.value = f.name.value with
    | some g => check (some f.name.value) s.current g.condition.value f.position
    | none => []
  | .inlineFragment f => f.condition.elim [] fun c => check none s.parent c.value f.position
  | _ => []

/-! ### Directives -/

def directivesFit (r : Registry) : Rule := ofScene fun s =>
  match s.visit with
  | .directive d place =>
    match r.directive? d.name.value with
    | some declared =>
      if declared.places.contains place then []
      else report (.misplacedDirective d.name.value place) d.position
    | none => report (.unknownDirective d.name.value) d.position
  | _ => []

/-- The directives of one element which repeat another one. -/
def repeated (r : Registry) (uses : List (DirectiveUse String)) : List QueryFault :=
  uses.zipIdx.flatMap fun (d, i) =>
    if (r.directive? d.name.value).isSome
        && (uses.take i).any fun e => e.name.value = d.name.value then
      report (.duplicateDirective d.name.value) d.position
    else []

def directivesAreUnique (r : Registry) : Rule := ofScene fun s =>
  match s.visit with
  | .operation o => repeated r o.directives
  | .fragment f => repeated r f.directives
  | .variable d _ => repeated r d.directives
  | .field f _ => repeated r f.directives
  | .spread f => repeated r f.directives
  | .inlineFragment f => repeated r f.directives
  | _ => []

/-! ### Overlapping fields -/

/-- The fields found so far by the type they are selected on and their response key, the fragments
    gone into, and the conflicts. -/
structure Overlap where
  found : List ((Option String × String) × FieldHead)
  entered : List String
  faults : List QueryFault

/-- Both arguments have the same value. -/
def sameArgument (a b : Argument String) : Bool := a.value.value.alike b.value.value

/-- The conflicts between two fields with one response key. -/
def conflicts (key : String) (first second : FieldHead) : List QueryFault :=
  let places := [first.position, second.position]
  let names : List QueryFault :=
    if first.name.value = second.name.value then []
    else [⟨.conflictingFields key first.name.value second.name.value, places⟩]
  let count : List QueryFault :=
    if first.arguments.length = second.arguments.length then []
    else [⟨.conflictingArguments key, places⟩]
  let values : List QueryFault := first.arguments.filterMap fun a =>
    match second.arguments.find? fun b => b.name.value = a.name.value with
    | some b => if sameArgument a b then none else some ⟨.conflictingArguments a.name.value, places⟩
    | none => some ⟨.conflictingArguments a.name.value, places⟩
  names ++ count ++ values

def Overlap.add (o : Overlap) (type : Option String) (f : FieldHead) : Overlap :=
  let key := (type, f.responseKey)
  match o.found.lookup key with
  | some first => { o with faults := o.faults ++ conflicts f.responseKey first f }
  | none => { o with found := o.found ++ [(key, f)] }

/-- Goes through selections and the fragments among them, each fragment once. `fuel` bounds the
    depth. -/
def Overlap.find (document : QueryDocument) (fuel : Nat) (type : Option String) (o : Overlap)
    (selections : List QuerySelection) : Overlap :=
  match fuel with
  | 0 => o
  | fuel + 1 => selections.foldl (fun o s =>
    match s with
    | .field f _ => o.add type f
    | .inlineFragment f below =>
      Overlap.find document fuel (f.condition.map (·.value)) o below
    | .spread f =>
      match document.fragments.find? fun g => g.name.value = f.name.value with
      | none => o
      | some g =>
        if o.entered.contains f.name.value then o
        else Overlap.find document fuel (some g.condition.value)
          { o with entered := f.name.value :: o.entered } g.selections) o

def overlapsMerge (document : QueryDocument) : Rule := ofScene fun s =>
  match s.visit with
  | .selectionSet selections =>
    (Overlap.find document ((document.fragments.length + 1) * (Grammar.maxLevel + 2)) none
      ⟨[], [], []⟩ selections).faults
  | _ => []

/-! ### All rules -/

/-- A query uses only kinds of operations the schema has. -/
def rootsExist : Rule := ofScene fun s =>
  match s.visit with
  | .rootMissing o => report (.notConfigured o.kind) o.position
  | _ => []

/-- The rules in the order in which they report what is wrong with a scene. -/
def all (r : Registry) (document : QueryDocument) (given : Variables) : List Rule := [
  rootsExist, noUploads r, overlapsMerge document, directivesAreUnique r, directivesFit r,
  requiredArguments r, spreadsArePossible r document, leafSelections r,
  variablesAreInputs r, variablesAreUnique,
  argumentsAreUnique, atEnd (document.unusedVariables r), atEnd (document.unusedFragments r),
  atEnd (document.undefinedVariables r), typesExist r, fragmentsExist document,
  atEnd (document.fragmentCycles r), argumentsAreDeclared r, fragmentsOnComposites, fieldsExist,
  defaultsFit r, argumentsFit r given]

end Rule

end EntityGraph
