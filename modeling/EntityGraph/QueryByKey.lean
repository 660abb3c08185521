import EntityGraph.Text.Decimal
import EntityGraph.Resolver
import EntityGraph.Text.LetterCase

/-!
# Generated fields

Primary types get an `id`, the query root gets `node` and one field for every key of every other
primary type. The arguments of such a field follow its key: a leaf is an argument of the declared
type, a nested selection a required argument of a generated input type, whose name ends in a
suffix that was not used before.

Generating draws suffixes and collects input types; both are kept when it fails.
-/

namespace EntityGraph

/-- The suffixes of generated type names, in the order in which they are drawn. -/
structure Suffixes where
  nth : Nat → String

/-- The suffixes `0`, `1`, `2`, … -/
def Suffixes.counting : Suffixes := ⟨Text.decimal⟩

/-- Suffixes of 32 hexadecimal digits, which count on from `start`. -/
def Suffixes.hexadecimal (start : Nat) : Suffixes where
  nth n :=
    let digits := Nat.toDigits 16 ((start + n) % Nat.pow 16 32)
    String.ofList (List.replicate (32 - digits.length) '0' ++ digits)

/-- A generated input type. -/
structure GeneratedInput where
  name : String
  fields : List InputValue

/-- Why building stops: an error, or a type given two fields or interfaces of one name. -/
inductive BuildFailure where
  | error (e : BuildError)
  | fieldTwice (type field : String)
  | interfaceTwice (type interface : String)
deriving DecidableEq, Repr

/-- What generating has used and made so far. -/
structure Generation where
  drawn : Nat
  generated : List GeneratedInput
  records : List LogRecord

def Generation.empty : Generation := ⟨0, [], []⟩

/-- A step of building which generates types. -/
abbrev Generating (α : Type) := ExceptT BuildFailure (StateM Generation) α

namespace Generating

def fail {α : Type} (e : BuildError) : Generating α := throw (.error e)

/-- A step which generates nothing. -/
def lift {α : Type} : Except BuildError α → Generating α
  | .ok a => return a
  | .error e => fail e

def log (source : LogSource) (level : LogLevel) (message : String) : Generating Unit :=
  modify fun g => { g with records := g.records ++ [source.record level message] }

/-- Draws the next suffix. -/
def nextSuffix (suffixes : Suffixes) : Generating String := do
  let g ← get
  set { g with drawn := g.drawn + 1 }
  return suffixes.nth g.drawn

def push (input : GeneratedInput) : Generating Unit :=
  modify fun g => { g with generated := g.generated ++ [input] }

end Generating

/-- The first name which occurs twice in a list. -/
def firstRepeated? : List String → Option String :=
  let rec go (seen : List String) : List String → Option String
    | [] => none
    | n :: rest => if n ∈ seen then some n else go (n :: seen) rest
  go []

/-! ### Names -/

/-- Between the name of a type and the fields of its key. -/
def byInfix : String := "By"

/-- Between the path of a nested selection and its suffix. -/
def inputInfix : String := "Input"

def generatedDescription : String := "This is a generated type and its name will change."

mutual

/-- The part of a field name for a selection: names are joined in upper case, a nested selection
    stands between underscores. -/
def keyName : Selection → String
  | .mk name [] => upperFirst name
  | .mk name (c :: cs) => upperFirst name ++ "_" ++ keyNames (c :: cs) ++ "_"

def keyNames : List Selection → String
  | [] => ""
  | s :: rest => keyName s ++ keyNames rest

end

/-- The name of the query field looking up a type by a key. -/
def SelectionTree.fieldName (type : String) (selection : SelectionTree) : String :=
  lowerFirst type ++ byInfix ++ keyNames selection

/-! ### Arguments -/

mutual

/-- The argument for a field selected on a type, `path` leading to the type. -/
def argumentOf {δ : Type} (ts : TypeSystem) (map : TypeMap δ) (suffixes : Suffixes)
    (t : SourceType) (path : String) : Selection → Generating InputValue
  | .mk name children =>
    match t.field? name with
    | none => Generating.fail (.unknownKeyField t.name name)
    | some field =>
      match children with
      | [] => do
        let type ← Generating.lift (map.remapType field.type)
        if !((map.kind? type.core).any Kind.isInput) then
          Generating.fail (.notAnInputType name type.text)
        return .ofType name type
      | c :: cs => do
        let fieldPath := path ++ upperFirst name
        match ts.get? field.type.core with
        | none => Generating.fail (.missingReplacement field.type.core)
        | some inner => do
          let fields ← argumentsOf ts map suffixes inner fieldPath (c :: cs)
          let input := fieldPath ++ inputInfix ++ (← Generating.nextSuffix suffixes)
          if let some twice := firstRepeated? (fields.map (·.name)) then
            throw (.fieldTwice input twice)
          Generating.push ⟨input, fields⟩
          return .ofType name (.nonNull (.named input))

def argumentsOf {δ : Type} (ts : TypeSystem) (map : TypeMap δ) (suffixes : Suffixes)
    (t : SourceType) (path : String) : List Selection → Generating (List InputValue)
  | [] => return []
  | s :: rest => do
    let first ← argumentOf ts map suffixes t path s
    return first :: (← argumentsOf ts map suffixes t path rest)

end

/-- The arguments of the query field for a key of a type. -/
def keyArguments {δ : Type} (ts : TypeSystem) (map : TypeMap δ) (suffixes : Suffixes)
    (type : String) (selection : SelectionTree) : Generating (List InputValue) := do
  match ts.get? type with
  | none => Generating.fail (.missingReplacement type)
  | some t => argumentsOf ts map suffixes t type selection

/-! ### Fields -/

/-- The interface of everything with a global id. -/
def nodeInterface : String := "Node"

/-- The reference `ID!`. -/
def requiredId : TypeRef := .nonNull (.named "ID")

/-- The `id` of a primary type. -/
def idFieldOf (key : Option KeyProjection) : ObjectField :=
  ⟨⟨idField, none, requiredId, .scalar, []⟩, .globalId key⟩

/-- The `node` of the query root. -/
def nodeFieldOfRoot : ObjectField :=
  ⟨⟨nodeField, none, .named nodeInterface, .interface, [.ofType idArgument requiredId]⟩, .node⟩

/-- Adds the `id` to the fields of a primary type. -/
def addIdField (fields : List ObjectField) (type : String) (key : Option KeyProjection) :
    Except BuildError (List ObjectField) :=
  if ObjectField.declared fields idField then .error (.idFieldExists type)
  else .ok (fields ++ [idFieldOf key])

/-- Adds `node` to the fields of the query root. -/
def addNodeField (fields : List ObjectField) (type : String) :
    Except BuildError (List ObjectField) :=
  if ObjectField.declared fields nodeField then .error (.nodeFieldExists type)
  else .ok (fields ++ [nodeFieldOfRoot])

/-- Adds the query field for a key of a type. -/
def addKeyField {δ : Type} (ts : TypeSystem) (map : TypeMap δ) (suffixes : Suffixes)
    (fields : List ObjectField) (type : String) (key : KeyDeclaration) :
    Generating (List ObjectField) := do
  let name := SelectionTree.fieldName type key.selection
  if ObjectField.declared fields name then Generating.fail (.queryFieldExists name)
  let arguments ← keyArguments ts map suffixes type key.selection
  Generating.log .queryByKey .debug
    s!"Add query field {name} for key \"{key.fields}\" of {type}"
  return fields ++ [⟨⟨name, none, .named type, .object, arguments⟩, .byKey type⟩]

/-- All keys which get a query field: those of primary types other than the query root. -/
def TypeSystem.queryKeys (ts : TypeSystem) : List (String × KeyDeclaration) :=
  ts.types.flatMap fun t =>
    if t.name = ts.queryType then []
    else ((ts.keysOf? t).getD []).map fun key => (t.name, key)

/-- Adds a query field for each key, in order. With a failure come the fields added before. -/
def addKeyFieldsFrom {δ : Type} (ts : TypeSystem) (map : TypeMap δ) (suffixes : Suffixes) :
    List ObjectField → List (String × KeyDeclaration) → Generation →
      (List ObjectField × Except BuildFailure Unit) × Generation
  | fields, [], g => ((fields, .ok ()), g)
  | fields, (type, key) :: rest, g =>
    match (addKeyField ts map suffixes fields type key).run g with
    | (.ok fields, g) => addKeyFieldsFrom ts map suffixes fields rest g
    | (.error e, g) => ((fields, .error e), g)

/-- Adds the query fields of all keys. -/
def addKeyFields {δ : Type} (ts : TypeSystem) (map : TypeMap δ) (suffixes : Suffixes)
    (fields : List ObjectField) : Generating (List ObjectField) := fun g =>
  match addKeyFieldsFrom ts map suffixes fields ts.queryKeys g with
  | ((fields, .ok ()), g) => (.ok fields, g)
  | ((_, .error e), g) => (.error e, g)

end EntityGraph
