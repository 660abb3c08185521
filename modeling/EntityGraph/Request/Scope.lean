import EntityGraph.Request.Visit

/-!
# Fragments and variables

An operation uses the variables which occur in it and in the fragments it spreads, directly or
through other fragments. These rules look at a document as a whole: variables are defined and
used; fragments are used and do not spread themselves.
-/

namespace EntityGraph

/-- What an operation or a fragment uses itself. -/
structure ScopeUse where
  spreads : List (String × Position)
  /-- Variables in arguments, with the place of the argument. -/
  inArguments : List (String × Position)

namespace ScopeUse

def ofScene (scene : Scene) : ScopeUse :=
  match scene.visit with
  | .spread s => ⟨[(s.name.value, s.position)], []⟩
  | .argument a _ _ => ⟨[], a.value.value.usedVariables.map fun v => (v, a.name.position)⟩
  | _ => ⟨[], []⟩

def ofScenes (scenes : List Scene) : ScopeUse :=
  let uses := scenes.map ofScene
  ⟨uses.flatMap (·.spreads), uses.flatMap (·.inArguments)⟩

end ScopeUse

/-- The uses of all fragments of a document. -/
abbrev FragmentUses := List (String × ScopeUse)

namespace FragmentUses

def ofDocument (r : Registry) (document : QueryDocument) : FragmentUses :=
  document.fragments.map fun f => (f.name.value, ScopeUse.ofScenes (Scene.ofFragment r f))

def spreadsOf (uses : FragmentUses) (name : String) : List (String × Position) :=
  ((List.lookup name uses).map (·.spreads)).getD []

/-- The fragments which `pending` spread, depth first, behind those already `seen`. Each step takes
    one off `pending`; `fuel` bounds how many there can be. -/
def reach (uses : FragmentUses) : (fuel : Nat) → (seen pending : List String) → List String
  | 0, seen, _ => seen
  | _, seen, [] => seen
  | fuel + 1, seen, name :: rest =>
    if name ∈ seen then reach uses fuel seen rest
    else reach uses fuel (seen ++ [name]) ((uses.spreadsOf name).map (·.1) ++ rest)

/-- The fragments an operation uses, depth first. -/
def reachedBy (uses : FragmentUses) (use : ScopeUse) : List String :=
  let all := (uses.flatMap fun u => u.2.spreads).length + use.spreads.length
  reach uses (all + 1) [] (use.spreads.map (·.1))

/-- What an operation uses itself, then what each of its fragments uses. -/
def scopesOf (uses : FragmentUses) (use : ScopeUse) : List ScopeUse :=
  use :: (uses.reachedBy use).filterMap fun name => List.lookup name uses

end FragmentUses

namespace QueryDocument

variable (r : Registry) (document : QueryDocument)

def operationUses : List (Operation × ScopeUse) :=
  document.operations.map fun o => (o, ScopeUse.ofScenes (Scene.ofOperation r o))

/-- The variables an operation defines; only queries define any. -/
def definedBy (o : Operation) : List VariableDefinition :=
  if o.kind = .query then o.variableDefinitions else []

def operationName (o : Operation) : Option String := o.name.map (·.value)

/-- The place of the last use of each variable, in the order of first uses. -/
def lastUses (uses : List (String × Position)) : List (String × Position) :=
  lastByName (·.1) uses

/-- Variables which are used without being defined. An operation with a name is told of as well. -/
def undefinedVariables : List QueryFault :=
  let fragments := FragmentUses.ofDocument r document
  (operationUses r document).flatMap fun (o, use) =>
    (fragments.scopesOf use).flatMap fun scope =>
      ((lastUses scope.inArguments).filter fun v =>
        !(definedBy o).any fun d => d.name.value = v.1).map fun v =>
          ⟨.undefinedVariable v.1 (operationName o),
            if o.name.isSome then [o.position, v.2] else [v.2]⟩

/-- Variables which are defined without being used. -/
def unusedVariables : List QueryFault :=
  let fragments := FragmentUses.ofDocument r document
  (operationUses r document).flatMap fun (o, use) =>
    let used := (fragments.scopesOf use).flatMap fun scope => scope.inArguments.map (·.1)
    ((definedBy o).filter fun d => !used.contains d.name.value).map fun d =>
      ⟨.unusedVariable d.name.value (operationName o), [d.position]⟩

/-- Fragments which no operation uses. -/
def unusedFragments : List QueryFault :=
  let fragments := FragmentUses.ofDocument r document
  let used := (operationUses r document).flatMap fun (_, use) => fragments.reachedBy use
  (document.fragments.filter fun f => !used.contains f.name.value).map fun f =>
    ⟨.unusedFragment f.name.value, [f.position]⟩

/-- Looks for cycles from a fragment, which is reached by the spreads at the places of `path`.
    `active` are the fragments on the path and where it enters them. The result are all fragments
    visited so far and the cycles found. -/
def cyclesFrom (uses : FragmentUses) (fuel : Nat) (name : String) (path : List Position)
    (active : List (String × Nat)) (visited : List String) : List String × List QueryFault :=
  match fuel with
  | 0 => (visited, [])
  | fuel + 1 =>
    let active := (name, path.length) :: active
    (uses.spreadsOf name).foldl (fun (visited, faults) (next, p) =>
      match active.lookup next with
      | some index => (visited, faults ++ [⟨.fragmentCycle next, [(path[index]?).getD p]⟩])
      | none =>
        if visited.contains next then (visited, faults)
        else
          let (visited, more) := cyclesFrom uses fuel next (path ++ [p]) active visited
          (visited, faults ++ more)) (name :: visited, [])

/-- Fragments which spread themselves, perhaps through others. -/
def fragmentCycles : List QueryFault :=
  let uses := FragmentUses.ofDocument r document
  (document.fragments.foldl (fun (visited, faults) f =>
    if visited.contains f.name.value then (visited, faults)
    else
      let (visited, more) := cyclesFrom uses (uses.length + 2) f.name.value [] [] visited
      (visited, faults ++ more)) (([] : List String), ([] : List QueryFault))).2

end QueryDocument

end EntityGraph
