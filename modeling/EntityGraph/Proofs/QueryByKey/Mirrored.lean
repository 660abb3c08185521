import Mathlib
import EntityGraph.Proofs.QueryByKey.Naming
import EntityGraph.Proofs.QueryByKey.Shapes

/-!
# Arguments mirror their key

The arguments of a query field are those a reader expects who knows the key and the declared types:
one for each selected field, in order and of its name. A leaf is an argument of the declared type; a
nested selection is a required argument of a type which was generated for it, and the fields of this
type mirror the selection in the same way (`Mirrors`). What mirrors a selection is told without a
run: neither the path to a selection nor the suffixes are known to it. These make the names of the
generated types, which come in the order of the nested selections, those below one in front of its
own.

* `mirrors_of_keyArguments`: arguments which are generated mirror the key, with one type for each
  nested selection, named after its path and the next suffix.
-/

namespace EntityGraph

mutual

/-- The argument mirrors a field selected on a type, with these types generated for it. -/
inductive Mirrors (ts : TypeSystem) :
    SourceType → Selection → InputValue → List GeneratedInput → Prop
  | leaf {t : SourceType} {name : String} {field : FieldDeclaration}
      (hfield : t.field? name = some field) :
      Mirrors ts t (.mk name []) (.ofType name field.type) []
  | nested {t inner : SourceType} {name : String} {field : FieldDeclaration} {c : Selection}
      {cs : List Selection} {below : List GeneratedInput} (input : GeneratedInput)
      (hfield : t.field? name = some field) (hinner : ts.get? field.type.core = some inner)
      (hfields : AllMirror ts inner (c :: cs) input.fields below) :
      Mirrors ts t (.mk name (c :: cs)) (.ofType name (.nonNull (.named input.name)))
        (below ++ [input])

/-- The arguments mirror the fields selected on a type one by one, and so do the types generated
    for them. -/
inductive AllMirror (ts : TypeSystem) :
    SourceType → List Selection → List InputValue → List GeneratedInput → Prop
  | nil {t : SourceType} : AllMirror ts t [] [] []
  | cons {t : SourceType} {s : Selection} {rest : List Selection} {argument : InputValue}
      {arguments : List InputValue} {below more : List GeneratedInput} :
      Mirrors ts t s argument below → AllMirror ts t rest arguments more →
      AllMirror ts t (s :: rest) (argument :: arguments) (below ++ more)

end

section

variable {ts : TypeSystem} {kinds : String → Option Kind}

mutual

/-- What has the shape of a selected field mirrors it. -/
theorem mirrors_of_describes : ∀ (s : Selection) {t : SourceType} {path : String}
    {shape : ArgumentShape} {argument : InputValue} {inputs : List GeneratedInput},
    shapeOf ts.get? kinds t path s = some shape → shape.Describes argument inputs →
      Mirrors ts t s argument inputs
  | .mk name children, t, path, shape, argument, inputs, hshape, h => by
    rw [shapeOf] at hshape
    split at hshape
    · cases hshape
    · next field hfield =>
      split at hshape
      · split at hshape
        · obtain rfl := Option.some.inj hshape
          rw [ArgumentShape.Describes] at h
          obtain ⟨rfl, rfl⟩ := h
          exact .leaf hfield
        · cases hshape
      · next c cs =>
        split at hshape
        · cases hshape
        · next inner hinner =>
          obtain ⟨fields, hfields, hshape⟩ := Option.bind_eq_some_iff.1 hshape
          split at hshape
          · obtain rfl := Option.some.inj hshape
            rw [ArgumentShape.Describes] at h
            obtain ⟨suffix, values, below, hvalues, rfl, rfl⟩ := h
            exact .nested ⟨_, values⟩ hfield hinner
              (allMirror_of_allDescribe (c :: cs) hfields hvalues)
          · cases hshape

theorem allMirror_of_allDescribe : ∀ (tree : List Selection) {t : SourceType} {path : String}
    {shapes : List ArgumentShape} {arguments : List InputValue} {inputs : List GeneratedInput},
    shapesOf ts.get? kinds t path tree = some shapes →
      ArgumentShape.AllDescribe shapes arguments inputs → AllMirror ts t tree arguments inputs
  | [], t, path, shapes, arguments, inputs, hshapes, h => by
    obtain rfl := Option.some.inj hshapes
    rw [ArgumentShape.AllDescribe] at h
    obtain ⟨rfl, rfl⟩ := h
    exact .nil
  | s :: rest, t, path, shapes, arguments, inputs, hshapes, h => by
    rw [shapesOf] at hshapes
    obtain ⟨shape, hshape, hshapes⟩ := Option.bind_eq_some_iff.1 hshapes
    obtain ⟨others, hothers, hshapes⟩ := Option.bind_eq_some_iff.1 hshapes
    obtain rfl := Option.some.inj hshapes
    rw [ArgumentShape.AllDescribe] at h
    obtain ⟨first, values, below, more, hfirst, hvalues, rfl, rfl⟩ := h
    exact .cons (mirrors_of_describes s hshape hfirst)
      (allMirror_of_allDescribe rest hothers hvalues)

end

end

/-- Arguments which are generated for a key of a type mirror the key. For each nested selection one
    type is generated behind those which were there, in the order of the paths to the selections; it
    is named after its path and the next suffix. -/
theorem mirrors_of_keyArguments {δ : Type} {ts : TypeSystem} {map : TypeMap δ}
    {suffixes : Suffixes} {type : String} {selection : SelectionTree} {g g' : Generation}
    {arguments : List InputValue}
    (h : ((keyArguments ts map suffixes type selection).run g :
      Except BuildFailure (List InputValue) × Generation) = (.ok arguments, g')) :
    ∃ t inputs, ts.get? type = some t ∧ AllMirror ts t selection arguments inputs ∧
      g'.generated = g.generated ++ inputs ∧
      inputs.map (·.name) = suffixes.namesFrom g.drawn (allNestedPaths type selection) ∧
      g'.drawn = g.drawn + inputs.length := by
  have hfollows : Generating.Follows (keyArguments ts map suffixes type selection) _ _ :=
    follows_keyArguments type selection
  obtain ⟨shapes, inputs, hshapes, hgenerated, hdescribe⟩ := hfollows.exists_of_run h
  obtain ⟨t, ht, hshapes⟩ := Option.bind_eq_some_iff.1 hshapes
  obtain ⟨hdrawn, hnames⟩ := names_keyArguments type selection g arguments g' h
  -- The names are those of all generated types, from which the former ones are cancelled.
  rw [hgenerated, List.map_append, List.append_cancel_left_eq] at hnames
  refine ⟨t, inputs, ht, allMirror_of_allDescribe selection hshapes hdescribe, hgenerated,
    hnames, ?_⟩
  have hlength := congrArg List.length hnames
  rw [List.length_map, Suffixes.namesFrom, List.length_mapIdx] at hlength
  rw [hdrawn, hlength]

/-- A key which nests twice: the innermost type is generated first. -/
theorem mirrors_of_keyArguments_innermost :
    let sdl := "type Query \x7b t: T \x7d type T \x7b a: [ID!]! b: Nested! \x7d
      type Nested \x7b c: String deeper: Deeper \x7d type Deeper \x7b e: Boolean \x7d"
    ∃ ts selection arguments g', TypeSystem.load sdl = .ok ts ∧
      SelectionTree.read "a b \x7b deeper \x7b e \x7d c \x7d" = .ok selection ∧
      ((keyArguments ts (TypeMap.ofTypeSystem ts [] : TypeMap Unit) .counting "T" selection).run
        .empty : Except BuildFailure (List InputValue) × Generation) = (.ok arguments, g') ∧
      g'.generated.map (·.name) = ["TBDeeperInput0", "TBInput1"] ∧
      ∃ t, ts.get? "T" = some t ∧ AllMirror ts t selection arguments g'.generated := by
  intro sdl
  have hfacts : ∃ ts ∈ (TypeSystem.load sdl).toOption,
      ∃ selection ∈ (SelectionTree.read "a b \x7b deeper \x7b e \x7d c \x7d").toOption,
      ((keyArguments ts (TypeMap.ofTypeSystem ts [] : TypeMap Unit) .counting "T" selection).run
        .empty).1.toOption.isSome = true ∧
      ((keyArguments ts (TypeMap.ofTypeSystem ts [] : TypeMap Unit) .counting "T" selection).run
        .empty).2.generated.map (·.name) = ["TBDeeperInput0", "TBInput1"] := by
    decide +kernel
  obtain ⟨ts, hts, selection, hselection, hok, hnames⟩ := hfacts
  rw [Option.mem_def, Outcome.toOption_eq_some] at hts hselection
  generalize hrun : ((keyArguments ts (TypeMap.ofTypeSystem ts [] : TypeMap Unit) .counting "T"
    selection).run .empty : Except BuildFailure (List InputValue) × Generation) = result
      at hok hnames
  obtain ⟨outcome, g'⟩ := result
  obtain ⟨arguments, rfl⟩ := Outcome.isSome_toOption.1 hok
  obtain ⟨t, inputs, ht, hmirrors, hgenerated, -⟩ := mirrors_of_keyArguments hrun
  exact ⟨ts, selection, arguments, g', hts, hselection, hrun, hnames, t, ht,
    hgenerated ▸ hmirrors⟩

end EntityGraph
