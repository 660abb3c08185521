import Mathlib
import EntityGraph.Proofs.QueryByKey.Naming
import EntityGraph.Proofs.QueryByKey.Shapes

/-!
# Two walks along a key

A key is walked along twice: once to resolve it into the projection which ids are made of, and once
more to generate the arguments of its query field. Both walks look up the same fields and types in
the same order. The second one asks more of a key: its leaves have to be of types which may be
passed in, and no generated input type may have two fields of one name. As long as this is granted,
both get through or both stop at the same place, for the same reason (`Generating.Agrees`).

* `SelectsLeaf`: the leaves of a selection;
* `keyArguments_agrees_ofSelection`: when the two walks along a key end in the same way.
-/

namespace EntityGraph

/-! ### Leaves -/

/-- The selection, made on the type, has a leaf which is this field of its own type. -/
inductive SelectsLeaf (ts : TypeSystem) : SourceType → SelectionTree → FieldDeclaration → Prop
  | leaf {t : SourceType} {tree : SelectionTree} {name : String} {field : FieldDeclaration}
      (hmem : .mk name [] ∈ tree) (hfield : t.field? name = some field) :
      SelectsLeaf ts t tree field
  | nested {t inner : SourceType} {tree children : SelectionTree} {name : String}
      {field leaf : FieldDeclaration} (hmem : .mk name children ∈ tree)
      (hfield : t.field? name = some field) (hinner : ts.get? field.type.core = some inner)
      (hleaf : SelectsLeaf ts inner children leaf) : SelectsLeaf ts t tree leaf

/-- Every leaf of the selection which is a field has a declared type which may be passed in. -/
def TypeMap.TakesLeaves {δ : Type} (map : TypeMap δ) (ts : TypeSystem) (t : SourceType)
    (tree : SelectionTree) : Prop :=
  ∀ field, SelectsLeaf ts t tree field →
    ∃ kind, map.kind? field.type.core = some kind ∧ kind.isInput = true

section

variable {δ : Type} {ts : TypeSystem} {map : TypeMap δ} {t inner : SourceType}

theorem not_selectsLeaf_nil {field : FieldDeclaration} : ¬ SelectsLeaf ts t [] field := by
  rintro (⟨hmem, -⟩ | ⟨hmem, -, -, -⟩) <;> cases hmem

theorem selectsLeaf_cons {s : Selection} {rest : SelectionTree} {field : FieldDeclaration} :
    SelectsLeaf ts t (s :: rest) field ↔
      SelectsLeaf ts t [s] field ∨ SelectsLeaf ts t rest field := by
  constructor
  · rintro (⟨hmem, hfield⟩ | ⟨hmem, hfield, hinner, hleaf⟩)
    · rcases List.mem_cons.1 hmem with rfl | hmem
      · exact .inl (.leaf List.mem_cons_self hfield)
      · exact .inr (.leaf hmem hfield)
    · rcases List.mem_cons.1 hmem with rfl | hmem
      · exact .inl (.nested List.mem_cons_self hfield hinner hleaf)
      · exact .inr (.nested hmem hfield hinner hleaf)
  · rintro ((⟨hmem, hfield⟩ | ⟨hmem, hfield, hinner, hleaf⟩) |
      (⟨hmem, hfield⟩ | ⟨hmem, hfield, hinner, hleaf⟩))
    · exact .leaf (List.mem_cons.2 (.inl (List.mem_singleton.1 hmem))) hfield
    · exact .nested (List.mem_cons.2 (.inl (List.mem_singleton.1 hmem))) hfield hinner hleaf
    · exact .leaf (List.mem_cons_of_mem _ hmem) hfield
    · exact .nested (List.mem_cons_of_mem _ hmem) hfield hinner hleaf

namespace TypeMap

theorem takesLeaves_nil : map.TakesLeaves ts t [] := fun _ h => absurd h not_selectsLeaf_nil

theorem takesLeaves_cons {s : Selection} {rest : SelectionTree} :
    map.TakesLeaves ts t (s :: rest) ↔ map.TakesLeaves ts t [s] ∧ map.TakesLeaves ts t rest := by
  rw [TakesLeaves, TakesLeaves, TakesLeaves, ← forall_and]
  refine forall_congr' fun field => ?_
  rw [selectsLeaf_cons, or_imp]

/-- A leaf is taken if the type of its field may be passed in. -/
theorem takesLeaves_leaf {name : String} {field : FieldDeclaration}
    (hfield : t.field? name = some field) : map.TakesLeaves ts t [.mk name []] ↔
      ∃ kind, map.kind? field.type.core = some kind ∧ kind.isInput = true := by
  refine ⟨fun h => h field (.leaf List.mem_cons_self hfield), fun h other hother => ?_⟩
  rcases hother with ⟨hmem, hother⟩ | ⟨hmem, -, -, hleaf⟩
  · cases List.mem_singleton.1 hmem
    cases hfield.symm.trans hother
    exact h
  · cases List.mem_singleton.1 hmem
    exact absurd hleaf not_selectsLeaf_nil

/-- A nested selection has the leaves of the fields below. -/
theorem takesLeaves_nested {name : String} {c : Selection} {cs : SelectionTree}
    {field : FieldDeclaration} (hfield : t.field? name = some field)
    (hinner : ts.get? field.type.core = some inner) :
    map.TakesLeaves ts t [.mk name (c :: cs)] ↔ map.TakesLeaves ts inner (c :: cs) := by
  refine ⟨fun h leaf hleaf => h leaf (.nested List.mem_cons_self hfield hinner hleaf),
    fun h leaf hleaf => ?_⟩
  rcases hleaf with ⟨hmem, -⟩ | ⟨hmem, hfield', hinner', hleaf⟩
  · cases List.mem_singleton.1 hmem
  · cases List.mem_singleton.1 hmem
    cases hfield.symm.trans hfield'
    cases hinner.symm.trans hinner'
    exact h leaf hleaf

end TypeMap

end

/-! ### A step next to a check -/

namespace Generating

variable {α β γ δ : Type} {check : Except BuildError β} {taken once taken' once' : Prop}
  {P P' : α → Prop} {Q : γ → Prop}

/-- The step gets through only if the check does, and if leaves are taken and names occur once. If
    leaves are taken it fails for the reason the check fails for, unless a name occurs twice. -/
structure Agrees (x : Generating α) (check : Except BuildError β) (taken once : Prop)
    (returns : α → Prop) : Prop where
  ok : ∀ {g a g'}, (x.run g : Except BuildFailure α × Generation) = (.ok a, g') →
    returns a ∧ taken ∧ once ∧ ∃ b, check = .ok b
  error : ∀ {g failure g'}, (x.run g : Except BuildFailure α × Generation) = (.error failure, g') →
    taken → (∃ e, failure = .error e ∧ check = .error e) ∨ ¬ once ∧ ¬ failure.IsError

theorem Agrees.congr {x : Generating α} (h : Agrees x check taken once P) (htaken : taken ↔ taken')
    (honce : once ↔ once') : Agrees x check taken' once' P := by
  rwa [← htaken, ← honce]

theorem agrees_pure {a : α} {b : β} (h : P a) (htaken : taken) (honce : once) :
    Agrees (pure a) (.ok b) taken once P where
  ok hrun := by
    cases hrun
    exact ⟨h, htaken, honce, b, rfl⟩
  error hrun := nomatch congrArg Prod.fst hrun

/-- What always gets through agrees with a check which does. -/
theorem agrees_of_follows {R : γ → α → List GeneratedInput → Prop} {x : Generating α} {c : γ}
    {b : β} (hx : Follows x (some c) R) (hR : ∀ a inputs, R c a inputs → P a)
    (htaken : taken) (honce : once) : Agrees x (.ok b) taken once P where
  ok hrun := by
    obtain ⟨c', inputs, hc, -, ha⟩ := hx.exists_of_run hrun
    cases hc
    exact ⟨hR _ inputs ha, htaken, honce, b, rfl⟩
  error {g} _ _ hrun := by
    obtain ⟨a, inputs, g', hgives, -⟩ := hx g
    cases hgives.symm.trans hrun

theorem agrees_fail (e : BuildError) :
    Agrees (fail e : Generating α) (.error e : Except BuildError β) taken once P where
  ok hrun := nomatch congrArg Prod.fst hrun
  error hrun _ := .inl ⟨e, (Except.error.inj (congrArg Prod.fst hrun)).symm, rfl⟩

/-- Where leaves are not taken the step has to fail, no matter how. -/
theorem agrees_of_not_taken {x : Generating α}
    (hfails : ∀ g, ∃ failure g',
      (x.run g : Except BuildFailure α × Generation) = (.error failure, g'))
    (h : ¬ taken) : Agrees x check taken once P where
  ok {g} _ _ hrun := by
    obtain ⟨failure, g', hfailure⟩ := hfails g
    cases hfailure.symm.trans hrun
  error _ htaken := absurd htaken h

/-- Where a name occurs twice the step may fail without an error. -/
theorem agrees_throw_bind {failure : BuildFailure} {f : γ → Generating α} (honce : ¬ once)
    (hfailure : ¬ failure.IsError) : Agrees (throw failure >>= f) check taken once P where
  ok hrun := nomatch congrArg Prod.fst hrun
  error hrun _ := by
    obtain rfl := Except.error.inj (congrArg Prod.fst hrun)
    exact .inr ⟨honce, hfailure⟩

theorem Agrees.bind {x : Generating α} {f : α → Generating γ} {check' : β → Except BuildError δ}
    (hx : Agrees x check taken once P)
    (hf : ∀ a b, P a → check = .ok b → Agrees (f a) (check' b) taken' once' Q) :
    Agrees (x >>= f) (check >>= check') (taken ∧ taken') (once ∧ once') Q where
  ok hrun := by
    obtain ⟨a, next, hfirst, hrest⟩ := run_bind_eq_ok hrun
    obtain ⟨ha, htaken, honce, b, rfl⟩ := hx.ok hfirst
    obtain ⟨hc, htaken', honce', hcheck'⟩ := (hf a b ha rfl).ok hrest
    exact ⟨hc, ⟨htaken, htaken'⟩, ⟨honce, honce'⟩, hcheck'⟩
  error hrun htaken := by
    rcases run_bind_eq_error hrun with hfirst | ⟨a, next, hfirst, hrest⟩
    · rcases hx.error hfirst htaken.1 with ⟨e, rfl, rfl⟩ | ⟨honce, hfailure⟩
      · exact .inl ⟨e, rfl, rfl⟩
      · exact .inr ⟨fun h => honce h.1, hfailure⟩
    · obtain ⟨ha, -, -, b, rfl⟩ := hx.ok hfirst
      rcases (hf a b ha rfl).error hrest htaken.2 with he | ⟨honce, hfailure⟩
      · exact .inl he
      · exact .inr ⟨fun h => honce h.2, hfailure⟩

/-- What the check makes of its result does not matter. -/
theorem Agrees.check_bind {x : Generating α} (h : Agrees x check taken once P) (f : β → δ) :
    Agrees x (check >>= fun b => .ok (f b)) taken once P where
  ok hrun := by
    obtain ⟨ha, htaken, honce, b, rfl⟩ := h.ok hrun
    exact ⟨ha, htaken, honce, f b, rfl⟩
  error hrun htaken := by
    rcases h.error hrun htaken with ⟨e, rfl, rfl⟩ | hother
    · exact .inl ⟨e, rfl, rfl⟩
    · exact .inr hother

/-- In front of the step stands one which the check knows nothing of, and which always gets
    through. -/
theorem Agrees.behind {x : Generating γ} {f : γ → Generating α}
    (hx : ∀ g, ∃ c g', (x.run g : Except BuildFailure γ × Generation) = (.ok c, g'))
    (hf : ∀ c, Agrees (f c) check taken once P) : Agrees (x >>= f) check taken once P where
  ok hrun := by
    obtain ⟨c, next, -, hrest⟩ := run_bind_eq_ok hrun
    exact (hf c).ok hrest
  error {g} _ _ hrun htaken := by
    rcases run_bind_eq_error hrun with hfirst | ⟨c, next, -, hrest⟩
    · obtain ⟨c, g', hgives⟩ := hx g
      cases hgives.symm.trans hfirst
    · exact (hf c).error hrest htaken

end Generating

/-! ### The two walks -/

section

open Generating KeyProjection

variable {δ : Type} {ts : TypeSystem} {map : TypeMap δ} {suffixes : Suffixes}

mutual

theorem agrees_argumentOf : ∀ (s : Selection) (t : SourceType) (path : String),
    Agrees (argumentOf ts map suffixes t path s) (fieldOfSelection ts t s)
      (map.TakesLeaves ts t [s]) (s.Below SelectionTree.EachOnce)
      fun argument => argument.name = s.name
  | .mk name children, t, path => by
    cases hfield : t.field? name with
    | none =>
      rw [argumentOf, fieldOfSelection, hfield]
      exact agrees_fail _
    | some field =>
      cases children with
      | nil =>
        -- The projection takes any leaf, the arguments only those which may be passed in.
        have hfollows : Follows (argumentOf ts map suffixes t path (.mk name [])) _ _ :=
          follows_argumentOf (.mk name []) t path
        rw [fieldOfSelection, hfield]
        simp only [shapeOf, hfield] at hfollows
        split at hfollows
        · next hinput =>
          obtain ⟨kind, hkind, hinput⟩ := (Option.any_eq_true _ _).1 hinput
          exact agrees_of_follows hfollows (fun _ _ h => h.name)
            ((TypeMap.takesLeaves_leaf hfield).2 ⟨kind, hkind, hinput⟩) ⟨List.nodup_nil, trivial⟩
        · next hinput =>
          refine agrees_of_not_taken hfollows fun htaken => hinput ?_
          obtain ⟨kind, hkind, hinput⟩ := (TypeMap.takesLeaves_leaf hfield).1 htaken
          rw [hkind, Option.any_some, hinput]
      | cons c cs =>
        rw [argumentOf, fieldOfSelection, hfield]
        simp only
        cases hinner : ts.get? field.type.core with
        | none => exact agrees_fail _
        | some inner =>
          simp only
          have htaken : map.TakesLeaves ts inner (c :: cs) ∧ True ↔
              map.TakesLeaves ts t [.mk name (c :: cs)] := by
            rw [and_true, TypeMap.takesLeaves_nested hfield hinner]
          have honce : Selection.AllBelow SelectionTree.EachOnce (c :: cs) ∧
              SelectionTree.EachOnce (c :: cs) ↔
                (Selection.mk name (c :: cs)).Below SelectionTree.EachOnce := and_comm
          refine Agrees.congr ?_ htaken honce
          refine (agrees_argumentsOf (c :: cs) inner _).bind fun fields _ hnames _ => ?_
          refine Agrees.behind (fun g => ⟨_, _, rfl⟩) fun suffix => ?_
          split
          · next twice htwice =>
            refine agrees_throw_bind (fun honce => ?_) (by rintro ⟨_, ⟨⟩⟩)
            rw [firstRepeated?_eq_none.2 (hnames ▸ honce)] at htwice
            cases htwice
          · next hnone =>
            have hnodup : (fields.map (·.name)).Nodup :=
              firstRepeated?_eq_none.1 (Option.eq_none_iff_forall_ne_some.2 hnone)
            refine Agrees.behind (fun g => ⟨(), _, rfl⟩) fun _ => ?_
            exact agrees_pure rfl trivial ((congrArg List.Nodup hnames).mp hnodup)

/-- The arguments for selected fields are named as these, and the two walks along them agree. -/
theorem agrees_argumentsOf : ∀ (tree : List Selection) (t : SourceType) (path : String),
    Agrees (argumentsOf ts map suffixes t path tree) (fieldsOfSelection ts t tree)
      (map.TakesLeaves ts t tree) (Selection.AllBelow SelectionTree.EachOnce tree)
      fun arguments => arguments.map (·.name) = SelectionTree.names tree
  | [], t, path => by
    rw [argumentsOf, fieldsOfSelection]
    exact agrees_pure rfl TypeMap.takesLeaves_nil trivial
  | s :: rest, t, path => by
    rw [argumentsOf, fieldsOfSelection]
    have htaken : map.TakesLeaves ts t [s] ∧ map.TakesLeaves ts t rest ∧ True ↔
        map.TakesLeaves ts t (s :: rest) := by
      rw [and_true]
      exact TypeMap.takesLeaves_cons.symm
    have honce : s.Below SelectionTree.EachOnce ∧
        Selection.AllBelow SelectionTree.EachOnce rest ∧ True ↔
          Selection.AllBelow SelectionTree.EachOnce (s :: rest) := by
      rw [and_true, Selection.AllBelow]
    refine Agrees.congr ?_ htaken honce
    refine (agrees_argumentOf s t path).bind fun first _ hfirst _ => ?_
    refine (agrees_argumentsOf rest t path).bind fun others _ hothers _ => ?_
    refine agrees_pure ?_ trivial trivial
    rw [List.map_cons, hfirst, hothers, SelectionTree.names, SelectionTree.names, List.map_cons]

end

/-- The walk for the arguments of a key agrees with the one which resolves it. -/
theorem agrees_keyArguments (type : String) (selection : SelectionTree) :
    Agrees (keyArguments ts map suffixes type selection) (ofSelection ts type selection)
      (∀ t, ts.get? type = some t → map.TakesLeaves ts t selection)
      (Selection.AllBelow SelectionTree.EachOnce selection)
      fun arguments => arguments.map (·.name) = selection.names := by
  rw [keyArguments, ofSelection]
  cases ts.get? type with
  | none => exact agrees_fail _
  | some t =>
    simp only [Option.some.injEq, forall_eq']
    exact (agrees_argumentsOf selection t type).check_bind
      (KeyProjection.mk type (ts.isPrimary t))

end

/-- The walk for the arguments of a key gets through exactly if the key can be resolved, its leaves
    may be passed in, and no layer below the outermost one selects a field twice. If leaves may be
    passed in, an error it fails with is the one for which the key can not be resolved; and where a
    key can not be resolved it fails with this error, unless it comes to a layer which selects a
    field twice. -/
theorem keyArguments_agrees_ofSelection {δ : Type} (ts : TypeSystem) (map : TypeMap δ)
    (suffixes : Suffixes) (type : String) (selection : SelectionTree) (g : Generation) :
    ((∃ arguments, ((keyArguments ts map suffixes type selection).run g).1 = .ok arguments) ↔
      (∃ projection, KeyProjection.ofSelection ts type selection = .ok projection) ∧
        (∀ t, ts.get? type = some t → map.TakesLeaves ts t selection) ∧
          Selection.AllBelow SelectionTree.EachOnce selection) ∧
    ((∀ t, ts.get? type = some t → map.TakesLeaves ts t selection) →
      (∀ e, ((keyArguments ts map suffixes type selection).run g).1 = .error (.error e) →
        KeyProjection.ofSelection ts type selection = .error e ∧ e.IsUnknown) ∧
      (Selection.AllBelow SelectionTree.EachOnce selection → ∀ e,
        KeyProjection.ofSelection ts type selection = .error e →
          ((keyArguments ts map suffixes type selection).run g).1 = .error (.error e))) := by
  have hwalk : Generating.Agrees (keyArguments ts map suffixes type selection) _ _ _ _ :=
    agrees_keyArguments type selection
  generalize hrun : ((keyArguments ts map suffixes type selection).run g :
    Except BuildFailure (List InputValue) × Generation) = result
  obtain ⟨failure | arguments, g'⟩ := result
  · refine ⟨iff_of_false (by simp) ?_, fun htaken => ⟨?_, fun honce e he => ?_⟩⟩
    · rintro ⟨⟨projection, hprojection⟩, htaken, honce⟩
      rcases hwalk.error hrun htaken with ⟨e, -, he⟩ | ⟨hnot, -⟩
      · cases hprojection.symm.trans he
      · exact hnot honce
    · rintro e ⟨⟩
      rcases hwalk.error hrun htaken with ⟨e', heq, he⟩ | ⟨-, hnot⟩
      · cases heq
        exact ⟨he, KeyProjection.isUnknown_of_ofSelection he⟩
      · exact absurd (BuildFailure.isError_error e) hnot
    · rcases hwalk.error hrun htaken with ⟨e', rfl, he'⟩ | ⟨hnot, -⟩
      · cases he.symm.trans he'
        rfl
      · exact absurd honce hnot
  · obtain ⟨-, htaken, honce, hprojection⟩ := hwalk.ok hrun
    refine ⟨iff_of_true ⟨arguments, rfl⟩ ⟨hprojection, htaken, honce⟩, fun _ => ⟨?_, ?_⟩⟩
    · rintro e ⟨⟩
    · rintro - e he
      obtain ⟨projection, hprojection⟩ := hprojection
      cases hprojection.symm.trans he

/-- A nested field which is selected once, and one which is selected twice: both keys can be
    resolved, but the generated type may not have a field twice. -/
theorem keyArguments_agrees_ofSelection_repeated :
    let sdl := "type Query \x7b t: T \x7d type T \x7b b: Nested! \x7d
      type Nested \x7b c: String \x7d"
    ∃ ts once twice, TypeSystem.load sdl = .ok ts ∧
      SelectionTree.read "b \x7b c \x7d" = .ok once ∧
      SelectionTree.read "b \x7b c c \x7d" = .ok twice ∧
      let map : TypeMap Unit := TypeMap.ofTypeSystem ts []
      (∃ t, ts.get? "T" = some t ∧ map.TakesLeaves ts t once) ∧
      (∃ projection, KeyProjection.ofSelection ts "T" once = .ok projection) ∧
      (∃ projection, KeyProjection.ofSelection ts "T" twice = .ok projection) ∧
      ((keyArguments ts map .counting "T" twice).run .empty).1 =
        .error (.fieldTwice "TBInput0" "c") := by
  intro sdl
  have hfacts : ∃ ts ∈ (TypeSystem.load sdl).toOption,
      ∃ once ∈ (SelectionTree.read "b \x7b c \x7d").toOption,
      ∃ twice ∈ (SelectionTree.read "b \x7b c c \x7d").toOption,
      (ts.get? "T").isSome = true ∧
      ((keyArguments ts (TypeMap.ofTypeSystem ts [] : TypeMap Unit) .counting "T" once).run
        .empty).1.toOption.isSome = true ∧
      (KeyProjection.ofSelection ts "T" twice).toOption.isSome = true ∧
      ((keyArguments ts (TypeMap.ofTypeSystem ts [] : TypeMap Unit) .counting "T" twice).run
        .empty).1.map (fun _ => ()) = .error (.fieldTwice "TBInput0" "c") := by
    decide +kernel
  obtain ⟨ts, hts, once, honce, twice, htwice, ht, harguments, hprojection, hfails⟩ := hfacts
  rw [Option.mem_def, Outcome.toOption_eq_some] at hts honce htwice
  obtain ⟨t, ht⟩ := Option.isSome_iff_exists.1 ht
  obtain ⟨hresolves, hleaves, -⟩ := (keyArguments_agrees_ofSelection ts
    (TypeMap.ofTypeSystem ts [] : TypeMap Unit) .counting "T" once .empty).1.1
      (Outcome.isSome_toOption.1 harguments)
  exact ⟨ts, once, twice, hts, honce, htwice, ⟨t, ht, hleaves t ht⟩, hresolves,
    Outcome.isSome_toOption.1 hprojection, Outcome.map_eq_error.1 hfails⟩

end EntityGraph
