import Mathlib
import EntityGraph.Proofs.Generating
import EntityGraph.Proofs.Outcome

/-!
# Steps which follow an outline

What a step of building gives depends on what was generated before it by the suffixes it draws, and
by nothing else. So what it gives can be outlined without running it: `Generating.Follows` says that
from wherever the step starts it gives a value which its outline describes, with the input types it
generates behind those which were there, and that it fails if it has no outline.

The outline of steps behind each other is put together in `Option` as the steps are in
`Generating` (`Generating.Follows.bind`, `Generating.follows_mapM`).
-/

namespace EntityGraph

/-- The values are described one by one, each with the input types generated for it. -/
inductive Collected {α β : Type} (P : β → α → List GeneratedInput → Prop) :
    List β → List α → List GeneratedInput → Prop
  | nil : Collected P [] [] []
  | cons {b : β} {bs : List β} {a : α} {as : List α} {inputs more : List GeneratedInput} :
      P b a inputs → Collected P bs as more → Collected P (b :: bs) (a :: as) (inputs ++ more)

namespace Generating

variable {α β γ δ : Type} {P : β → α → List GeneratedInput → Prop}
  {Q : δ → γ → List GeneratedInput → Prop}

/-- From wherever the step starts it gives a value described by its outline, with the input types
    it generates; without an outline it fails. -/
def Follows (x : Generating α) : Option β → (β → α → List GeneratedInput → Prop) → Prop
  | some b, P => ∀ g, ∃ a inputs g', (x.run g : Except BuildFailure α × Generation) = (.ok a, g') ∧
      g'.generated = g.generated ++ inputs ∧ P b a inputs
  | none, _ => ∀ g, ∃ failure g',
      (x.run g : Except BuildFailure α × Generation) = (.error failure, g')

/-- The outline is the value itself, for which nothing is generated. -/
def Plain (b a : α) (inputs : List GeneratedInput) : Prop := a = b ∧ inputs = []

/-- A step follows whatever can be told from its outline. -/
theorem Follows.map {x : Generating α} {o : Option β} (h : Follows x o P) (f : β → δ)
    {R : δ → α → List GeneratedInput → Prop} (hR : ∀ b a inputs, P b a inputs → R (f b) a inputs) :
    Follows x (o.map f) R := by
  cases o with
  | none => exact h
  | some b =>
    intro g
    obtain ⟨a, inputs, g', hrun, hgenerated, ha⟩ := h g
    exact ⟨a, inputs, g', hrun, hgenerated, hR b a inputs ha⟩

/-- A step which gets through has an outline, which describes what it gives. -/
theorem Follows.exists_of_run {x : Generating α} {o : Option β} (h : Follows x o P)
    {g g' : Generation} {a : α}
    (hrun : (x.run g : Except BuildFailure α × Generation) = (.ok a, g')) :
    ∃ b inputs, o = some b ∧ g'.generated = g.generated ++ inputs ∧ P b a inputs := by
  cases o with
  | none =>
    obtain ⟨failure, g'', hfails⟩ := h g
    cases hfails.symm.trans hrun
  | some b =>
    obtain ⟨a', inputs, g'', hgives, hgenerated, ha⟩ := h g
    cases hgives.symm.trans hrun
    exact ⟨b, inputs, rfl, hgenerated, ha⟩

/-! ### Single steps -/

theorem follows_pure {a : α} {b : β} (h : P b a []) : Follows (pure a) (some b) P :=
  fun g => ⟨a, [], g, rfl, (List.append_nil _).symm, h⟩

theorem follows_throw (failure : BuildFailure) : Follows (throw failure) none P :=
  fun g => ⟨failure, g, rfl⟩

theorem follows_fail (e : BuildError) : Follows (fail e) none P := follows_throw (.error e)

/-- A step without generated types is its own outline. -/
theorem follows_mk (e : Except BuildFailure α) :
    Follows (ExceptT.mk (pure e)) e.toOption Plain := by
  cases e with
  | ok a => exact follows_pure ⟨rfl, rfl⟩
  | error failure => exact follows_throw failure

theorem follows_lift (e : Except BuildError α) : Follows (lift e) e.toOption Plain := by
  cases e with
  | ok a => exact follows_pure ⟨rfl, rfl⟩
  | error fault => exact follows_fail fault

theorem follows_log (source : LogSource) (level : LogLevel) (message : String) :
    Follows (log source level message) (some ()) Plain :=
  fun _ => ⟨(), [], _, rfl, (List.append_nil _).symm, rfl, rfl⟩

/-- Whatever suffix is drawn, the outline does not tell. -/
theorem follows_nextSuffix (suffixes : Suffixes) :
    Follows (nextSuffix suffixes) (some ()) fun _ _ inputs => inputs = [] :=
  fun _ => ⟨_, [], _, rfl, (List.append_nil _).symm, rfl⟩

theorem follows_push (input : GeneratedInput) :
    Follows (push input) (some ()) fun _ _ inputs => inputs = [input] :=
  fun _ => ⟨(), [input], _, rfl, rfl, rfl⟩

/-! ### Steps behind each other -/

/-- Behind a step without outline nothing is reached. -/
theorem Follows.bind_none {x : Generating α} {f : α → Generating γ} (hx : Follows x none P) :
    Follows (x >>= f) none Q := by
  intro g
  obtain ⟨failure, g', hrun⟩ := hx g
  exact ⟨failure, g', by rw [run_bind, hrun]⟩

/-- Behind a step whose outline is known. -/
theorem Follows.bind_some {x : Generating α} {f : α → Generating γ} {b : β} {o : Option δ}
    (hx : Follows x (some b) P)
    (hf : ∀ a inputs, P b a inputs → Follows (f a) o fun d c more => Q d c (inputs ++ more)) :
    Follows (x >>= f) o Q := by
  cases o with
  | none =>
    intro g
    obtain ⟨a, inputs, g', hrun, -, ha⟩ := hx g
    obtain ⟨failure, g'', hrun'⟩ := hf a inputs ha g'
    exact ⟨failure, g'', by rw [run_bind, hrun]; exact hrun'⟩
  | some d =>
    intro g
    obtain ⟨a, inputs, g', hrun, hgenerated, ha⟩ := hx g
    obtain ⟨c, more, g'', hrun', hgenerated', hc⟩ := hf a inputs ha g'
    refine ⟨c, inputs ++ more, g'', by rw [run_bind, hrun]; exact hrun', ?_, hc⟩
    rw [hgenerated', hgenerated, List.append_assoc]

theorem Follows.bind {x : Generating α} {f : α → Generating γ} {o : Option β} {o' : β → Option δ}
    (hx : Follows x o P)
    (hf : ∀ b a inputs, P b a inputs →
      Follows (f a) (o' b) fun d c more => Q d c (inputs ++ more)) :
    Follows (x >>= f) (o.bind o') Q := by
  cases o with
  | none => exact hx.bind_none
  | some b => exact hx.bind_some (hf b)

theorem follows_throw_bind (failure : BuildFailure) {f : α → Generating γ} :
    Follows (throw failure >>= f) none Q :=
  (follows_throw (P := fun (_ : Unit) _ _ => False) failure).bind_none

theorem follows_fail_bind (e : BuildError) {f : α → Generating γ} :
    Follows (fail e >>= f) none Q :=
  follows_throw_bind (.error e)

/-- Behind a step which gives its outline and generates nothing. -/
theorem Follows.bind_plain {x : Generating α} {f : α → Generating γ} {o : Option α}
    {o' : α → Option δ} (hx : Follows x o Plain) (hf : ∀ a, Follows (f a) (o' a) Q) :
    Follows (x >>= f) (o.bind o') Q := by
  refine hx.bind ?_
  rintro b a inputs ⟨rfl, rfl⟩
  exact hf a

theorem follows_mapM {f : δ → Generating α} {o : δ → Option β} (items : List δ)
    (h : ∀ item, Follows (f item) (o item) P) :
    Follows (items.mapM f) (items.mapM o) (Collected P) := by
  induction items with
  | nil => exact follows_pure .nil
  | cons item rest ih =>
    rw [List.mapM_cons, List.mapM_cons]
    refine (h item).bind fun b a inputs ha => ?_
    refine ih.bind fun bs as more has => ?_
    refine follows_pure ?_
    rw [List.append_nil]
    exact .cons ha has

end Generating

theorem mapM_eq_some_iff {α β : Type} {f : α → Option β} {items : List α} {results : List β} :
    items.mapM f = some results ↔ List.Forall₂ (fun item result => f item = some result) items
      results := by
  induction items generalizing results with
  | nil => cases results <;> simp
  | cons item rest ih =>
    rw [List.mapM_cons]
    cases hitem : f item with
    | none => cases results <;> simp [hitem]
    | some b => cases results <;> simp [hitem, ih, Option.bind_eq_some_iff, and_comm]

/-- What is made of items in another order is the same in another order. -/
theorem ofList_mapM_perm {α β : Type} {f : α → Option β} {items items' : List α}
    (h : items.Perm items') :
    (items.mapM f).map Multiset.ofList = (items'.mapM f).map Multiset.ofList := by
  have hcons (a : α) (rest : List α) : ((a :: rest).mapM f).map Multiset.ofList =
      (f a).bind fun b => ((rest.mapM f).map Multiset.ofList).map (b ::ₘ ·) := by
    rw [List.mapM_cons]
    cases f a <;> cases rest.mapM f <;> rfl
  induction h with
  | nil => rfl
  | cons a _ ih => rw [hcons, hcons, ih]
  | swap a b rest =>
    -- Whichever of the two is missing, in both orders nothing is made.
    simp only [hcons]
    cases f a <;> cases f b <;> cases rest.mapM f <;> simp [List.Perm.swap]
  | trans _ _ ih ih' => exact ih.trans ih'

namespace Collected

variable {α β γ : Type} {P : β → α → List GeneratedInput → Prop}

/-- What is read off the values can be read off their outlines. -/
theorem map_eq {bs : List β} {as : List α} {inputs : List GeneratedInput}
    (h : Collected P bs as inputs) (read : α → γ) (read' : β → γ)
    (hread : ∀ b a inputs, P b a inputs → read a = read' b) : as.map read = bs.map read' := by
  induction h with
  | nil => rfl
  | cons ha _ ih => rw [List.map_cons, List.map_cons, hread _ _ _ ha, ih]

end Collected

end EntityGraph
