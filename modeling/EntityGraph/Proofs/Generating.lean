import Mathlib
import EntityGraph.QueryByKey

/-!
# How a step of building ends

A step which generates types is run from what was generated before it. `Generating.Ends` tells how
it ends if all input types generated so far name their fields once: with a result of one kind or
with a failure of another, and again with such input types only. There is one rule for every way
of putting steps together, so the ends of building are put together from those of its steps.
-/

namespace EntityGraph

/-- The failure is an error building tells about, and no type given two things of one name. -/
def BuildFailure.IsError (failure : BuildFailure) : Prop := ∃ e, failure = .error e

theorem BuildFailure.isError_error (e : BuildError) : (error e).IsError := ⟨e, rfl⟩

/-- No generated input type has two fields of one name. -/
def Generation.NamesOnce (g : Generation) : Prop :=
  ∀ input ∈ g.generated, (input.fields.map (·.name)).Nodup

theorem Generation.namesOnce_empty : Generation.empty.NamesOnce := fun _ h => nomatch h

namespace Generating

variable {α β : Type} {P : α → Prop} {R : β → Prop} {Q : BuildFailure → Prop}

/-- From wherever the step starts, its result satisfies `returns` and its failure `fails`. -/
structure Ends (x : Generating α) (returns : α → Prop) (fails : BuildFailure → Prop) : Prop where
  ok : ∀ {g : Generation} {a : α}, g.NamesOnce → (x.run g).1 = .ok a → returns a
  error : ∀ {g : Generation} {failure : BuildFailure}, g.NamesOnce →
    (x.run g).1 = .error failure → fails failure
  keeps : ∀ {g : Generation}, g.NamesOnce → (x.run g).2.NamesOnce

theorem Ends.imp {x : Generating α} {P' : α → Prop} {Q' : BuildFailure → Prop} (h : Ends x P Q)
    (hok : ∀ a, P a → P' a) (herror : ∀ failure, Q failure → Q' failure) : Ends x P' Q' where
  ok hg hx := hok _ (h.ok hg hx)
  error hg hx := herror _ (h.error hg hx)
  keeps := h.keeps

theorem Ends.imp_fails {x : Generating α} {Q' : BuildFailure → Prop} (h : Ends x P Q)
    (herror : ∀ failure, Q failure → Q' failure) : Ends x P Q' :=
  h.imp (fun _ ha => ha) herror

theorem Ends.imp_returns {x : Generating α} {P' : α → Prop} (h : Ends x P Q)
    (hok : ∀ a, P a → P' a) : Ends x P' Q :=
  h.imp hok fun _ hfailure => hfailure

theorem Ends.and {x : Generating α} {P' : α → Prop} {Q' : BuildFailure → Prop} (h : Ends x P Q)
    (h' : Ends x P' Q') : Ends x (fun a => P a ∧ P' a) Q where
  ok hg hx := ⟨h.ok hg hx, h'.ok hg hx⟩
  error := h.error
  keeps := h.keeps

/-! ### Single steps -/

/-- A step without generated types ends as it does. -/
theorem ends_mk {e : Except BuildFailure α} (hok : ∀ a, e = .ok a → P a)
    (herror : ∀ failure, e = .error failure → Q failure) :
    Ends (ExceptT.mk (pure e) : Generating α) P Q where
  ok _ := hok _
  error _ := herror _
  keeps hg := hg

theorem ends_pure {a : α} (h : P a) : Ends (pure a : Generating α) P Q :=
  ends_mk (fun _ ha => Except.ok.inj ha ▸ h) fun _ ha => nomatch ha

theorem ends_throw {failure : BuildFailure} (h : Q failure) :
    Ends (throw failure : Generating α) P Q :=
  ends_mk (fun _ ha => nomatch ha) fun _ ha => Except.error.inj ha ▸ h

theorem ends_fail {e : BuildError} (h : Q (.error e)) : Ends (fail e : Generating α) P Q :=
  ends_throw h

theorem ends_lift {e : Except BuildError α} (hok : ∀ a, e = .ok a → P a)
    (herror : ∀ fault, e = .error fault → Q (.error fault)) : Ends (lift e) P Q := by
  cases e with
  | ok a => exact ends_pure (hok a rfl)
  | error fault => exact ends_fail (herror fault rfl)

theorem ends_get : Ends (get : Generating Generation) Generation.NamesOnce Q where
  ok hg ha := Except.ok.inj ha ▸ hg
  error _ ha := nomatch ha
  keeps hg := hg

theorem ends_log (source : LogSource) (level : LogLevel) (message : String) :
    Ends (log source level message) (fun _ => True) Q where
  ok _ _ := trivial
  error _ ha := nomatch ha
  keeps hg := hg

theorem ends_nextSuffix (suffixes : Suffixes) : Ends (nextSuffix suffixes) (fun _ => True) Q where
  ok _ _ := trivial
  error _ ha := nomatch ha
  keeps hg := hg

theorem ends_push {input : GeneratedInput} (h : (input.fields.map (·.name)).Nodup) :
    Ends (push input) (fun _ => True) Q where
  ok _ _ := trivial
  error _ ha := nomatch ha
  keeps hg other hother := by
    rcases List.mem_append.1 hother with hother | hother
    · exact hg other hother
    · rwa [List.mem_singleton.1 hother]

/-! ### Steps behind each other -/

theorem run_bind (x : Generating α) (f : α → Generating β) (g : Generation) :
    ((x >>= f).run g : Except BuildFailure β × Generation) =
      match (x.run g : Except BuildFailure α × Generation) with
      | (.ok a, g) => (f a).run g
      | (.error failure, g) => (.error failure, g) := by
  change (ExceptT.bindCont f (x g).1 (x g).2 : Except BuildFailure β × Generation) =
    match (x g : Except BuildFailure α × Generation) with
    | (.ok a, g) => (f a).run g
    | (.error failure, g) => (.error failure, g)
  rcases x g with ⟨_ | _, _⟩ <;> rfl

theorem lift_bind (e : Except BuildError α) (f : α → Except BuildError β) :
    lift (e >>= f) = lift e >>= fun a => lift (f a) := by
  cases e <;> rfl

theorem Ends.bind {x : Generating α} {f : α → Generating β} (hx : Ends x P Q)
    (hf : ∀ a, P a → Ends (f a) R Q) : Ends (x >>= f) R Q := by
  have hrun (g : Generation) (hg : g.NamesOnce) :
      (∃ failure, Q failure ∧ ((x >>= f).run g).1 = .error failure ∧
        ((x >>= f).run g).2.NamesOnce) ∨
      ∃ a g', P a ∧ g'.NamesOnce ∧ (x >>= f).run g = (f a).run g' := by
    have hkeeps := hx.keeps hg
    rw [run_bind]
    rcases h : x.run g with ⟨failure | a, g'⟩ <;> rw [h] at hkeeps
    · exact .inl ⟨failure, hx.error hg (congrArg Prod.fst h), rfl, hkeeps⟩
    · exact .inr ⟨a, g', hx.ok hg (congrArg Prod.fst h), hkeeps, rfl⟩
  constructor
  · intro g b hg hb
    rcases hrun g hg with ⟨_, _, hfailure, _⟩ | ⟨a, g', ha, hg', heq⟩
    · cases hfailure.symm.trans hb
    · exact (hf a ha).ok hg' (heq ▸ hb)
  · intro g failure hg hb
    rcases hrun g hg with ⟨_, hfails, hfailure, _⟩ | ⟨a, g', ha, hg', heq⟩
    · exact Except.error.inj (hfailure.symm.trans hb) ▸ hfails
    · exact (hf a ha).error hg' (heq ▸ hb)
  · intro g hg
    rcases hrun g hg with ⟨_, _, _, hkeeps⟩ | ⟨a, g', ha, hg', heq⟩
    · exact hkeeps
    · exact heq ▸ (hf a ha).keeps hg'

/-- Nothing comes behind a failure. -/
theorem ends_throw_bind {failure : BuildFailure} {f : α → Generating β} (h : Q failure) :
    Ends (throw failure >>= f) R Q :=
  (ends_throw (P := fun _ => False) h).bind fun _ hfalse => hfalse.elim

theorem ends_fail_bind {e : BuildError} {f : α → Generating β} (h : Q (.error e)) :
    Ends (fail e >>= f) R Q :=
  ends_throw_bind h

/-- Steps behind each other, one for every item; the items stem from some sources. -/
theorem ends_mapM {γ : Type} {f : α → Generating β} {S : γ → α → Prop} {T : γ → β → Prop}
    {sources : List γ} {items : List α} (hitems : List.Forall₂ S sources items)
    (h : ∀ source ∈ sources, ∀ item, S source item → Ends (f item) (T source) Q) :
    Ends (items.mapM f) (List.Forall₂ T sources) Q := by
  induction hitems with
  | nil => exact ends_pure .nil
  | @cons source item sources items hitem _ ih =>
    rw [List.mapM_cons]
    refine (h source List.mem_cons_self item hitem).bind fun b hb => ?_
    refine (ih fun source hsource => h source (List.mem_cons_of_mem _ hsource)).bind
      fun bs hbs => ?_
    exact ends_pure (.cons hb hbs)

end Generating

end EntityGraph
