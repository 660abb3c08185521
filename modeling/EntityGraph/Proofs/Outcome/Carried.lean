import Mathlib
import EntityGraph.Proofs.Outcome

/-!
# Outcomes carried over

The same steps may be taken twice, over values which are only written differently, or over two
stores of which one has more to answer. Then what the first run comes to carries over to the second
one (`Carried`): a value to a value in which the same is read, and a failure to the same failure, as
far as failures are carried over at all. A store which grows may well answer what it failed to
answer before. Whatever runs are put together with carries over as well.
-/

namespace EntityGraph

/-- A value of the first outcome is one of the second outcome which reads the same. A failure of
    the first one is the same failure of the second one, or else `failures` do not carry over. -/
inductive Carried {σ α β : Type} (failures : Prop) (read : α → β) :
    Except σ α → Except σ α → Prop
  | ok {a a' : α} (h : read a = read a') : Carried failures read (.ok a) (.ok a')
  | error (e : σ) : Carried failures read (.error e) (.error e)
  | lost (e : σ) (outcome : Except σ α) (h : ¬ failures) :
      Carried failures read (.error e) outcome

namespace Carried

variable {ε σ τ α β γ δ : Type} {failures : Prop} {read : α → β} {read' : γ → δ}
  {x x' : Except σ α}

/-! ### From equations and back -/

theorem refl (x : Except σ α) : Carried failures read x x := by
  cases x with
  | error e => exact .error e
  | ok a => exact .ok rfl

theorem exists_eq_ok {a : α} (h : Carried failures read x x') (ha : x = .ok a) :
    ∃ a', x' = .ok a' ∧ read a = read a' := by
  cases h with
  | ok h =>
    obtain rfl := Except.ok.inj ha
    exact ⟨_, rfl, h⟩
  | error => cases ha
  | lost => cases ha

/-- If failures carry over, the outcomes are the same up to what is read. -/
theorem map_eq (h : Carried True read x x') : x.map read = x'.map read := by
  cases h with
  | ok h => exact congrArg Except.ok h
  | error => rfl
  | lost _ _ h => exact absurd trivial h

/-- If they do not, only values have to be looked at. -/
theorem of_eq_ok (h : ∀ a, x = .ok a → ∃ a', x' = .ok a' ∧ read a = read a') :
    Carried False read x x' := by
  cases x with
  | error e => exact .lost e x' not_false
  | ok a =>
    obtain ⟨a', rfl, ha⟩ := h a rfl
    exact .ok ha

/-! ### Steps -/

theorem bind {f f' : α → Except σ γ} (h : Carried failures read x x')
    (hf : ∀ a a', read a = read a' → Carried failures read' (f a) (f' a')) :
    Carried failures read' (x >>= f) (x' >>= f') := by
  cases h with
  | ok h => exact hf _ _ h
  | error e => exact .error e
  | lost e _ h => exact .lost e _ h

theorem map {f f' : α → γ} (h : Carried failures read x x')
    (hf : ∀ a a', read a = read a' → read' (f a) = read' (f' a')) :
    Carried failures read' (x.map f) (x'.map f') := by
  cases h with
  | ok h => exact .ok (hf _ _ h)
  | error e => exact .error e
  | lost e _ h => exact .lost e _ h

theorem mapError (h : Carried failures read x x') (f : σ → τ) :
    Carried failures read (x.mapError f) (x'.mapError f) := by
  cases h with
  | ok h => exact .ok h
  | error e => exact .error (f e)
  | lost e _ h => exact .lost (f e) _ h

/-- The first failure in order carries over, if failures do. -/
theorem mapM_id {results results' : List (Except σ α)}
    (h : List.Forall₂ (Carried failures read) results results') :
    Carried failures (List.map read) (results.mapM id) (results'.mapM id) := by
  induction h with
  | nil => exact .ok rfl
  | cons hfirst _ ih =>
    rw [List.mapM_cons, List.mapM_cons]
    refine hfirst.bind fun a a' ha => ih.bind fun rest rest' hrest => .ok ?_
    rw [List.map_cons, List.map_cons, ha, hrest]

theorem joinAll {items items' : List (EventualResult ε σ α)}
    (h : List.Forall₂ (fun e e' => Carried failures read e.wait e'.wait) items items') :
    Carried failures (List.map read) (EventualResult.joinAll items).wait
      (EventualResult.joinAll items').wait :=
  mapM_id (List.forall₂_map_left_iff.2 (List.forall₂_map_right_iff.2 h))

end Carried

end EntityGraph
