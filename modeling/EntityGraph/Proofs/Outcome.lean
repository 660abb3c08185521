import Mathlib
import EntityGraph.Eventual

/-!
# Outcomes

What becomes of steps which may fail, one behind the other, and of eventual results once they are
waited for. `EventualResult.wait_andThen` and `EventualResult.wait_joinAll` tell the outcome of
waiting by the outcomes of the parts, whether these are ready or not.
-/

namespace EntityGraph

/-! ### Lists item by item -/

section

variable {α β γ : Type} {R : α → β → Prop} {as : List α} {bs : List β}

/-- Every item of a list is related to one of a list which is related item by item. -/
theorem exists_of_mem_forall₂ (h : List.Forall₂ R as bs) {a : α} (ha : a ∈ as) :
    ∃ b ∈ bs, R a b := by
  induction h with
  | nil => cases ha
  | cons hab _ ih =>
    rcases List.mem_cons.1 ha with rfl | ha
    · exact ⟨_, List.mem_cons_self, hab⟩
    · obtain ⟨b, hb, hr⟩ := ih ha
      exact ⟨b, List.mem_cons_of_mem _ hb, hr⟩

theorem exists_getLast?_of_forall₂ (h : List.Forall₂ R as bs) {b : β} (hb : bs.getLast? = some b) :
    ∃ a, as.getLast? = some a ∧ R a b := by
  have hreverse := List.rel_reverse h
  rw [List.getLast?_eq_head?_reverse] at hb ⊢
  generalize as.reverse = as', bs.reverse = bs' at hreverse hb
  cases hreverse with
  | nil => cases hb
  | cons hab _ =>
    obtain rfl := Option.some.inj hb
    exact ⟨_, rfl, hab⟩

theorem flatMap_eq_of_forall₂ (h : List.Forall₂ R as bs) {f : β → List γ} {g : α → List γ}
    (hfg : ∀ a b, R a b → f b = g a) : bs.flatMap f = as.flatMap g := by
  induction h with
  | nil => rfl
  | cons hab _ ih => rw [List.flatMap_cons, List.flatMap_cons, hfg _ _ hab, ih]

theorem map_eq_of_forall₂ (h : List.Forall₂ R as bs) {f : β → γ} {g : α → γ}
    (hfg : ∀ a b, R a b → f b = g a) : bs.map f = as.map g := by
  rw [List.map_eq_flatMap, List.map_eq_flatMap]
  exact flatMap_eq_of_forall₂ h fun a b hab => by rw [hfg a b hab]

end

namespace Outcome

variable {σ τ α β : Type}

theorem bind_eq_ok {x : Except σ α} {f : α → Except σ β} {b : β} :
    (x >>= f) = .ok b ↔ ∃ a, x = .ok a ∧ f a = .ok b := by
  cases x with
  | error e => exact iff_of_false (fun h => nomatch h) (by simp)
  | ok a => simp [bind, Except.bind]

theorem bind_eq_error {x : Except σ α} {f : α → Except σ β} {e : σ} :
    (x >>= f) = .error e ↔ x = .error e ∨ ∃ a, x = .ok a ∧ f a = .error e := by
  cases x <;> simp [bind, Except.bind]

theorem map_eq_ok {x : Except σ α} {f : α → β} {b : β} :
    x.map f = .ok b ↔ ∃ a, x = .ok a ∧ f a = b := by
  cases x with
  | error e => exact iff_of_false (fun h => nomatch h) (by simp)
  | ok a => simp [Except.map]

theorem map_eq_error {x : Except σ α} {f : α → β} {e : σ} :
    x.map f = .error e ↔ x = .error e := by
  cases x <;> simp [Except.map]

theorem mapError_eq_ok {x : Except σ α} {f : σ → τ} {a : α} :
    x.mapError f = .ok a ↔ x = .ok a := by
  cases x <;> simp [Except.mapError]

theorem mapError_eq_error {x : Except σ α} {f : σ → τ} {e : τ} :
    x.mapError f = .error e ↔ ∃ failure, x = .error failure ∧ f failure = e := by
  cases x <;> simp [Except.mapError]

theorem toOption_eq_some {x : Except σ α} {a : α} : x.toOption = some a ↔ x = .ok a := by
  cases x <;> simp [Except.toOption]

theorem isSome_toOption {x : Except σ α} : x.toOption.isSome = true ↔ ∃ a, x = .ok a := by
  cases x <;> simp [Except.toOption]

theorem toOption_bind (x : Except σ α) (f : α → Except σ β) :
    (x >>= f).toOption = x.toOption.bind fun a => (f a).toOption := by
  cases x <;> rfl

/-- All results are there if none is a failure. -/
theorem mapM_id_eq_ok {results : List (Except σ α)} {values : List α} :
    results.mapM id = .ok values ↔ results = values.map .ok := by
  induction results generalizing values with
  | nil => cases values <;> simp [pure, Except.pure]
  | cons r rest ih =>
    rw [List.mapM_cons, bind_eq_ok]
    constructor
    · rintro ⟨a, ha, h⟩
      obtain ⟨as, has, h⟩ := bind_eq_ok.1 h
      obtain rfl := Except.ok.inj h
      rw [List.map_cons, ← ih.1 has, ← ha, id]
    · intro h
      cases values with
      | nil => cases h
      | cons a as =>
        obtain ⟨hr, hrest⟩ := List.cons.inj h
        exact ⟨a, hr, bind_eq_ok.2 ⟨as, ih.2 hrest, rfl⟩⟩

/-- A failure is the first one in order: everything in front of it is there. -/
theorem mapM_id_eq_error {results : List (Except σ α)} {e : σ} :
    results.mapM id = .error e ↔
      ∃ (values : List α) (behind : List (Except σ α)),
        results = values.map .ok ++ .error e :: behind := by
  induction results with
  | nil => simp [pure, Except.pure]
  | cons r rest ih =>
    rw [List.mapM_cons]
    cases r with
    | error e' =>
      rw [show ((id (.error e') : Except σ α) >>= fun a => rest.mapM id >>= fun as =>
        pure (a :: as)) = .error e' from rfl, Except.error.injEq]
      constructor
      · rintro rfl
        exact ⟨[], rest, rfl⟩
      · rintro ⟨values, behind, h⟩
        cases values with
        | nil => exact Except.error.inj (List.cons.inj h).1
        | cons => cases h
    | ok a =>
      rw [show ((id (.ok a) : Except σ α) >>= fun a => rest.mapM id >>= fun as =>
        pure (a :: as)) = (rest.mapM id).map (a :: ·) from rfl, map_eq_error, ih]
      constructor
      · rintro ⟨values, behind, rfl⟩
        exact ⟨a :: values, behind, rfl⟩
      · rintro ⟨values, behind, h⟩
        cases values with
        | nil => cases h
        | cons v values => exact ⟨values, behind, (List.cons.inj h).2⟩

/-- The results stand for the items, one for each. -/
theorem forall₂_of_mapM {f : α → Except σ β} {items : List α} {results : List β}
    (h : items.mapM f = .ok results) : List.Forall₂ (fun a b => f a = .ok b) items results := by
  induction items generalizing results with
  | nil =>
    obtain rfl := Except.ok.inj h
    exact .nil
  | cons item rest ih =>
    rw [List.mapM_cons] at h
    obtain ⟨b, hb, h⟩ := bind_eq_ok.1 h
    obtain ⟨bs, hbs, h⟩ := bind_eq_ok.1 h
    obtain rfl := Except.ok.inj h
    exact .cons hb (ih hbs)

/-- Results are there if there is one for each of the items. -/
theorem exists_mapM_eq_ok {f : α → Except σ β} {items : List α}
    (h : ∀ a ∈ items, ∃ b, f a = .ok b) : ∃ results, items.mapM f = .ok results := by
  induction items with
  | nil => exact ⟨[], rfl⟩
  | cons item rest ih =>
    obtain ⟨⟨b, hb⟩, hrest⟩ := List.forall_mem_cons.1 h
    obtain ⟨bs, hbs⟩ := ih hrest
    exact ⟨b :: bs, by rw [List.mapM_cons, hb, hbs]; rfl⟩

/-- A failure is that of the first item in order which fails. -/
theorem mapM_eq_error {f : α → Except σ β} {items : List α} {e : σ} :
    items.mapM f = .error e ↔ ∃ before a behind, items = before ++ a :: behind ∧
      (∀ item ∈ before, ∃ b, f item = .ok b) ∧ f a = .error e := by
  constructor
  · intro h
    induction items with
    | nil => cases h
    | cons item rest ih =>
      rw [List.mapM_cons] at h
      rcases bind_eq_error.1 h with hitem | ⟨b, hb, h⟩
      · exact ⟨[], item, rest, rfl, fun _ h => (nomatch h), hitem⟩
      · rcases bind_eq_error.1 h with hrest | ⟨bs, -, h⟩
        · obtain ⟨before, a, behind, rfl, hbefore, ha⟩ := ih hrest
          exact ⟨item :: before, a, behind, rfl, List.forall_mem_cons.2 ⟨⟨b, hb⟩, hbefore⟩, ha⟩
        · cases h
  · rintro ⟨before, a, behind, rfl, hbefore, ha⟩
    induction before with
    | nil => rw [List.nil_append, List.mapM_cons, ha]; rfl
    | cons item rest ih =>
      obtain ⟨⟨b, hb⟩, hrest⟩ := List.forall_mem_cons.1 hbefore
      rw [List.cons_append, List.mapM_cons, hb, ih hrest]
      rfl

/-- What is read off the results is what was read off the items. -/
theorem map_eq_of_mapM_eq_ok {γ : Type} {f : α → Except σ β} (read : β → γ) (read' : α → γ)
    (hf : ∀ {a b}, f a = .ok b → read b = read' a) {items : List α} {results : List β}
    (h : items.mapM f = .ok results) : results.map read = items.map read' :=
  map_eq_of_forall₂ (forall₂_of_mapM h) fun _ _ => hf

/-- Every result stems from one of the items. -/
theorem exists_of_mem_mapM {f : α → Except σ β} {items : List α} {results : List β}
    (h : items.mapM f = .ok results) {b : β} (hb : b ∈ results) : ∃ a ∈ items, f a = .ok b :=
  exists_of_mem_forall₂ (forall₂_of_mapM h).flip hb

end Outcome

namespace EventualResult

variable {ε σ α β : Type}

theorem wait_andThen (e : EventualResult ε σ α) (f : α → EventualResult ε σ β) :
    (andThen e f).wait = e.wait >>= fun a => (f a).wait := by
  rw [andThen, Eventual.andThen]
  cases e.wait <;> cases e.isReady <;> rfl

theorem wait_joinAll (items : List (EventualResult ε σ α)) {values : List α} :
    (joinAll items).wait = .ok values ↔ items.map (·.wait) = values.map .ok :=
  Outcome.mapM_id_eq_ok

theorem wait_joinAll_eq_error (items : List (EventualResult ε σ α)) {e : σ} :
    (joinAll items).wait = .error e ↔ ∃ (values : List α) (behind : List (Except σ α)),
      items.map (·.wait) = values.map .ok ++ .error e :: behind :=
  Outcome.mapM_id_eq_error

end EventualResult

end EntityGraph
