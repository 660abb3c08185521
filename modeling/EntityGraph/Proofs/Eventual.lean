import Mathlib
import EntityGraph.Eventual

/-!
# What happens on the way to a value

A continued value has the events of both parts one behind the other (`Eventual.events_andThen`), and
is ready if both parts are. Values which are waited for together have the events of all of them, those
of each value in their own order (`Eventual.interleaved_events_joinAll`).
-/

namespace EntityGraph

open scoped List

/-- The third list holds what is in the other two, each of them in its order. -/
inductive Interleaved {ε : Type} : List ε → List ε → List ε → Prop
  | nil : Interleaved [] [] []
  | left {e : ε} {as bs cs : List ε} : Interleaved as bs cs → Interleaved (e :: as) bs (e :: cs)
  | right {e : ε} {as bs cs : List ε} : Interleaved as bs cs → Interleaved as (e :: bs) (e :: cs)

section

variable {ε : Type} {as bs cs as' bs' cs' : List ε}

theorem Interleaved.perm (h : Interleaved as bs cs) : cs ~ as ++ bs := by
  induction h with
  | nil => rfl
  | left _ ih => exact ih.cons _
  | right _ ih => exact (ih.cons _).trans List.perm_middle.symm

theorem Interleaved.append (h : Interleaved as bs cs) (h' : Interleaved as' bs' cs') :
    Interleaved (as ++ as') (bs ++ bs') (cs ++ cs') := by
  induction h with
  | nil => exact h'
  | left _ ih => exact .left ih
  | right _ ih => exact .right ih

/-- One behind the other is one way to interleave. -/
theorem interleaved_append (as bs : List ε) : Interleaved as bs (as ++ bs) := by
  induction as with
  | nil =>
    induction bs with
    | nil => exact .nil
    | cons b bs ih => exact .right ih
  | cons a as ih => exact .left ih

end

namespace Rounds

variable {ε : Type}

@[simp]
theorem merge_eq_nil {as bs : List (List ε)} : merge as bs = [] ↔ as = [] ∧ bs = [] := by
  cases as <;> cases bs <;> simp [merge]

@[simp]
theorem append_eq_nil {as bs : List (List ε)} : append as bs = [] ↔ as = [] ∧ bs = [] := by
  match as, bs with
  | [], bs => simp [append]
  | [_], [] | _ :: _ :: _, [] => simp [append]
  | [_], _ :: _ | _ :: _ :: _, _ :: _ => simp [append]

theorem flatten_append (as bs : List (List ε)) :
    (append as bs).flatten = as.flatten ++ bs.flatten := by
  fun_induction append as bs with
  | case1 => simp
  | case2 => simp
  | case3 => simp
  | case4 _ _ _ _ _ ih => simp [ih]

theorem interleaved_flatten_merge (as bs : List (List ε)) :
    Interleaved as.flatten bs.flatten (merge as bs).flatten := by
  fun_induction merge as bs with
  | case1 bs => exact interleaved_append [] bs.flatten
  | case2 as =>
    have h := interleaved_append as.flatten []
    rwa [List.append_nil] at h
  | case3 a as b bs ih => exact (interleaved_append a b).append ih

end Rounds

namespace Eventual

variable {ε δ α β : Type}

theorem isReady_iff {e : Eventual ε α} : e.isReady = true ↔ e.rounds = [] := List.isEmpty_iff

@[simp]
theorem wait_andThen (e : Eventual ε α) (f : α → Eventual ε β) :
    (e.andThen f).wait = (f e.wait).wait := by
  rw [andThen]
  split_ifs <;> rfl

@[simp]
theorem allRounds_ne_nil (e : Eventual ε α) : e.allRounds ≠ [] := by
  rw [allRounds]
  split <;> simp

theorem flatten_allRounds (e : Eventual ε α) : e.allRounds.flatten = e.events := by
  rw [allRounds, events, awaited]
  split
  · next h => simp [h]
  · next h => simp [h]

@[simp]
theorem isReady_andThen (e : Eventual ε α) (f : α → Eventual ε β) :
    (e.andThen f).isReady = (e.isReady && (f e.wait).isReady) := by
  rw [andThen]
  cases h : e.isReady with
  | true => rfl
  | false =>
    rw [if_neg Bool.false_ne_true, Bool.false_and, isReady, List.isEmpty_eq_false_iff]
    simp

/-- The continuation happens behind everything else. -/
@[simp]
theorem events_andThen (e : Eventual ε α) (f : α → Eventual ε β) :
    (e.andThen f).events = e.events ++ (f e.wait).events := by
  rw [andThen]
  cases h : e.isReady with
  | true =>
    rw [if_pos rfl]
    simp [events, awaited, isReady_iff.1 h]
  | false =>
    rw [if_neg Bool.false_ne_true, events, awaited, Rounds.flatten_append, flatten_allRounds,
      ← List.append_assoc]
    rfl

@[simp]
theorem wait_map (f : α → β) (e : Eventual ε α) : (e.map f).wait = f e.wait := rfl

@[simp]
theorem isReady_map (f : α → β) (e : Eventual ε α) : (e.map f).isReady = e.isReady := rfl

@[simp]
theorem events_map (f : α → β) (e : Eventual ε α) : (e.map f).events = e.events := rfl

@[simp]
theorem isReady_filterMapEvents (f : ε → Option δ) (e : Eventual ε α) :
    (e.filterMapEvents f).isReady = e.isReady := by
  rw [isReady, isReady, filterMapEvents, List.isEmpty_map]

theorem events_filterMapEvents (f : ε → Option δ) (e : Eventual ε α) :
    (e.filterMapEvents f).events = e.events.filterMap f := by
  simp [events, awaited, filterMapEvents, List.filterMap_flatten]

@[simp]
theorem wait_later (e : Eventual ε α) : e.later.wait = e.wait := rfl

/-- The same happens, only later. -/
theorem events_later (e : Eventual ε α) : e.later.events = e.events := by
  cases h : e.isReady with
  | true => simp [later, events, awaited, h, isReady_iff.1 h]
  | false => simp [later, events, awaited, h]

theorem events_onDemand (e : Eventual ε α) : e.onDemand.events = e.events :=
  flatten_allRounds e

@[simp]
theorem isReady_later (e : Eventual ε α) : e.later.isReady = false := rfl

@[simp]
theorem isReady_joinAll (items : List (Eventual ε α)) :
    (joinAll items).isReady = items.all isReady := by
  have key : ∀ items : List (Eventual ε α),
      (items.foldr (fun e rounds => Rounds.merge e.rounds rounds) []).isEmpty =
        items.all isReady := by
    intro items
    induction items with
    | nil => rfl
    | cons e rest ih =>
      rw [List.foldr_cons, List.all_cons, ← ih, isReady, Bool.eq_iff_iff]
      simp
  exact key items

/-- A value which is waited for together with others happens side by side with them. -/
theorem interleaved_events_joinAll (e : Eventual ε α) (rest : List (Eventual ε α)) :
    Interleaved e.events (joinAll rest).events (joinAll (e :: rest)).events :=
  (interleaved_append e.done (joinAll rest).done).append
    (Rounds.interleaved_flatten_merge e.rounds (joinAll rest).rounds)

/-- Values which are waited for together happen side by side, each of them in its own order. -/
theorem perm_events_joinAll (items : List (Eventual ε α)) :
    (joinAll items).events ~ items.flatMap events := by
  induction items with
  | nil => rfl
  | cons e rest ih => exact (interleaved_events_joinAll e rest).perm.trans (ih.append_left _)

theorem mem_events_joinAll {items : List (Eventual ε α)} {event : ε} :
    event ∈ (joinAll items).events ↔ ∃ e ∈ items, event ∈ e.events := by
  rw [(perm_events_joinAll items).mem_iff, List.mem_flatMap]

end Eventual

end EntityGraph
