import Mathlib
import EntityGraph.Store.Storage
import EntityGraph.Proofs.Eventual
import EntityGraph.Proofs.Outcome

/-!
# Answers of a storage

A run over a storage asks for the paths of keys and for documents. Some answers are there right
away, others have to be waited for, and an answer may have events of its own: a look-up in an index
fetches the index. How the run goes on depends on what is answered, and on nothing else.

The *outline* of a run is the same run over a storage with the same answers which stays silent
(`Storage.silent`), so its events are what the run itself does. If one run outlines another one
(`Storage.Outline`), both come to the same value, and the outline tells whether the run is ready and
what happens in it. Runs are put together from outlined parts in the same way as their outlines.
-/

namespace EntityGraph

namespace Storage

/-- For every key both storages answer the same path or failure, for every path the same document
    or failure, each of them right away or later. -/
structure SameAnswers (s₁ s₂ : Storage) : Prop where
  path : ∀ key, (s₁.lookup key s₁.fetcher).wait = (s₂.lookup key s₂.fetcher).wait
  document : ∀ path, (s₁.fetcher.answer path).wait = (s₂.fetcher.answer path).wait

theorem SameAnswers.refl (s : Storage) : SameAnswers s s := ⟨fun _ => rfl, fun _ => rfl⟩

/-- The same answers, right away or later as before, but without events of their own. -/
def silent (s : Storage) : Storage where
  fetcher := ⟨fun path => (s.fetcher.answer path).filterMapEvents fun _ => none⟩
  lookup := fun key _ => (s.lookup key s.fetcher).filterMapEvents fun _ => none

theorem events_silenced {α : Type} (answer : Run α) :
    (answer.filterMapEvents fun _ => (none : Option Event)).events = [] := by
  rw [Eventual.events_filterMapEvents, List.filterMap_none]

/-- A silent storage answers a key by nothing but the path. -/
@[simp]
theorem events_path?_silent (s : Storage) (key : EntityKey) :
    (s.silent.path? key).events = [.lookup key] := by
  rw [path?, Eventual.events_andThen]
  exact congrArg _ (events_silenced _)

@[simp]
theorem events_fetch_silent (s : Storage) (path : String) :
    (s.silent.fetcher.fetch path).events = [.fetch path] := by
  rw [Fetcher.fetch, Eventual.events_andThen]
  exact congrArg _ (events_silenced _)

/-- What is asked for is answered right away. -/
def AnswersAtOnce (s : Storage) : Event → Prop
  | .lookup key => (s.lookup key s.fetcher).isReady = true
  | .fetch path => (s.fetcher.answer path).isReady = true
  | .log _ => True

/-- What happens until the answer is there. -/
def eventsBehind (s : Storage) : Event → List Event
  | .lookup key => (s.lookup key s.fetcher).events
  | .fetch path => (s.fetcher.answer path).events
  | .log _ => []

/-- The run comes to the same value as its outline. It is ready if all that was asked for in the
    outline is answered right away, and what happens in it happens in the outline or until something
    asked for there is answered. -/
structure Outline {α : Type} (s : Storage) (run outline : Run α) : Prop where
  wait : run.wait = outline.wait
  isReady : run.isReady = true ↔ ∀ e ∈ outline.events, s.AnswersAtOnce e
  mem_events : ∀ e, e ∈ run.events ↔
    e ∈ outline.events ∨ ∃ asked ∈ outline.events, e ∈ s.eventsBehind asked

namespace Outline

variable {s s' : Storage} {α β σ τ : Type}

theorem pure (a : α) : Outline s (Eventual.pure a) (Eventual.pure a) :=
  ⟨rfl, by simp [Eventual.pure, Eventual.isReady, Eventual.events, Eventual.awaited],
    by simp [Eventual.pure, Eventual.events, Eventual.awaited]⟩

theorem log (source : LogSource) (level : LogLevel) (message : String) :
    Outline s (Run.log source level message) (Run.log source level message) := by
  have hevents : (Run.log source level message).events =
      [.log (source.record level message)] := rfl
  refine ⟨rfl, ?_, fun e => ?_⟩
  · rw [hevents]
    simp only [List.mem_singleton, forall_eq, AnswersAtOnce, iff_true]
    rfl
  · rw [hevents]
    simp [eventsBehind]

/-- Something is asked for, and nothing else is done until the answer is there. -/
theorem ask {asked : Event} {answer outline : Run α} (hwait : answer.wait = outline.wait)
    (hready : answer.isReady = true ↔ s.AnswersAtOnce asked)
    (hevents : answer.events = s.eventsBehind asked) (hnone : outline.events = []) :
    Outline s ((Eventual.note asked).andThen fun _ => answer)
      ((Eventual.note asked).andThen fun _ => outline) := by
  have hnote : (Eventual.note asked).events = [asked] := rfl
  refine ⟨by simp [hwait], ?_, fun e => ?_⟩
  · rw [Eventual.isReady_andThen, Eventual.events_andThen, hnone, hnote]
    simpa [Eventual.note, Eventual.isReady] using hready
  · rw [Eventual.events_andThen, Eventual.events_andThen, hnone, hnote, hevents]
    simp

theorem andThen {e outline : Run α} {f g : α → Run β} (h : Outline s e outline)
    (hf : ∀ a, Outline s (f a) (g a)) : Outline s (e.andThen f) (outline.andThen g) := by
  have hnext := hf outline.wait
  refine ⟨?_, ?_, fun event => ?_⟩
  · rw [Eventual.wait_andThen, Eventual.wait_andThen, h.wait, hnext.wait]
  · rw [Eventual.isReady_andThen, Eventual.events_andThen, Bool.and_eq_true, h.wait, h.isReady,
      hnext.isReady, List.forall_mem_append]
  · rw [Eventual.events_andThen, Eventual.events_andThen, List.mem_append, h.wait, h.mem_events,
      hnext.mem_events]
    simp only [List.mem_append, or_and_right, exists_or]
    exact or_or_or_comm

theorem map {e outline : Run α} (h : Outline s e outline) (f : α → β) :
    Outline s (e.map f) (outline.map f) :=
  ⟨congrArg f h.wait, h.isReady, h.mem_events⟩

theorem joinAll {items outlines : List (Run α)} (h : List.Forall₂ (Outline s) items outlines) :
    Outline s (Eventual.joinAll items) (Eventual.joinAll outlines) := by
  refine ⟨?_, ?_, fun e => ?_⟩
  · change items.map (·.wait) = outlines.map (·.wait)
    induction h with
    | nil => rfl
    | cons hfirst _ ih => rw [List.map_cons, List.map_cons, hfirst.wait, ih]
  · rw [Eventual.isReady_joinAll, List.all_eq_true]
    simp only [Eventual.mem_events_joinAll]
    induction h with
    | nil => simp
    | cons hfirst _ ih =>
      rw [List.forall_mem_cons, ih, hfirst.isReady]
      simp only [List.mem_cons, exists_eq_or_imp, or_imp, forall_and]
  · simp only [Eventual.mem_events_joinAll]
    induction h with
    | nil => simp
    | cons hfirst _ ih =>
      simp only [List.exists_mem_cons_iff, ih, hfirst.mem_events, or_and_right, exists_or]
      exact or_or_or_comm

/-! ### Results -/

theorem ok (a : α) :
    Outline s (EventualResult.ok a : RunResult σ α) (EventualResult.ok a) := pure _

theorem fail (failure : σ) :
    Outline s (EventualResult.fail failure : RunResult σ α) (EventualResult.fail failure) := pure _

theorem andThenResult {e outline : RunResult σ α} {f g : α → RunResult σ β}
    (h : Outline s e outline) (hf : ∀ a, Outline s (f a) (g a)) :
    Outline s (EventualResult.andThen e f) (EventualResult.andThen outline g) := by
  refine andThen h fun result => ?_
  cases result with
  | error failure => exact fail failure
  | ok a => exact hf a

theorem mapError {e outline : RunResult σ α} (h : Outline s e outline) (f : σ → τ) :
    Outline s (EventualResult.mapError f e) (EventualResult.mapError f outline) := map h _

theorem joinAllResults {items outlines : List (RunResult σ α)}
    (h : List.Forall₂ (Outline s) items outlines) :
    Outline s (EventualResult.joinAll items) (EventualResult.joinAll outlines) := map (joinAll h) _

/-! ### Asking a storage -/

theorem path? (h : SameAnswers s s') (key : EntityKey) :
    Outline s (s.path? key) (s'.silent.path? key) :=
  ask (h.path key) Iff.rfl rfl (events_silenced _)

theorem fetch (h : SameAnswers s s') (path : String) :
    Outline s (s.fetcher.fetch path) (s'.silent.fetcher.fetch path) :=
  ask (h.document path) Iff.rfl rfl (events_silenced _)

theorem entity (h : SameAnswers s s') (key : EntityKey) :
    Outline s (s.entity key) (s'.silent.entity key) := by
  refine andThenResult (path? h key) fun path => ?_
  cases path with
  | none => exact fail _
  | some path => exact andThenResult (mapError (fetch h path) _) fun content => pure _

end Outline

theorem events_path? (s : Storage) (key : EntityKey) :
    (s.path? key).events = .lookup key :: s.eventsBehind (.lookup key) := by
  rw [path?, Eventual.events_andThen]
  rfl

theorem events_fetch (s : Storage) (path : String) :
    (s.fetcher.fetch path).events = .fetch path :: s.eventsBehind (.fetch path) := by
  rw [Fetcher.fetch, Eventual.events_andThen]
  rfl

/-- An entity is looked up by its key, and then its document is fetched. -/
theorem events_entity (s : Storage) (key : EntityKey) :
    (s.entity key).events = .lookup key :: (s.eventsBehind (.lookup key) ++
      match (s.path? key).wait with
      | .ok (some path) => .fetch path :: s.eventsBehind (.fetch path)
      | _ => []) := by
  rw [entity, EventualResult.andThen, Eventual.events_andThen, events_path?, List.cons_append]
  cases (s.path? key).wait with
  | error e => rfl
  | ok found =>
    cases found with
    | none => rfl
    | some path =>
      simp only [EventualResult.andThen, Eventual.events_andThen, EventualResult.mapError,
        Eventual.events_map, Eventual.wait_map, events_fetch]
      -- Reading the document does nothing that could be seen.
      refine congrArg (List.cons _) (congrArg _ ?_)
      cases (s.fetcher.fetch path).wait <;> exact List.append_nil _

theorem eventsBehind_silent (s : Storage) (asked : Event) : s.silent.eventsBehind asked = [] := by
  cases asked with
  | log => rfl
  | lookup | fetch => exact events_silenced _

theorem sameAnswers_silent (s : Storage) : SameAnswers s s.silent := ⟨fun _ => rfl, fun _ => rfl⟩

theorem events_entity_silent (s : Storage) (key : EntityKey) :
    (s.silent.entity key).events = .lookup key ::
      match (s.path? key).wait with
      | .ok (some path) => [.fetch path]
      | _ => [] := by
  rw [events_entity, (Outline.path? (.refl s) key).wait]
  simp only [eventsBehind_silent, List.nil_append]

end Storage

end EntityGraph
