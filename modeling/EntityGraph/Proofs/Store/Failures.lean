import Mathlib
import EntityGraph.Proofs.Store.Answers
import EntityGraph.Proofs.Store.Index

/-!
# Why an entity is not there

An entity is looked up in an index, and the document at its path is fetched. Each of the two steps
may fail, and what is told then has to do with something that was asked for before: a document can
not be had, the index is none, the index has no path for the key, or the document at the path is no
object (`Storage.Blames`). This is told of a run as a whole (`Storage.Explained`), and it is kept by
whatever runs are put together with.
-/

namespace EntityGraph

namespace Lookup

/-- The index is an object which has nothing at the encoded key, or `null`. -/
def Lacks (fetcher : Fetcher) (indexPath : String) (key : EntityKey) : Prop :=
  ∃ content index, (fetcher.answer indexPath).wait = .ok content ∧
    Json.read? content = some (.object index) ∧
    ∀ v, Json.Fields.get? (EntityKey.encode key) index = some v → v = .null

/-- The document of the index is no object, or has something else than a path at the encoded key. -/
def Broken (fetcher : Fetcher) (indexPath : String) (key : EntityKey) : Prop :=
  ∃ content, (fetcher.answer indexPath).wait = .ok content ∧
    ∀ index, Json.read? content = some (.object index) →
      ∃ v, Json.Fields.get? (EntityKey.encode key) index = some v ∧ v ≠ .null ∧
        ∀ path, v ≠ .string path

/-- What is answered to a key by an index. -/
inductive Answered (fetcher : Fetcher) (indexPath : String) (key : EntityKey) :
    Except ResolveError (Option String) → Prop
  | unfetched {e : FetchError} : (fetcher.answer indexPath).wait = .error e →
      Answered fetcher indexPath key (.error (.fetch e))
  | broken : Broken fetcher indexPath key →
      Answered fetcher indexPath key (.error (.invalidIndex indexPath))
  | lacks : Lacks fetcher indexPath key → Answered fetcher indexPath key (.ok none)
  | leads {path : String} : Leads fetcher indexPath key path →
      Answered fetcher indexPath key (.ok (some path))

variable {fetcher : Fetcher} {indexPath : String}

theorem answered_findPath {key : EntityKey} {content : String}
    (h : (fetcher.answer indexPath).wait = .ok content) :
    Answered fetcher indexPath key
      (findPath indexPath content (EntityKey.encode key)).wait := by
  rw [findPath]
  split
  · next index hread =>
    simp only
    split
    · next path hpath =>
      rw [Eventual.wait_andThen]
      exact .leads ⟨content, index, h, hread, hpath⟩
    · next hnull =>
      rw [Eventual.wait_andThen]
      exact .lacks ⟨content, index, h, hread, fun v hv => Option.some.inj (hv.symm.trans hnull)⟩
    · next hnone =>
      rw [Eventual.wait_andThen]
      exact .lacks ⟨content, index, h, hread, fun v hv => absurd (hv.symm.trans hnone) (by simp)⟩
    · next v hpath hnull hv =>
      refine .broken ⟨content, h, fun index' hread' => ?_⟩
      cases hread.symm.trans hread'
      exact ⟨v, hv, hnull, hpath⟩
  · next hread =>
    exact .broken ⟨content, h, fun index hindex => absurd hindex (hread index)⟩

theorem answered_index (key : EntityKey) :
    Answered fetcher indexPath key (index indexPath key fetcher).wait := by
  rw [index, EventualResult.wait_andThen, EventualResult.mapError, Eventual.wait_map,
    Fetcher.fetch, Eventual.wait_andThen]
  cases h : (fetcher.answer indexPath).wait with
  | error e => exact .unfetched h
  | ok content => exact answered_findPath h

end Lookup

namespace Storage

/-- What a failure has to do with what happened before. -/
inductive Blames (fetcher : Fetcher) (indexPath : String) (events : List Event) :
    ResolveError → Prop
  /-- A document was asked for which can not be had. -/
  | fetch {path : String} {e : FetchError} (hasked : .fetch path ∈ events)
      (hanswer : (fetcher.answer path).wait = .error e) :
      Blames fetcher indexPath events (.fetch e)
  /-- A key was looked up in an index which is none, or has no path but something else for it. -/
  | index {key : EntityKey} (hlookup : .lookup key ∈ events)
      (hbroken : Lookup.Broken fetcher indexPath key) :
      Blames fetcher indexPath events (.invalidIndex indexPath)
  /-- The index leads from a key which was looked up to a document which is no object. -/
  | document {key : EntityKey} {path content : String} (hlookup : .lookup key ∈ events)
      (hleads : Lookup.Leads fetcher indexPath key path)
      (hanswer : (fetcher.answer path).wait = .ok content)
      (hobject : ∀ fields, Json.read? content ≠ some (.object fields)) :
      Blames fetcher indexPath events (.invalidDocument path)
  /-- A key was looked up which has no path. -/
  | missing {key : EntityKey} (hlookup : .lookup key ∈ events)
      (hlacks : Lookup.Lacks fetcher indexPath key) :
      Blames fetcher indexPath events (.selfLookupFailed (EntityKey.encode key))

variable {fetcher : Fetcher} {indexPath : String}

theorem Blames.mono {before events : List Event} {e : ResolveError}
    (h : Blames fetcher indexPath before e) (hsub : before ⊆ events) :
    Blames fetcher indexPath events e := by
  cases h with
  | fetch hasked hanswer => exact .fetch (hsub hasked) hanswer
  | index hlookup hbroken => exact .index (hsub hlookup) hbroken
  | document hlookup hleads hanswer hobject =>
    exact .document (hsub hlookup) hleads hanswer hobject
  | missing hlookup hlacks => exact .missing (hsub hlookup) hlacks

/-- That an entity was not found is no such failure. -/
theorem Blames.ne_keyNotFound {events : List Event} {e : ResolveError}
    (h : Blames fetcher indexPath events e) (text : String) : e ≠ .keyNotFound text := by
  rintro rfl
  cases h

/-- A key which is told to have no path was looked up. -/
theorem Blames.exists_of_selfLookupFailed {events : List Event} {text : String}
    (h : Blames fetcher indexPath events (.selfLookupFailed text)) :
    ∃ key, EntityKey.encode key = text ∧ .lookup key ∈ events ∧
      Lookup.Lacks fetcher indexPath key := by
  cases h with
  | missing hlookup hlacks => exact ⟨_, rfl, hlookup, hlacks⟩

/-- If the run fails, its failure has to do with what happened in it. -/
def Explained {α : Type} (fetcher : Fetcher) (indexPath : String)
    (run : RunResult ResolveError α) : Prop :=
  ∀ e, run.wait = .error e → Blames fetcher indexPath run.events e

section

variable {α β : Type}

theorem explained_ok (a : α) :
    Explained fetcher indexPath (EventualResult.ok a : RunResult ResolveError α) :=
  fun _ h => nomatch h

theorem explained_map {run : RunResult ResolveError α} (h : Explained fetcher indexPath run)
    (f : α → β) : Explained fetcher indexPath (Eventual.map (Except.map f) run) :=
  fun e he => h e (Outcome.map_eq_error.1 he)

theorem explained_log {run : RunResult ResolveError α} (h : Explained fetcher indexPath run)
    (source : LogSource) (level : LogLevel) (message : String) :
    Explained fetcher indexPath ((Run.log source level message).andThen fun _ => run) := by
  intro e he
  rw [Eventual.wait_andThen] at he
  rw [Eventual.events_andThen]
  exact (h e he).mono (List.subset_append_right _ _)

theorem explained_andThen {run : RunResult ResolveError α} {f : α → RunResult ResolveError β}
    (h : Explained fetcher indexPath run) (hf : ∀ a, Explained fetcher indexPath (f a)) :
    Explained fetcher indexPath (EventualResult.andThen run f) := by
  intro e he
  rw [EventualResult.wait_andThen] at he
  rw [EventualResult.andThen, Eventual.events_andThen]
  rcases Outcome.bind_eq_error.1 he with he | ⟨a, ha, he⟩
  · exact (h e he).mono (List.subset_append_left _ _)
  · rw [ha]
    exact (hf a e he).mono (List.subset_append_right _ _)

/-- The failure which is told of several is that of one of them. -/
theorem explained_joinAll {items : List (RunResult ResolveError α)}
    (h : ∀ run ∈ items, Explained fetcher indexPath run) :
    Explained fetcher indexPath (EventualResult.joinAll items) := by
  intro e he
  obtain ⟨values, behind, hitems⟩ := (EventualResult.wait_joinAll_eq_error items).1 he
  have hmem : Except.error e ∈ items.map (·.wait) := by
    rw [hitems]
    exact List.mem_append_right _ List.mem_cons_self
  obtain ⟨run, hrun, hfail⟩ := List.mem_map.1 hmem
  refine (h run hrun e hfail).mono fun event hevent => ?_
  exact Eventual.mem_events_joinAll.2 ⟨run, hrun, hevent⟩

end

/-- The index is asked for before a key is answered. -/
theorem fetch_index_mem_eventsBehind (fetcher : Fetcher) (indexPath : String) (key : EntityKey) :
    .fetch indexPath ∈ eventsBehind ⟨fetcher, Lookup.index indexPath⟩ (.lookup key) := by
  change Event.fetch indexPath ∈ (EventualResult.andThen _ _).events
  rw [EventualResult.andThen, Eventual.events_andThen, EventualResult.mapError,
    Eventual.events_map, Fetcher.fetch, Eventual.events_andThen]
  exact List.mem_append_left _ List.mem_cons_self

/-- A document which is asked for can not be had or is no object, if there is nothing to be read
    from it. -/
theorem document_eq_error {path : String} {e : ResolveError}
    (h : (EventualResult.andThen (EventualResult.mapError .fetch (fetcher.fetch path))
      fun content => Eventual.pure (parseDocument path content)).wait = .error e) :
    (∃ failure, (fetcher.answer path).wait = .error failure ∧ e = .fetch failure) ∨
      ∃ content, (fetcher.answer path).wait = .ok content ∧
        (∀ fields, Json.read? content ≠ some (.object fields)) ∧ e = .invalidDocument path := by
  rw [EventualResult.wait_andThen, EventualResult.mapError, Eventual.wait_map, Fetcher.fetch,
    Eventual.wait_andThen] at h
  cases hanswer : (fetcher.answer path).wait with
  | error failure =>
    rw [hanswer] at h
    cases h
    exact .inl ⟨failure, rfl, rfl⟩
  | ok content =>
    rw [hanswer] at h
    replace h : parseDocument path content = .error e := h
    rw [parseDocument] at h
    split at h
    · cases h
    · next hread =>
      cases h
      exact .inr ⟨content, rfl, hread, rfl⟩

/-- An entity is not found only if its key has no path. Any other failure has to do with what was
    asked for. -/
theorem blames_of_entity {key : EntityKey} {e : ResolveError}
    (h : (entity ⟨fetcher, Lookup.index indexPath⟩ key).wait = .error e) :
    Blames fetcher indexPath (entity ⟨fetcher, Lookup.index indexPath⟩ key).events e ∨
      Lookup.Lacks fetcher indexPath key ∧ e = .keyNotFound (EntityKey.encode key) := by
  have hanswered : Lookup.Answered fetcher indexPath key
      (path? ⟨fetcher, Lookup.index indexPath⟩ key).wait := by
    rw [path?, Eventual.wait_andThen]
    exact Lookup.answered_index key
  rw [events_entity]
  rw [entity, EventualResult.wait_andThen] at h
  generalize (path? ⟨fetcher, Lookup.index indexPath⟩ key).wait = found at hanswered h ⊢
  cases hanswered with
  | unfetched hanswer =>
    cases h
    have hasked := fetch_index_mem_eventsBehind fetcher indexPath key
    exact .inl (.fetch (List.mem_cons_of_mem _ (List.mem_append_left _ hasked)) hanswer)
  | broken hbroken =>
    cases h
    exact .inl (.index List.mem_cons_self hbroken)
  | lacks hlacks =>
    cases h
    exact .inr ⟨hlacks, rfl⟩
  | @leads path hleads =>
    -- The document is asked for behind everything that happened during the look-up.
    obtain ⟨failure, hanswer, rfl⟩ | ⟨content, hanswer, hobject, rfl⟩ := document_eq_error h
    · refine .inl (.fetch ?_ hanswer)
      exact List.mem_cons_of_mem _ (List.mem_append_right _ List.mem_cons_self)
    · exact .inl (.document List.mem_cons_self hleads hanswer hobject)

end Storage

end EntityGraph
