import Mathlib
import EntityGraph.Proofs.Eventual
import EntityGraph.Proofs.Outcome
import EntityGraph.Store.Storage

/-!
# Documents an index leads to

Keys come from anywhere: out of documents, or from whoever asks. Paths do not. A storage with an
index asks for the index, and for a document only if the index has its path at the encoded key of an
entity which was looked up before (`Storage.MayAsk`). This is told of all that happens in a run,
event by event (`Storage.Confined`), and it is kept by whatever runs are put together with, also side
by side, where the events of the other runs come in between (`Storage.Confined.interleaved`).
-/

namespace EntityGraph

/-- The index is an object which has the path at the encoded key. -/
def Lookup.Leads (fetcher : Fetcher) (indexPath : String) (key : EntityKey) (path : String) : Prop :=
  ∃ content index, (fetcher.answer indexPath).wait = .ok content ∧
    Json.read? content = some (.object index) ∧
    Json.Fields.get? (EntityKey.encode key) index = some (.string path)

/-! ### Fetchers -/

namespace Fetcher

/-- The fetcher asks for no further documents while it answers. -/
def IsQuiet (fetcher : Fetcher) : Prop :=
  ∀ asked path, .fetch path ∉ (fetcher.answer asked).events

theorem isQuiet_memory (documents : Documents) : (memory documents).IsQuiet := by
  intro asked path h
  rw [memory, Eventual.events_andThen] at h
  rcases List.mem_append.1 h with h | h
  · cases List.mem_singleton.1 h
  · split at h <;> cases h

theorem isQuiet_deferred {fetcher : Fetcher} (h : fetcher.IsQuiet) : fetcher.deferred.IsQuiet := by
  intro asked path hpath
  refine h asked path ?_
  rwa [deferred, Eventual.events_later] at hpath

theorem isQuiet_directory (root : String) (read : String → Except FileFault String) :
    (directory root read).IsQuiet := by
  intro asked path h
  simp only [directory] at h
  split at h
  · cases h
  · rw [Eventual.events_onDemand, Eventual.events_andThen, Eventual.events_later] at h
    rcases List.mem_append.1 h with h | h
    · cases List.mem_singleton.1 h
    · split at h <;> cases h

end Fetcher

/-! ### Paths which may be asked for -/

namespace Storage

/-- Why a document may be asked for, after what happened before. -/
inductive MayAsk (fetcher : Fetcher) (indexPath : String) (before : List Event) (path : String) :
    Prop
  /-- It is the index. -/
  | index (h : path = indexPath)
  /-- The index leads to it from an entity which was looked up. -/
  | entity {key : EntityKey} (hlookup : .lookup key ∈ before)
      (hleads : Lookup.Leads fetcher indexPath key path)
  /-- The fetcher itself asks for it while it answers what it was asked for. -/
  | fetcher {asked : String} (hasked : .fetch asked ∈ before)
      (hanswer : .fetch path ∈ (fetcher.answer asked).events)

/-- Of the events, which come behind those `before`, each asks for what may be asked for. -/
def Confined (fetcher : Fetcher) (indexPath : String) : List Event → List Event → Prop
  | _, [] => True
  | before, e :: rest => (∀ path, e = .fetch path → MayAsk fetcher indexPath before path) ∧
      Confined fetcher indexPath (e :: before) rest

variable {fetcher : Fetcher} {indexPath : String} {before before' events more : List Event}

/-- What may be asked for may be asked for later on. -/
theorem MayAsk.mono {path : String} (h : MayAsk fetcher indexPath before path)
    (hsub : before ⊆ before') : MayAsk fetcher indexPath before' path := by
  cases h with
  | index h => exact .index h
  | entity hlookup hleads => exact .entity (hsub hlookup) hleads
  | fetcher hasked hanswer => exact .fetcher (hsub hasked) hanswer

/-- A quiet fetcher is asked for the index and for what it leads to, and for nothing else. -/
theorem MayAsk.of_isQuiet {path : String} (h : MayAsk fetcher indexPath before path)
    (hquiet : fetcher.IsQuiet) : path = indexPath ∨
      ∃ key, .lookup key ∈ before ∧ Lookup.Leads fetcher indexPath key path := by
  cases h with
  | index h => exact .inl h
  | entity hlookup hleads => exact .inr ⟨_, hlookup, hleads⟩
  | fetcher _ hanswer => exact absurd hanswer (hquiet _ _)

namespace Confined

theorem mono (h : Confined fetcher indexPath before events) (hsub : before ⊆ before') :
    Confined fetcher indexPath before' events := by
  induction events generalizing before before' with
  | nil => trivial
  | cons e rest ih =>
    refine ⟨fun path hpath => (h.1 path hpath).mono hsub, ih h.2 ?_⟩
    exact List.cons_subset_cons e hsub

theorem append (h : Confined fetcher indexPath before events)
    (hmore : Confined fetcher indexPath (events ++ before) more) :
    Confined fetcher indexPath before (events ++ more) := by
  induction events generalizing before with
  | nil => exact hmore
  | cons e rest ih =>
    refine ⟨h.1, ih h.2 (hmore.mono ?_)⟩
    exact (List.perm_middle.symm).subset

/-- Events of two runs in between each other. -/
theorem interleaved {as bs : List Event} (h : Interleaved as bs events)
    (has : Confined fetcher indexPath before as) (hbs : Confined fetcher indexPath before bs) :
    Confined fetcher indexPath before events := by
  -- An event of one run only adds to what happened before those of the other.
  induction h generalizing before with
  | nil => trivial
  | left _ ih => exact ⟨has.1, ih has.2 (hbs.mono (List.subset_cons_self ..))⟩
  | right _ ih => exact ⟨hbs.1, ih (has.mono (List.subset_cons_self ..)) hbs.2⟩

theorem mayAsk {path : String}
    (h : Confined fetcher indexPath before (events ++ .fetch path :: more)) :
    MayAsk fetcher indexPath (events ++ before) path := by
  induction events generalizing before with
  | nil => exact h.1 path rfl
  | cons e rest ih => exact (ih h.2).mono List.perm_middle.subset

/-- Nothing is asked for. -/
theorem of_fetch_not_mem (h : ∀ path, .fetch path ∉ events) :
    Confined fetcher indexPath before events := by
  induction events generalizing before with
  | nil => trivial
  | cons e rest ih =>
    refine ⟨fun path hpath => absurd (hpath ▸ List.mem_cons_self) (h path), ih fun path hpath => ?_⟩
    exact h path (List.mem_cons_of_mem _ hpath)

/-- What happens until something is answered which was asked for. -/
theorem of_answer {asked : String} (hasked : .fetch asked ∈ before)
    (h : events ⊆ (fetcher.answer asked).events) : Confined fetcher indexPath before events := by
  induction events generalizing before with
  | nil => trivial
  | cons e rest ih =>
    obtain ⟨he, hrest⟩ := List.cons_subset.1 h
    exact ⟨fun path hpath => .fetcher hasked (hpath ▸ he), ih (List.mem_cons_of_mem _ hasked) hrest⟩

theorem of_fetch {path : String} (h : MayAsk fetcher indexPath before path) :
    Confined fetcher indexPath before (fetcher.fetch path).events := by
  rw [Fetcher.fetch, Eventual.events_andThen]
  refine ⟨fun other hother => ?_, of_answer List.mem_cons_self (List.Subset.refl _)⟩
  cases hother
  exact h

end Confined

/-! ### Runs -/

section

variable {α β σ : Type}

theorem confined_andThen {e : Run α} {f : α → Run β}
    (he : Confined fetcher indexPath [] e.events)
    (hf : ∀ a, Confined fetcher indexPath [] (f a).events) :
    Confined fetcher indexPath [] (e.andThen f).events := by
  rw [Eventual.events_andThen]
  exact he.append ((hf _).mono (List.nil_subset _))

theorem confined_andThenResult {e : RunResult σ α} {f : α → RunResult σ β}
    (he : Confined fetcher indexPath [] e.events)
    (hf : ∀ a, Confined fetcher indexPath [] (f a).events) :
    Confined fetcher indexPath [] (EventualResult.andThen e f).events := by
  refine confined_andThen he fun result => ?_
  cases result with
  | error failure => trivial
  | ok a => exact hf a

theorem confined_joinAll {items : List (Run α)}
    (h : ∀ e ∈ items, Confined fetcher indexPath [] e.events) :
    Confined fetcher indexPath [] (Eventual.joinAll items).events := by
  induction items with
  | nil => trivial
  | cons e rest ih =>
    obtain ⟨he, hrest⟩ := List.forall_mem_cons.1 h
    exact .interleaved (Eventual.interleaved_events_joinAll e rest) he (ih hrest)

theorem confined_log (source : LogSource) (level : LogLevel) (message : String) :
    Confined fetcher indexPath [] (Run.log source level message).events :=
  .of_fetch_not_mem fun _ h => nomatch List.mem_singleton.1 h

end

/-! ### The index -/

theorem confined_findPath (content encodedKey : String) :
    Confined fetcher indexPath [] (Lookup.findPath indexPath content encodedKey).events := by
  rw [Lookup.findPath]
  split
  · simp only
    split
    · exact confined_andThen (confined_log ..) fun _ => trivial
    · exact confined_andThen (confined_log ..) fun _ => trivial
    · exact confined_andThen (confined_log ..) fun _ => trivial
    · trivial
  · trivial

/-- A path which is found in the text of an index is a string at the encoded key. -/
theorem findPath_eq_some {content encodedKey path : String}
    (h : (Lookup.findPath indexPath content encodedKey).wait = .ok (some path)) :
    ∃ index, Json.read? content = some (.object index) ∧
      Json.Fields.get? encodedKey index = some (.string path) := by
  rw [Lookup.findPath] at h
  split at h
  · next index hindex =>
    refine ⟨index, hindex, ?_⟩
    simp only at h
    split at h
    · next found hfound =>
      rw [Eventual.wait_andThen] at h
      rw [hfound, Option.some.inj (Except.ok.inj h)]
    · rw [Eventual.wait_andThen] at h
      cases h
    · rw [Eventual.wait_andThen] at h
      cases h
    · cases h
  · cases h

/-- The answer of an index is what it leads to. -/
theorem leads_of_index {key : EntityKey} {path : String}
    (h : (Lookup.index indexPath key fetcher).wait = .ok (some path)) :
    Lookup.Leads fetcher indexPath key path := by
  rw [Lookup.index, EventualResult.wait_andThen, EventualResult.mapError, Eventual.wait_map,
    Fetcher.fetch, Eventual.wait_andThen] at h
  cases hcontent : (fetcher.answer indexPath).wait with
  | error failure =>
    rw [hcontent] at h
    cases h
  | ok content =>
    rw [hcontent] at h
    obtain ⟨index, hread, hpath⟩ := findPath_eq_some h
    exact ⟨content, index, hcontent, hread, hpath⟩

/-- Looking a key up asks for nothing but the index. -/
theorem confined_path? (key : EntityKey) :
    Confined fetcher indexPath []
      (path? ⟨fetcher, Lookup.index indexPath⟩ key).events := by
  have hlookup : Confined fetcher indexPath [] (Lookup.index indexPath key fetcher).events :=
    confined_andThenResult (.of_fetch (.index rfl)) fun content => confined_findPath content _
  exact confined_andThen (.of_fetch_not_mem fun _ h => nomatch List.mem_singleton.1 h)
    fun _ => hlookup

/-- Of an entity the document is asked for which the index leads to. -/
theorem confined_entity (key : EntityKey) :
    Confined fetcher indexPath []
      (entity ⟨fetcher, Lookup.index indexPath⟩ key).events := by
  have hevents : .lookup key ∈ (path? ⟨fetcher, Lookup.index indexPath⟩ key).events := by
    rw [path?, Eventual.events_andThen]
    exact List.mem_append_left _ (List.mem_singleton_self _)
  rw [entity, EventualResult.andThen, Eventual.events_andThen]
  refine (confined_path? key).append ?_
  cases hwait : (path? ⟨fetcher, Lookup.index indexPath⟩ key).wait with
  | error failure => trivial
  | ok found =>
    cases found with
    | none => trivial
    | some path =>
      have hleads : Lookup.Leads fetcher indexPath key path := by
        rw [path?, Eventual.wait_andThen] at hwait
        exact leads_of_index hwait
      have hfetch := Confined.of_fetch (.entity (List.mem_append_left [] hevents) hleads)
      -- What is read off the document comes behind the fetch, and asks for nothing.
      simp only [EventualResult.andThen, Eventual.events_andThen, EventualResult.mapError,
        Eventual.events_map]
      refine hfetch.append ?_
      split <;> trivial

end Storage

end EntityGraph
