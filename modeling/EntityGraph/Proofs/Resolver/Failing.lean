import Mathlib
import EntityGraph.Proofs.GlobalId
import EntityGraph.Proofs.Store.Failures

/-!
# Why an id can not be told

The id of an entity may need the documents of others, which are looked up on the way through arrays
and nested selections. Wherever this comes to an end, the failure has to do with something that was
asked for (`KeyProjection.explained_select`): a document which can not be had or is no object, an
index which is none, or a key which was looked up and has no path. That a key was not found is told
of an entity only, never of an id.

What is selected of an object is an object (`KeyProjection.object_of_select`). So there is always a
key to make the id of, and an id can be told if its key can be selected
(`FieldSource.blames_of_globalId`).
-/

namespace EntityGraph

open Storage (Blames Explained explained_ok explained_map explained_log explained_andThen
  explained_joinAll blames_of_entity)

variable {fetcher : Fetcher} {indexPath : String}

namespace KeyProjection

section Items

variable {projected : Json → Option Json} {complete : Json → RunResult ResolveError Json}

mutual

/-- What is taken item by item fails for one of the items. -/
theorem explained_selectWith (h : ∀ v, Explained fetcher indexPath (complete v)) :
    ∀ v, Explained fetcher indexPath (selectWith projected complete v)
  | .array items => by
    rw [selectWith]
    split
    · exact explained_ok _
    · exact explained_map (explained_joinAll (explained_selectItems h items)) _
  | .null | .bool _ | .number _ | .string _ | .object _ => by
    simp only [selectWith]
    split
    · exact explained_ok _
    · exact h _

theorem explained_selectItems (h : ∀ v, Explained fetcher indexPath (complete v)) :
    ∀ items, ∀ run ∈ selectItems projected complete items, Explained fetcher indexPath run
  | [] => fun _ hrun => nomatch hrun
  | v :: rest => by
    rw [selectItems]
    exact List.forall_mem_cons.2 ⟨explained_selectWith h v, explained_selectItems h rest⟩

end

end Items

/-- The entity a key is selected from: that it was not found is told as a key without a path. -/
theorem explained_entityOf (type : String) (v : Json) :
    Explained fetcher indexPath (entityOf ⟨fetcher, Lookup.index indexPath⟩ type v) := by
  refine explained_log (fun e he => ?_) _ _ _
  obtain ⟨failure, hfailure, rfl⟩ := Outcome.mapError_eq_error.1 he
  rw [EventualResult.mapError, Eventual.events_map]
  obtain h | ⟨hlacks, rfl⟩ := blames_of_entity hfailure
  · -- Whatever else it is stays as it is.
    have hsame := h
    cases h <;> exact hsame
  · refine .missing ?_ hlacks
    rw [Storage.events_entity]
    exact List.mem_cons_self

mutual

/-- Selecting fails for something that was asked for, at whatever level it is found. -/
theorem explained_select : ∀ (projection : KeyProjection) (v : Json),
    Explained fetcher indexPath (select ⟨fetcher, Lookup.index indexPath⟩ projection v)
  | .mk type isPrimary fields, v => by
    rw [select]
    refine explained_selectWith (fun v => ?_) v
    split_ifs
    · refine explained_andThen (explained_entityOf type v) fun document => ?_
      exact explained_map (explained_joinAll (explained_selectFields fields document)) _
    · exact explained_map (explained_joinAll (explained_selectFields fields v.fields)) _

theorem explained_selectFields : ∀ (fields : List KeyField) (map : Json.Fields),
    ∀ run ∈ selectFields ⟨fetcher, Lookup.index indexPath⟩ fields map,
      Explained fetcher indexPath run
  | [], _ => fun _ hrun => nomatch hrun
  | field :: rest, map => by
    rw [selectFields]
    exact List.forall_mem_cons.2 ⟨explained_selectField field map, explained_selectFields rest map⟩

theorem explained_selectField : ∀ (field : KeyField) (map : Json.Fields),
    Explained fetcher indexPath
      (selectField ⟨fetcher, Lookup.index indexPath⟩ field map)
  | .leaf _, _ => explained_ok _
  | .nested _ projection, _ => explained_map (explained_select projection _) _

end

/-- What is selected of an object is an object, over any storage. -/
theorem object_of_select {storage : Storage} {projection : KeyProjection} {map : Json.Fields}
    {w : Json} (h : (select storage projection (.object map)).wait = .ok w) :
    ∃ selected, w = .object selected := by
  cases projection with
  | mk type isPrimary fields =>
    -- The object is projected, or else its fields are gathered, here or in a document.
    rw [select] at h
    simp only [selectWith] at h
    split at h
    · next projected hproject =>
      obtain ⟨picked, -, rfl⟩ := project_object.1 hproject
      exact ⟨_, Except.ok.inj h.symm⟩
    · split_ifs at h
      · rw [EventualResult.wait_andThen, Outcome.bind_eq_ok] at h
        obtain ⟨document, -, h⟩ := h
        obtain ⟨picked, -, rfl⟩ := wait_gather.1 h
        exact ⟨_, rfl⟩
      · obtain ⟨picked, -, rfl⟩ := wait_gather.1 h
        exact ⟨_, rfl⟩

end KeyProjection

namespace FieldSource

/-- The key of an id is an object, whatever the parent is. -/
theorem object_of_select_idParent {storage : Storage} {projection : KeyProjection}
    {parent w : Json} (h : (projection.select storage (idParent parent)).wait = .ok w) :
    ∃ selected, w = .object selected := by
  cases parent <;> exact KeyProjection.object_of_select h

/-- An id fails to be told exactly where its key fails to be selected. -/
theorem wait_globalId_eq_error {storage : Storage} {projection : KeyProjection} {p : ResolveParams}
    {e : ResolveError} :
    (resolve storage (.globalId (some projection)) p).wait = .error e ↔
      (projection.select storage (idParent p.parent)).wait = .error e := by
  rw [resolve_globalId]
  refine Outcome.bind_eq_error.trans (or_iff_left ?_)
  rintro ⟨selected, hselected, h⟩
  obtain ⟨map, rfl⟩ := object_of_select_idParent hselected
  cases h

/-- Over an index, whatever the projection and the parent are: a failure to tell an id, or to select
    what it is made of at any level, has to do with what was asked for, and it is never that a key
    was not found. Of an object an object is selected, so an id fails only where its key does. -/
theorem blames_of_globalId (fetcher : Fetcher) (indexPath : String) :
    let storage : Storage := ⟨fetcher, Lookup.index indexPath⟩
    (∀ key p e, (resolve storage (.globalId key) p).wait = .error e →
      Blames fetcher indexPath (resolve storage (.globalId key) p).events e ∧
        ∀ text, e ≠ .keyNotFound text) ∧
    (∀ (projection : KeyProjection) v e, (projection.select storage v).wait = .error e →
      Blames fetcher indexPath (projection.select storage v).events e ∧
        ∀ text, e ≠ .keyNotFound text) ∧
    (∀ (projection : KeyProjection) map w,
      (projection.select storage (.object map)).wait = .ok w → ∃ selected, w = .object selected) ∧
    ∀ (projection : KeyProjection) p e,
      (resolve storage (.globalId (some projection)) p).wait = .error e ↔
        (projection.select storage (idParent p.parent)).wait = .error e := by
  intro storage
  have hselect : ∀ (projection : KeyProjection) v e,
      (projection.select storage v).wait = .error e →
        Blames fetcher indexPath (projection.select storage v).events e ∧
          ∀ text, e ≠ .keyNotFound text := fun projection v e h =>
    have hblames := KeyProjection.explained_select projection v e h
    ⟨hblames, hblames.ne_keyNotFound⟩
  refine ⟨fun key p e h => ?_, hselect, fun _ _ _ => KeyProjection.object_of_select,
    fun _ _ _ => wait_globalId_eq_error⟩
  cases key with
  | none => cases h
  | some projection => exact hselect projection _ e (wait_globalId_eq_error.1 h)

/-- An entity in an array of a document is not in the index. So its key can not be selected, nor can
    an id be made of the document, while there is one to be made of what the parent has. -/
theorem blames_of_globalId_missing :
    let documents : Documents :=
      [("index.json", "\x7b\"\x7b\\\"__typename\\\":\\\"T\\\",\\\"y\\\":true\x7d\":\"t.json\",
          \"\x7b\\\"__typename\\\":\\\"U\\\",\\\"z\\\":\\\"b\\\"\x7d\":null\x7d"),
        ("t.json", "\x7b\"us\":[null,\x7b\"z\":\"b\"\x7d]\x7d")]
    let storage : Storage := ⟨Fetcher.memory documents, Lookup.index "index.json"⟩
    let text := EntityKey.encode [("__typename", .string "U"), ("z", .string "b")]
    let inner : KeyProjection := .mk "U" true [.leaf "w"]
    let run := resolve storage (.globalId (some (.mk "T" true [.nested "us" inner])))
      ⟨.object [("y", .bool true)], [], idField, "T"⟩
    let nested := inner.select storage (.array [.null, .object [("z", .string "b")]])
    let own := KeyProjection.select storage (.mk "T" true [.leaf "y"]) (.object [("y", .bool true)])
    (run.wait = .error (.selfLookupFailed text) ∧ ∃ key, EntityKey.encode key = text ∧
      .lookup key ∈ run.events ∧ Lookup.Lacks (Fetcher.memory documents) "index.json" key) ∧
    (nested.wait = .error (.selfLookupFailed text) ∧ ∃ key, EntityKey.encode key = text ∧
      .lookup key ∈ nested.events ∧ Lookup.Lacks (Fetcher.memory documents) "index.json" key) ∧
    ∃ selected, own = EventualResult.ok (.object selected) := by
  intro documents storage text inner run nested own
  obtain ⟨hresolve, hselect, hobject, -⟩ :=
    blames_of_globalId (Fetcher.memory documents) "index.json"
  -- Whether failures are equal can be decided, of values it can not.
  have hrun : run.wait = .error (.selfLookupFailed text) :=
    (Outcome.map_eq_error (f := fun _ => ())).1 (by decide +kernel)
  have hnested : nested.wait = .error (.selfLookupFailed text) :=
    (Outcome.map_eq_error (f := fun _ => ())).1 (by decide +kernel)
  have hown : own = EventualResult.ok (.object [("y", .bool true)]) :=
    KeyProjection.select_eq_ok rfl
  refine ⟨⟨hrun, ?_⟩, ⟨hnested, ?_⟩, ?_⟩
  · exact (hresolve _ _ _ hrun).1.exists_of_selfLookupFailed
  · exact (hselect _ _ _ hnested).1.exists_of_selfLookupFailed
  · obtain ⟨selected, hselected⟩ := hobject _ _ _ (congrArg Eventual.wait hown)
    exact ⟨selected, hown.trans (congrArg EventualResult.ok hselected)⟩

end FieldSource

end EntityGraph
