import Mathlib
import EntityGraph.Proofs.Store.Index
import EntityGraph.Resolver

/-!
# What resolving asks for

Resolving a field follows keys into the store, and the keys may be anything: the value of the parent,
the arguments and the id come from whoever asks, and selecting a key goes on with the references it
finds in documents, through arrays and at every level. However far this leads, the only documents
which are asked for are the index and those it leads to (`FieldSource.mayAsk_of_resolve`).
-/

namespace EntityGraph

open Storage (Confined MayAsk confined_andThen confined_andThenResult confined_joinAll confined_log
  confined_entity confined_path?)

variable {fetcher : Fetcher} {indexPath : String}

namespace KeyProjection

section Items

variable {projected : Json → Option Json} {complete : Json → RunResult ResolveError Json}

mutual

theorem confined_selectWith (h : ∀ v, Confined fetcher indexPath [] (complete v).events) :
    ∀ v, Confined fetcher indexPath [] (selectWith projected complete v).events
  | .array items => by
    rw [selectWith]
    split
    · trivial
    · exact confined_joinAll (confined_selectItems h items)
  | .null | .bool _ | .number _ | .string _ | .object _ => by
    simp only [selectWith]
    split
    · trivial
    · exact h _

theorem confined_selectItems (h : ∀ v, Confined fetcher indexPath [] (complete v).events) :
    ∀ items, ∀ e ∈ selectItems projected complete items, Confined fetcher indexPath [] e.events
  | [] => fun _ he => nomatch he
  | v :: rest => by
    rw [selectItems]
    exact List.forall_mem_cons.2 ⟨confined_selectWith h v, confined_selectItems h rest⟩

end

end Items

theorem confined_entityOf (type : String) (v : Json) :
    Confined fetcher indexPath []
      (entityOf ⟨fetcher, Lookup.index indexPath⟩ type v).events :=
  confined_andThen (confined_log ..) fun _ => confined_entity _

mutual

/-- Selecting asks for no document but those the index leads to, from whatever is found on the
    way. -/
theorem confined_select : ∀ (projection : KeyProjection) (v : Json),
    Confined fetcher indexPath []
      (select ⟨fetcher, Lookup.index indexPath⟩ projection v).events
  | .mk type isPrimary fields, v => by
    rw [select]
    refine confined_selectWith (fun v => ?_) v
    split_ifs
    · exact confined_andThenResult (confined_entityOf type v) fun document =>
        confined_joinAll (confined_selectFields fields document)
    · exact confined_joinAll (confined_selectFields fields v.fields)

theorem confined_selectFields : ∀ (fields : List KeyField) (map : Json.Fields),
    ∀ e ∈ selectFields ⟨fetcher, Lookup.index indexPath⟩ fields map,
      Confined fetcher indexPath [] e.events
  | [], _ => fun _ he => nomatch he
  | field :: rest, map => by
    rw [selectFields]
    exact List.forall_mem_cons.2 ⟨confined_selectField field map, confined_selectFields rest map⟩

theorem confined_selectField : ∀ (field : KeyField) (map : Json.Fields),
    Confined fetcher indexPath []
      (selectField ⟨fetcher, Lookup.index indexPath⟩ field map).events
  | .leaf _, _ => trivial
  | .nested _ projection, _ => confined_select projection _

end

end KeyProjection

namespace FieldSource

theorem confined_resolveNode (id : String) :
    Confined fetcher indexPath []
      (resolveNode ⟨fetcher, Lookup.index indexPath⟩ id).events := by
  rw [resolveNode]
  split
  · exact confined_andThen (confined_log ..) fun _ => trivial
  · exact confined_path? _

theorem confined_resolve (source : FieldSource) (p : ResolveParams) :
    Confined fetcher indexPath []
      (resolve ⟨fetcher, Lookup.index indexPath⟩ source p).events := by
  cases source with
  | parentValue => trivial
  | document => exact confined_andThen (confined_log ..) fun _ => confined_entity _
  | globalId key =>
    cases key with
    | none => trivial
    | some projection => exact KeyProjection.confined_select projection _
  | node =>
    rw [resolve]
    split
    · exact confined_resolveNode _
    · trivial
  | byKey type => exact confined_resolveNode _

/-- Whatever is resolved, and whatever values, arguments and ids it is resolved for: each path which
    is asked for is the one of the index, or the index leads to it from a key which was looked up
    before. A fetcher which asks for further documents itself does so while it answers. -/
theorem mayAsk_of_resolve {source : FieldSource} {p : ResolveParams} {before after : List Event}
    {path : String} (h : (resolve ⟨fetcher, Lookup.index indexPath⟩ source p).events =
      before ++ .fetch path :: after) : MayAsk fetcher indexPath before path := by
  have hconfined : Confined fetcher indexPath [] _ := confined_resolve source p
  rw [h] at hconfined
  have hmayAsk := hconfined.mayAsk
  rwa [List.append_nil] at hmayAsk

/-- The id of an entity whose key is found in the document of another one, in an array of its
    document. -/
theorem mayAsk_of_resolve_nested :
    let documents : Documents :=
      [("index.json", "\x7b\"\x7b\\\"__typename\\\":\\\"T\\\",\\\"y\\\":true\x7d\":\"t.json\",
          \"\x7b\\\"__typename\\\":\\\"U\\\",\\\"z\\\":\\\"a\\\"\x7d\":\"u.json\"\x7d"),
        ("t.json", "\x7b\"us\":[null,\x7b\"z\":\"a\"\x7d]\x7d"), ("u.json", "\x7b\"w\":2\x7d")]
    let projection : KeyProjection := .mk "T" true [.nested "us" (.mk "U" true [.leaf "w"])]
    let events := (resolve ⟨Fetcher.memory documents, Lookup.index "index.json"⟩
      (.globalId (some projection)) ⟨.object [("y", .bool true)], [], idField, "T"⟩).events
    events.filterMap Event.fetch? = ["index.json", "t.json", "index.json", "u.json"] ∧
      ∃ before after key, events = before ++ .fetch "u.json" :: after ∧ .lookup key ∈ before ∧
        Lookup.Leads (Fetcher.memory documents) "index.json" key "u.json" := by
  intro documents projection events
  have hfetched : events.filterMap Event.fetch? =
      ["index.json", "t.json", "index.json", "u.json"] := by
    decide +kernel
  have hmem : Event.fetch "u.json" ∈ events := by
    have hpath : "u.json" ∈ events.filterMap Event.fetch? := by
      rw [hfetched]
      decide
    obtain ⟨e, he, hpath⟩ := List.mem_filterMap.1 hpath
    cases e with
    | fetch path => exact Option.some.inj hpath ▸ he
    | _ => cases hpath
  obtain ⟨before, after, hevents⟩ := List.append_of_mem hmem
  obtain hindex | ⟨key, hlookup, hleads⟩ :=
    (mayAsk_of_resolve hevents).of_isQuiet (Fetcher.isQuiet_memory documents)
  · exact absurd hindex (by decide)
  · exact ⟨hfetched, before, after, key, hevents, hlookup, hleads⟩

end FieldSource

end EntityGraph
