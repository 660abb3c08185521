import Mathlib
import EntityGraph.Proofs.Resolver.Spelling
import EntityGraph.Proofs.Store.Index

/-!
# Stores which grow

A store grows by further documents and by further entries of its index. What was found before is
found again (`FieldSource.resolve_of_growsTo`): a selection which comes to a value has read entries
and documents on its way, at every level, but has never made use of one which was not there.
Failures may go away. So the argument follows values only, and the entities of the store carry over
without its failures.
-/

namespace EntityGraph

namespace Documents

/-- The document at the path of the index is an object. -/
def HasIndex (documents : Documents) (indexPath : String) (index : Json.Fields) : Prop :=
  ∃ content, documents.lookup indexPath = some content ∧ Json.read? content = some (.object index)

/-- The second store has what the first one has, and its index leads to it. Entries of the first
    index which are no paths may become anything, as may the index if it was none. -/
structure GrowsTo (documents documents' : Documents) (indexPath : String) : Prop where
  document : ∀ path content, path ≠ indexPath → documents.lookup path = some content →
    documents'.lookup path = some content
  index : ∃ index', documents'.HasIndex indexPath index' ∧
    ∀ index, documents.HasIndex indexPath index → ∀ key path,
      Json.Fields.get? key index = some (.string path) →
        Json.Fields.get? key index' = some (.string path)
  /-- The index does not lead to itself, as it is the one document which changes. -/
  apart : ∀ index, documents.HasIndex indexPath index → ∀ key,
    Json.Fields.get? key index ≠ some (.string indexPath)

end Documents

theorem Fetcher.wait_fetch_memory {documents : Documents} {path content : String} :
    ((memory documents).fetch path).wait = .ok content ↔ documents.lookup path = some content := by
  rw [fetch, Eventual.wait_andThen, memory, Eventual.wait_andThen]
  cases documents.lookup path with
  | none => simp [EventualResult.fail, Eventual.pure]
  | some found => simp [EventualResult.ok, Eventual.pure]

namespace Storage

variable {documents documents' : Documents} {indexPath : String} {key : EntityKey} {path : String}

/-- A path is found exactly if the index has it. -/
theorem wait_path?_memory :
    (path? ⟨Fetcher.memory documents, Lookup.index indexPath⟩ key).wait = .ok (some path) ↔
      ∃ index, documents.HasIndex indexPath index ∧
        Json.Fields.get? (EntityKey.encode key) index = some (.string path) := by
  rw [path?, Eventual.wait_andThen]
  change (Lookup.index indexPath key (Fetcher.memory documents)).wait = .ok (some path) ↔ _
  rw [Lookup.index, EventualResult.wait_andThen, Outcome.bind_eq_ok]
  constructor
  · rintro ⟨content, hcontent, h⟩
    obtain ⟨index, hread, hpath⟩ := findPath_eq_some h
    have hlookup := Fetcher.wait_fetch_memory.1 (Outcome.mapError_eq_ok.1 hcontent)
    exact ⟨index, ⟨content, hlookup, hread⟩, hpath⟩
  · rintro ⟨index, ⟨content, hcontent, hread⟩, hpath⟩
    refine ⟨content, Outcome.mapError_eq_ok.2 (Fetcher.wait_fetch_memory.2 hcontent), ?_⟩
    simp only [Lookup.findPath, hread, hpath, Eventual.wait_andThen]
    rfl

/-- What was found before is found at the same path, which is not that of the index. -/
theorem wait_path?_of_growsTo (h : documents.GrowsTo documents' indexPath)
    (hpath : (path? ⟨Fetcher.memory documents, Lookup.index indexPath⟩ key).wait =
      .ok (some path)) :
    path ≠ indexPath ∧
      (path? ⟨Fetcher.memory documents', Lookup.index indexPath⟩ key).wait = .ok (some path) := by
  obtain ⟨index, hindex, hentry⟩ := wait_path?_memory.1 hpath
  obtain ⟨index', hindex', hkept⟩ := h.index
  refine ⟨?_, wait_path?_memory.2 ⟨index', hindex', hkept index hindex _ _ hentry⟩⟩
  rintro rfl
  exact h.apart index hindex _ hentry

theorem wait_entity_of_growsTo (h : documents.GrowsTo documents' indexPath)
    {document : Json.Fields}
    (hentity : (entity ⟨Fetcher.memory documents, Lookup.index indexPath⟩ key).wait =
      .ok document) :
    (entity ⟨Fetcher.memory documents', Lookup.index indexPath⟩ key).wait = .ok document := by
  obtain ⟨path, content, hpath, hcontent, hdocument⟩ := wait_entity_eq_ok.1 hentity
  obtain ⟨hne, hpath'⟩ := wait_path?_of_growsTo h hpath
  have hlookup := h.document path content hne (Fetcher.wait_fetch_memory.1 hcontent)
  exact wait_entity_eq_ok.2
    ⟨path, content, hpath', Fetcher.wait_fetch_memory.2 hlookup, hdocument⟩

/-- Failures do not carry over: what could not be found may have been added. -/
theorem carriesEntities_of_growsTo (h : documents.GrowsTo documents' indexPath) :
    CarriesEntities False ⟨Fetcher.memory documents, Lookup.index indexPath⟩
      ⟨Fetcher.memory documents', Lookup.index indexPath⟩ := by
  refine fun key key' hkey => .of_eq_ok fun document hdocument => ⟨document, ?_, rfl⟩
  rw [← wait_entity_congr (EntityKey.encode_eq_iff.2 hkey)]
  exact wait_entity_of_growsTo h hdocument

end Storage

namespace FieldSource

variable {documents documents' : Documents} {indexPath : String}

theorem wait_resolveNode_of_growsTo (h : documents.GrowsTo documents' indexPath) {id : String}
    {map : Json.Fields}
    (hnode : (resolveNode ⟨Fetcher.memory documents, Lookup.index indexPath⟩ id).wait =
      .ok (.object map)) :
    (resolveNode ⟨Fetcher.memory documents', Lookup.index indexPath⟩ id).wait =
      .ok (.object map) := by
  obtain ⟨hdecode, path, hpath⟩ := wait_resolveNode_eq_object.1 hnode
  exact wait_resolveNode_eq_object.2 ⟨hdecode, path, (Storage.wait_path?_of_growsTo h hpath).2⟩

/-- What is resolved over a store is resolved over every store it grows to: fields and ids to the
    same values, and nodes, by their ids or by the fields of their keys, to the same objects. -/
theorem resolve_of_growsTo (h : documents.GrowsTo documents' indexPath) (p : ResolveParams) :
    let s : Storage := ⟨Fetcher.memory documents, Lookup.index indexPath⟩
    let s' : Storage := ⟨Fetcher.memory documents', Lookup.index indexPath⟩
    (∀ source v, (source = .document ∨ ∃ key, source = .globalId key) →
      (resolve s source p).wait = .ok v → (resolve s' source p).wait = .ok v) ∧
    ∀ source map, (source = .node ∨ ∃ type, source = .byKey type) →
      (resolve s source p).wait = .ok (.object map) →
        (resolve s' source p).wait = .ok (.object map) := by
  intro s s'
  constructor
  · rintro source v (rfl | ⟨key, rfl⟩) hv
    · rw [wait_resolve_document, Outcome.map_eq_ok] at hv ⊢
      obtain ⟨document, hdocument, hv⟩ := hv
      exact ⟨document, Storage.wait_entity_of_growsTo h hdocument, hv⟩
    · have hcarried : Carried False id (resolve s (.globalId key) p).wait
          (resolve s' (.globalId key) p).wait :=
        carried_globalId (Storage.carriesEntities_of_growsTo h) key rfl rfl
      obtain ⟨v', hv', rfl⟩ := hcarried.exists_eq_ok hv
      exact hv'
  · rintro source map (rfl | ⟨type, rfl⟩) hmap
    · rw [resolve] at hmap ⊢
      split at hmap
      · exact wait_resolveNode_of_growsTo h hmap
      · cases hmap
    · exact wait_resolveNode_of_growsTo h hmap

/-- The id of an entity and its node, before and after another entity gets a document in place of
    `null`. -/
theorem resolve_of_growsTo_added :
    let yes : String := "\x7b\"__typename\":\"T\",\"y\":true\x7d"
    let no : String := "\x7b\"__typename\":\"T\",\"y\":false\x7d"
    let index (added : Json) : String :=
      Json.compact (.object [(no, added), (yes, .string "t.json")])
    let documents : Documents := [("index.json", index .null), ("t.json", "\x7b\"x\":7\x7d")]
    let documents' : Documents :=
      [("index.json", index (.string "u.json")), ("t.json", "\x7b\"x\":7\x7d"),
        ("u.json", "\x7b\x7d")]
    let s : Storage := ⟨Fetcher.memory documents, Lookup.index "index.json"⟩
    let s' : Storage := ⟨Fetcher.memory documents', Lookup.index "index.json"⟩
    let p : ResolveParams :=
      ⟨.object [("y", .bool true)], [(idArgument, .string yes)], idField, "T"⟩
    let source : FieldSource := .globalId (some (.mk "T" true [.leaf "x"]))
    documents.GrowsTo documents' "index.json" ∧
      (∃ id, (resolve s source p).wait = .ok id ∧ (resolve s' source p).wait = .ok id) ∧
      ∃ map, (resolve s .node p).wait = .ok (.object map) ∧
        (resolve s' .node p).wait = .ok (.object map) := by
  intro yes no index documents documents' s s' p source
  have hread (added : Json) (hordered : added.Ordered) (hdepth : added.depth ≤ 0)
      (hnumbers : added.numbers = []) : Json.read? (index added) =
        some (.object [(no, added), (yes, .string "t.json")]) := by
    have hlt : no < yes := by decide
    refine (Json.read?_compact _).trans
      (Json.reread_eq_self ?_ ⟨List.pairwise_pair.2 hlt, hordered, trivial, trivial⟩ ?_)
    · simp [Json.depth, Json.depthFields, Json.maxDepth, Nat.le_zero.1 hdepth]
    · simp [Json.numbers, Json.fieldNumbers, hnumbers]
  have hindex (found : Json.Fields) (h : documents.HasIndex "index.json" found) :
      found = [(no, .null), (yes, .string "t.json")] := by
    obtain ⟨content, hcontent, hfound⟩ := h
    obtain rfl := Option.some.inj hcontent
    rw [hread .null trivial le_rfl rfl] at hfound
    exact (Json.object.inj (Option.some.inj hfound)).symm
  -- The only path of the first index is that of the entity which is found.
  have hentry (found : Json.Fields) (hfound : documents.HasIndex "index.json" found)
      (key path : String) (h : Json.Fields.get? key found = some (.string path)) :
      key = yes ∧ path = "t.json" := by
    rw [hindex found hfound, Json.Fields.get?, Json.Fields.get?, Json.Fields.get?] at h
    split_ifs at h with hno hyes
    · cases h
    · exact ⟨hyes, (Json.string.inj (Option.some.inj h)).symm⟩
  have hgrows : documents.GrowsTo documents' "index.json" := by
    refine ⟨fun path content hne h => ?_,
      ⟨_, ⟨_, rfl, hread (.string "u.json") trivial le_rfl rfl⟩, fun found hfound key path h => ?_⟩,
      fun found hfound key h => ?_⟩
    · by_cases hpath : path = "t.json"
      · subst hpath
        simpa [documents, documents', List.lookup] using h
      · simp [documents, List.lookup, beq_false_of_ne hne, beq_false_of_ne hpath] at h
    · obtain ⟨rfl, rfl⟩ := hentry found hfound key path h
      rfl
    · exact absurd (hentry found hfound key _ h).2 (by decide)
  obtain ⟨hvalue, hobject⟩ := resolve_of_growsTo hgrows p
  refine ⟨hgrows, ?_, ?_⟩
  · obtain ⟨id, hid⟩ := Outcome.isSome_toOption.1
      (show (resolve s source p).wait.toOption.isSome = true by decide +kernel)
    exact ⟨id, hid, hvalue source id (.inr ⟨_, rfl⟩) hid⟩
  · obtain ⟨w, hw, hmap⟩ : ∃ w, (resolve s .node p).wait.toOption = some w ∧ w.isObject = true :=
      Option.map_eq_some_iff.1 (by decide +kernel)
    rw [Outcome.toOption_eq_some] at hw
    cases w with
    | object map => exact ⟨map, hw, hobject .node map (.inl rfl) hw⟩
    | _ => cases hmap

end FieldSource

end EntityGraph
