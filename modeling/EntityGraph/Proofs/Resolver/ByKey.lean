import Mathlib
import EntityGraph.Proofs.GlobalId
import EntityGraph.Proofs.Resolver.Answers

/-!
# Entities found by their keys

An entity is found by its id, or by arguments which make up one of its keys, and its fields are
read from the document which a key leads to. All of this comes down to looking up one key
(`FieldSource.resolve_byKey_node_document`).

* Looking up by arguments is looking up the id which is the encoded key, so the key which is looked
  up is the canonical one if its doubles read back, and another one otherwise.
* The fields of a node are read with the key which the node was found by. So its path is known, and
  reading a field only fails if the document at this path can not be had or is no object.
-/

namespace EntityGraph

open Json (canonicalFields)

namespace EntityKey

/-- An encoded key whose doubles read back is decoded to the canonical key. -/
theorem decode?_encode_of_readsBack {key : EntityKey} (ho : Json.Fields.Ordered key)
    (hd : (Json.object key).depth ≤ Json.maxDepth) (hback : (Json.object key).ReadsBack) :
    decode? (encode key) = some (canonicalFields key) := by
  rw [decode?, encode, Json.read?_canonicalText_of_readsBack ho hd hback, Json.canonical]

theorem ordered_of_decode? {id : String} {key : EntityKey} (h : decode? id = some key) :
    Json.Fields.Ordered key := by
  rw [decode?] at h
  split at h
  · next fields hread =>
    obtain rfl := Option.some.inj h
    exact Json.ordered_of_read? hread
  · cases h

theorem ordered_ofValue {map : Json.Fields} (ho : Json.Fields.Ordered map) (type : String) :
    Json.Fields.Ordered (ofValue (.object map) type) := ho.insert _ trivial

/-- A key is the key of an object which names its type. -/
theorem ofValue_eq_self {key : EntityKey} (ho : Json.Fields.Ordered key) {type : String}
    (htype : Json.Fields.get? typenameField key = some (.string type)) :
    ofValue (.object key) type = key :=
  Json.Fields.insert_eq_self ho.1 htype

end EntityKey

namespace Storage

/-- What becomes of reading the document at a path. -/
def documentAt (s : Storage) (path : String) : Except ResolveError Json.Fields :=
  (s.fetcher.fetch path).wait.mapError .fetch >>= parseDocument path

theorem wait_entity {s : Storage} {key : EntityKey} {path : String}
    (hpath : (s.path? key).wait = .ok (some path)) : (s.entity key).wait = s.documentAt path := by
  rw [entity, EventualResult.wait_andThen, hpath]
  exact EventualResult.wait_andThen _ _

/-- A document can not be had, or it is no object. -/
theorem documentAt_eq_error {s : Storage} {path : String} {e : ResolveError}
    (h : s.documentAt path = .error e) :
    (∃ fault, (s.fetcher.fetch path).wait = .error fault ∧ e = .fetch fault) ∨
      e = .invalidDocument path := by
  rw [documentAt] at h
  cases hfetch : (s.fetcher.fetch path).wait with
  | error fault =>
    rw [hfetch] at h
    exact .inl ⟨fault, rfl, (Except.error.inj h).symm⟩
  | ok content =>
    rw [hfetch] at h
    change parseDocument path content = .error e at h
    rw [parseDocument] at h
    split at h
    · cases h
    · exact .inr (Except.error.inj h).symm

end Storage

namespace FieldSource

variable {s : Storage}

/-- A node is the key its id is decoded to, if this key has a path. -/
theorem wait_resolveNode {id : String} {key : EntityKey} (h : EntityKey.decode? id = some key) :
    (resolveNode s id).wait =
      (s.path? key).wait.map fun path => if path.isSome then .object key else .null := by
  simp only [resolveNode, h, Eventual.wait_map]
  congr 1
  funext path
  cases path <;> rfl

theorem resolve_node {q : ResolveParams} {id : String}
    (hid : Json.Fields.get? idArgument q.arguments = some (.string id)) :
    resolve s .node q = resolveNode s id := by
  rw [resolve, hid]

theorem wait_resolveNode_eq_object {id : String} {key : EntityKey} :
    (resolveNode s id).wait = .ok (.object key) ↔ EntityKey.decode? id = some key ∧
      ∃ path, (s.path? key).wait = .ok (some path) := by
  cases hdecode : EntityKey.decode? id with
  | none =>
    refine iff_of_false (fun h => ?_) (fun h => nomatch h.1)
    rw [resolveNode, hdecode] at h
    cases h
  | some decoded =>
    rw [wait_resolveNode hdecode, Outcome.map_eq_ok]
    constructor
    · rintro ⟨path, hpath, h⟩
      cases path with
      | none => cases h
      | some path =>
        obtain rfl := Json.object.inj h
        exact ⟨rfl, path, hpath⟩
    · rintro ⟨h, path, hpath⟩
      obtain rfl := Option.some.inj h
      exact ⟨some path, hpath, rfl⟩

theorem lookups_resolve_node {q : ResolveParams} {id : String} {key : EntityKey}
    (hid : Json.Fields.get? idArgument q.arguments = some (.string id))
    (hkey : EntityKey.decode? id = some key) :
    (issued s .node q).filterMap Event.lookup? = [key] := by
  rw [issued, resolve_node hid, resolveNode, hkey]
  simp only [Eventual.events_map, Storage.events_path?_silent]
  rfl

theorem lookups_resolve_document (s : Storage) (p : ResolveParams) :
    (issued s .document p).filterMap Event.lookup? =
      [EntityKey.ofValue p.parent p.parentType] := by
  rw [issued, resolve, resolveDocument, Eventual.events_andThen]
  simp only [Eventual.events_map, Storage.events_entity_silent]
  split <;> rfl

theorem wait_resolve_document (s : Storage) (p : ResolveParams) :
    (resolve s .document p).wait =
      (s.entity (EntityKey.ofValue p.parent p.parentType)).wait.map
        fun document => (Json.Fields.get? p.fieldName document).getD .null := by
  rw [resolve, resolveDocument, Eventual.wait_andThen]
  rfl

/-! ### One key -/

/-- What arguments find is what the id finds which they make up. If the doubles in it read back,
    this is the canonical key, and otherwise it is never the canonical key. -/
theorem wait_resolve_byKey {type : String} {p : ResolveParams}
    (ho : Json.Fields.Ordered p.arguments)
    (hd : (Json.object (EntityKey.ofValue (.object p.arguments) type)).depth ≤ Json.maxDepth) :
    let k := canonicalFields (EntityKey.ofValue (.object p.arguments) type)
    ((Json.object k).ReadsBack → (resolve s (.byKey type) p).wait =
      (s.path? k).wait.map fun path => if path.isSome then .object k else .null) ∧
    (¬ (Json.object k).ReadsBack → (resolve s (.byKey type) p).wait ≠ .ok (.object k)) := by
  intro k
  have hordered := EntityKey.ordered_ofValue ho type
  have hencode : EntityKey.encode k = EntityKey.encode _ := EntityKey.encode_canonicalFields _
  rw [EntityKey.readsBack_congr hencode]
  constructor
  · intro hback
    exact wait_resolveNode (EntityKey.decode?_encode_of_readsBack hordered hd hback)
  · intro hback h
    obtain ⟨hdecode, -⟩ := wait_resolveNode_eq_object.1 h
    exact hback ((EntityKey.decode?_encode hordered hdecode).2.1 hencode)

/-- The fields of a node are read with the key which the node was found by. -/
theorem wait_resolve_document_of_node {q r : ResolveParams} {id type : String} {w : Json}
    (hid : Json.Fields.get? idArgument q.arguments = some (.string id))
    (hnode : (resolve s .node q).wait = .ok w)
    (htype : w.field? typenameField = some (.string type))
    (hparent : r.parent = w) (hparentType : r.parentType = type) :
    ∃ key path, EntityKey.decode? id = some key ∧ (s.path? key).wait = .ok (some path) ∧
      (issued s .node q).filterMap Event.lookup? = [key] ∧
      (issued s .document r).filterMap Event.lookup? = [key] ∧
      (resolve s .document r).wait = (s.documentAt path).map
        fun document => (Json.Fields.get? r.fieldName document).getD .null := by
  have hobject : ∃ key, w = .object key := by
    cases w with
    | object key => exact ⟨key, rfl⟩
    | _ => cases htype
  obtain ⟨key, rfl⟩ := hobject
  have hnode' := hnode
  rw [resolve_node hid] at hnode'
  obtain ⟨hdecode, path, hpath⟩ := wait_resolveNode_eq_object.1 hnode'
  have hkey : EntityKey.ofValue r.parent r.parentType = key := by
    rw [hparent, hparentType]
    exact EntityKey.ofValue_eq_self (EntityKey.ordered_of_decode? hdecode) htype
  refine ⟨key, path, hdecode, hpath, lookups_resolve_node hid hdecode, ?_, ?_⟩
  · rw [lookups_resolve_document, hkey]
  · rw [wait_resolve_document, hkey, Storage.wait_entity hpath]

/-- Looking up an entity by arguments, by its id, and for its fields is looking up one key. -/
theorem resolve_byKey_node_document (s : Storage) :
    (∀ (type : String) (p : ResolveParams), Json.Fields.Ordered p.arguments →
      (Json.object (EntityKey.ofValue (.object p.arguments) type)).depth ≤ Json.maxDepth →
        let k := canonicalFields (EntityKey.ofValue (.object p.arguments) type)
        (∀ q : ResolveParams,
          Json.Fields.get? idArgument q.arguments = some (.string (EntityKey.encode k)) →
            resolve s .node q = resolve s (.byKey type) p) ∧
        ((Json.object k).ReadsBack → (resolve s (.byKey type) p).wait =
          (s.path? k).wait.map fun path => if path.isSome then .object k else .null) ∧
        (¬ (Json.object k).ReadsBack → (resolve s (.byKey type) p).wait ≠ .ok (.object k))) ∧
    ∀ (q r : ResolveParams) (id type : String) (w : Json),
      Json.Fields.get? idArgument q.arguments = some (.string id) →
      (resolve s .node q).wait = .ok w → w.field? typenameField = some (.string type) →
      r.parent = w → r.parentType = type →
        ∃ key path, EntityKey.decode? id = some key ∧ (s.path? key).wait = .ok (some path) ∧
          (issued s .node q).filterMap Event.lookup? = [key] ∧
          (issued s .document r).filterMap Event.lookup? = [key] ∧
          (resolve s .document r).wait = (s.documentAt path).map
            (fun document => (Json.Fields.get? r.fieldName document).getD .null) ∧
          ∀ e, (resolve s .document r).wait = .error e →
            (∃ fault, (s.fetcher.fetch path).wait = .error fault ∧ e = .fetch fault) ∨
              e = .invalidDocument path := by
  refine ⟨fun type p ho hd => ⟨fun q hq => ?_, wait_resolve_byKey ho hd⟩,
    fun q r id type w hid hnode htype hparent hparentType => ?_⟩
  · rw [resolve_node hq, EntityKey.encode_canonicalFields, resolve]
  · obtain ⟨key, path, hdecode, hpath, hlookups, hlookups', hfield⟩ :=
      wait_resolve_document_of_node hid hnode htype hparent hparentType
    refine ⟨key, path, hdecode, hpath, hlookups, hlookups', hfield, fun e he => ?_⟩
    rw [hfield, Outcome.map_eq_error] at he
    exact Storage.documentAt_eq_error he

/-- A number which reads back is found, and the fields of what it finds are read. One which does
    not read back is not found, although there is a path for its key. -/
theorem resolve_byKey_node_document_number :
    let s := Sample.storage (Json.compact (.object [("y", .bool true)]))
    let p (d : Double) : ResolveParams := ⟨.null, [("x", .number (.float d))], "tByX", "Query"⟩
    let k (d : Double) := canonicalFields (EntityKey.ofValue (.object (p d).arguments) "T")
    let rating : Double := ⟨false, 1025, 0xE000000000000⟩
    ((resolve s (.byKey "T") (p rating)).wait = .ok (.object (k rating)) ∧
      (resolve s .document ⟨.object (k rating), [], "y", "T"⟩).wait = .ok (.bool true)) ∧
    (resolve s (.byKey "T") (p Sample.lossy)).wait ≠ .ok (.object (k Sample.lossy)) := by
  intro s p k rating
  have hordered (d : Double) : Json.Fields.Ordered (p d).arguments :=
    ⟨List.pairwise_singleton _ _, trivial, trivial⟩
  have hdepth (d : Double) :
      (Json.object (EntityKey.ofValue (.object (p d).arguments) "T")).depth ≤ Json.maxDepth :=
    show 1 ≤ Json.maxDepth by decide
  have hencode (d : Double) : EntityKey.encode (k d) = EntityKey.encode (Sample.key d) :=
    EntityKey.encode_canonicalFields _
  have hback : (Json.object (k rating)).ReadsBack := by
    have hcanonical : (Number.float rating).canonical = .float rating := by decide +kernel
    rw [EntityKey.readsBack_congr (hencode rating)]
    intro d hd
    obtain rfl : d = rating := by
      simpa [Sample.key, Json.canonical, Json.canonicalFields, Json.numbers, Json.fieldNumbers,
        hcanonical] using hd
    decide +kernel
  have hlossy : ¬ (Json.object (k Sample.lossy)).ReadsBack := by
    rw [EntityKey.readsBack_congr (hencode Sample.lossy)]
    exact Sample.not_readsBack_key_lossy
  obtain ⟨hbyKey, hdocument⟩ := resolve_byKey_node_document s
  obtain ⟨hsame, hfound, -⟩ := hbyKey "T" (p rating) (hordered rating) (hdepth rating)
  have hnode : (resolve s .node ⟨.null, [(idArgument, .string (EntityKey.encode (k rating)))],
      nodeField, "Query"⟩).wait = .ok (.object (k rating)) := by
    rw [hsame _ rfl, hfound hback]
    rfl
  obtain ⟨key, path, -, hpath, -, -, hfield, -⟩ := hdocument _
    ⟨.object (k rating), [], "y", "T"⟩ _ "T" _ rfl hnode rfl rfl rfl
  have hcontent : s.documentAt path = .ok [("y", .bool true)] := by
    change Storage.parseDocument path _ = _
    rw [Storage.parseDocument, Json.read?_compact]
    rfl
  refine ⟨⟨by rw [hfound hback]; rfl, by rw [hfield, hcontent]; rfl⟩, ?_⟩
  exact (hbyKey "T" (p Sample.lossy) (hordered _) (hdepth _)).2.2 hlossy

end FieldSource

end EntityGraph
