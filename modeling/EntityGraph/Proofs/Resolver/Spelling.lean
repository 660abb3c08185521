import Mathlib
import EntityGraph.Proofs.KeyProjection.Carried
import EntityGraph.Proofs.Resolver.ByKey

/-!
# Keys written differently

A node is the key its id is decoded to, as it was decoded: its fields may come in any order, and its
numbers may be written as integers or as decimals. It is the parent of whatever is resolved next, so
how it was written goes on into projections, selections and nested look-ups. None of this can be
told from what is resolved (`FieldSource.resolve_of_canonical_eq`), because an index knows keys by
their canonical text.
-/

namespace EntityGraph

open Json (canonicalFields)

namespace Storage

variable {fetcher : Fetcher} {indexPath : String} {key key' : EntityKey}

/-- An index knows a key by its text. -/
theorem wait_path?_congr (h : EntityKey.encode key = EntityKey.encode key') :
    (path? ⟨fetcher, Lookup.index indexPath⟩ key).wait =
      (path? ⟨fetcher, Lookup.index indexPath⟩ key').wait := by
  simp only [path?, Eventual.wait_andThen, Lookup.index, h]

theorem wait_entity_congr (h : EntityKey.encode key = EntityKey.encode key') :
    (entity ⟨fetcher, Lookup.index indexPath⟩ key).wait =
      (entity ⟨fetcher, Lookup.index indexPath⟩ key').wait := by
  rw [entity, entity, EventualResult.wait_andThen, EventualResult.wait_andThen,
    wait_path?_congr h, h]

theorem carriesEntities_self (failures : Prop) (fetcher : Fetcher) (indexPath : String) :
    CarriesEntities failures ⟨fetcher, Lookup.index indexPath⟩
      ⟨fetcher, Lookup.index indexPath⟩ := by
  intro key key' h
  rw [wait_entity_congr (EntityKey.encode_eq_iff.2 h)]
  exact .refl _

end Storage

namespace FieldSource

variable {failures : Prop} {s s' : Storage}

theorem canonical_idParent_congr {v v' : Json} (h : v.canonical = v'.canonical) :
    (idParent v).canonical = (idParent v').canonical := by
  rw [idParent, idParent, Json.isObject_congr h]
  split_ifs
  · exact h
  · rfl

theorem idOfSelected_congr {v v' : Json} (h : v.canonical = v'.canonical) (type : String) :
    idOfSelected type v = idOfSelected type v' := by
  rw [idOfSelected, idOfSelected, Json.isObject_congr h,
    EntityKey.encode_eq_iff.2 (EntityKey.canonicalFields_ofValue_congr h type)]

/-- The id of a parent carries over to every parent with the same canonical form. -/
theorem carried_globalId (h : s.CarriesEntities failures s') (key : Option KeyProjection)
    {p p' : ResolveParams} (hparent : p.parent.canonical = p'.parent.canonical)
    (htype : p.parentType = p'.parentType) :
    Carried failures id (resolve s (.globalId key) p).wait
      (resolve s' (.globalId key) p').wait := by
  cases key with
  | none =>
    rw [resolve, resolve, resolveId, resolveId, htype,
      EntityKey.encode_eq_iff.2 (EntityKey.canonicalFields_ofValue_congr hparent _)]
    exact .refl _
  | some projection =>
    rw [resolve_globalId, resolve_globalId, htype]
    refine (KeyProjection.carried_select h projection (canonical_idParent_congr hparent)).bind
      fun v v' hv => ?_
    rw [idOfSelected_congr hv]
    exact .refl _

theorem exists_string_of_globalId {key : Option KeyProjection} {p : ResolveParams} {v : Json}
    (h : (resolve s (.globalId key) p).wait = .ok v) : ∃ id, v = .string id := by
  cases key with
  | none => exact ⟨_, (Except.ok.inj h).symm⟩
  | some projection =>
    obtain ⟨map, -, rfl⟩ := wait_globalId_eq_ok.1 h
    exact ⟨_, rfl⟩

/-- Values which only differ in how their numbers are written have one id, or fail alike, and the
    same fields. Texts of ids which stand for such keys find the same node, up to how the numbers
    in it are written. -/
theorem resolve_of_canonical_eq (fetcher : Fetcher) (indexPath : String) :
    let s : Storage := ⟨fetcher, Lookup.index indexPath⟩
    (∀ p p' : ResolveParams, p.parent.canonical = p'.parent.canonical →
      p.parentType = p'.parentType →
        (∀ key,
          (∃ id, (resolve s (.globalId key) p).wait = .ok (.string id) ∧
            (resolve s (.globalId key) p').wait = .ok (.string id)) ∨
          ∃ e, (resolve s (.globalId key) p).wait = .error e ∧
            (resolve s (.globalId key) p').wait = .error e) ∧
        (p.fieldName = p'.fieldName →
          (resolve s .document p).wait = (resolve s .document p').wait)) ∧
    ∀ (q q' : ResolveParams) (id id' : String) (k k' : EntityKey),
      Json.Fields.get? idArgument q.arguments = some (.string id) →
      Json.Fields.get? idArgument q'.arguments = some (.string id') →
      EntityKey.decode? id = some k → EntityKey.decode? id' = some k' →
      canonicalFields k = canonicalFields k' →
        ((resolve s .node q).wait = .ok .null ↔ (resolve s .node q').wait = .ok .null) ∧
        (∀ e, (resolve s .node q).wait = .error e ↔ (resolve s .node q').wait = .error e) ∧
        ∀ w, (resolve s .node q).wait = .ok w → w ≠ .null →
          ∃ map map', w = .object map ∧ (resolve s .node q').wait = .ok (.object map') ∧
            canonicalFields map = canonicalFields map' := by
  intro s
  refine ⟨fun p p' hparent htype => ⟨fun key => ?_, fun hname => ?_⟩,
    fun q q' id id' k k' hid hid' hdecode hdecode' hk => ?_⟩
  · have hsame := (carried_globalId (Storage.carriesEntities_self True fetcher indexPath) key
      hparent htype).map_eq
    rw [Except.map_id] at hsame
    cases hwait : (resolve s (.globalId key) p).wait with
    | error e => exact .inr ⟨e, rfl, hsame.symm.trans hwait⟩
    | ok v =>
      obtain ⟨id, rfl⟩ := exists_string_of_globalId hwait
      exact .inl ⟨id, rfl, hsame.symm.trans hwait⟩
  · rw [wait_resolve_document, wait_resolve_document, hname, htype, Storage.wait_entity_congr
      (EntityKey.encode_eq_iff.2 (EntityKey.canonicalFields_ofValue_congr hparent _))]
  · -- Both ids lead to one path, and the nodes are the keys as they were decoded.
    rw [resolve_node hid, resolve_node hid', wait_resolveNode hdecode, wait_resolveNode hdecode',
      ← Storage.wait_path?_congr (EntityKey.encode_eq_iff.2 hk)]
    cases (s.path? k).wait with
    | error e => simp [Except.map]
    | ok path =>
      cases path with
      | none => simp [Except.map]
      | some path =>
        refine ⟨by simp [Except.map], by simp [Except.map], fun w hw _ => ?_⟩
        exact ⟨k, k', (Except.ok.inj hw).symm, rfl, hk⟩

/-- One entity, its number written as an integer and as a decimal, in its parents and in two ids
    with different white space and another order of fields. -/
theorem resolve_of_canonical_eq_one :
    let documents : Documents :=
      [("index.json", "\x7b\"\x7b\\\"__typename\\\":\\\"T\\\",\\\"x\\\":1\x7d\":\"t.json\"\x7d"),
        ("t.json", "\x7b\"y\":7\x7d")]
    let s : Storage := ⟨Fetcher.memory documents, Lookup.index "index.json"⟩
    let p (n : Number) : ResolveParams := ⟨.object [("x", .number n)], [], "y", "T"⟩
    let q (id : String) : ResolveParams := ⟨.null, [(idArgument, .string id)], nodeField, "Query"⟩
    let whole : Number := .whole ⟨1, by decide⟩
    let decimal : Number := .float ⟨false, 1023, 0⟩
    let source : FieldSource := .globalId (some (.mk "T" true [.leaf "y"]))
    let id : String := "\x7b\"__typename\":\"T\",\"x\":1\x7d"
    let id' : String := " \x7b\"x\": 1e0, \"__typename\": \"T\"\x7d"
    ((resolve s .document (p whole)).wait = (resolve s .document (p decimal)).wait ∧
      ∃ id, (resolve s source (p whole)).wait = .ok (.string id) ∧
        (resolve s source (p decimal)).wait = .ok (.string id)) ∧
    ∃ map map', (resolve s .node (q id)).wait = .ok (.object map) ∧
      (resolve s .node (q id')).wait = .ok (.object map') ∧
      canonicalFields map = canonicalFields map' := by
  intro documents s p q whole decimal source id id'
  obtain ⟨hparents, hids⟩ := resolve_of_canonical_eq (Fetcher.memory documents) "index.json"
  constructor
  · have hcanonical : whole.canonical = decimal.canonical := by decide +kernel
    have hparent : (p whole).parent.canonical = (p decimal).parent.canonical := by
      simp only [p, Json.canonical, canonicalFields, hcanonical]
    obtain ⟨hid, hdocument⟩ := hparents (p whole) (p decimal) hparent rfl
    refine ⟨hdocument rfl, ?_⟩
    obtain hok | ⟨e, he, -⟩ := hid (some (.mk "T" true [.leaf "y"]))
    · exact hok
    · have hfound : (resolve s source (p whole)).wait.toOption.isSome = true := by decide +kernel
      obtain ⟨v, hv⟩ := Outcome.isSome_toOption.1 hfound
      cases he.symm.trans hv
  · obtain ⟨k, hk, htext⟩ : ∃ k, EntityKey.decode? id = some k ∧ EntityKey.encode k = id :=
      Option.map_eq_some_iff.1 (by decide +kernel)
    obtain ⟨k', hk', htext'⟩ : ∃ k', EntityKey.decode? id' = some k' ∧ EntityKey.encode k' = id :=
      Option.map_eq_some_iff.1 (by decide +kernel)
    obtain ⟨-, -, hnode⟩ := hids (q id) (q id') id id' k k' rfl rfl hk hk'
      (EntityKey.encode_eq_iff.1 (htext.trans htext'.symm))
    obtain ⟨w, hw, hobject⟩ : ∃ w, (resolve s .node (q id)).wait.toOption = some w ∧
        w.isObject = true := Option.map_eq_some_iff.1 (by decide +kernel)
    rw [Outcome.toOption_eq_some] at hw
    obtain ⟨map, map', rfl, hmap', hsame⟩ := hnode w hw (by rintro rfl; cases hobject)
    exact ⟨map, map', hw, hmap', hsame⟩

end FieldSource

end EntityGraph
