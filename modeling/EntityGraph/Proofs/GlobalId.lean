import Mathlib
import EntityGraph.Proofs.Key
import EntityGraph.Proofs.KeyProjection.Select
import EntityGraph.Resolver
import EntityGraph.Schema.Assembly

/-!
# Global ids

The global id of an entity is the encoded key of what the first key of its type selects. A node is
the key which its id is decoded to, so it has all fields of the first key and its id is there right
away, whatever the entity was reached from.

* The id of a node is the id it was found by exactly if the doubles in that id read back
  (`resolve_globalId_of_node`). Numbers are all that can be lost on the way: what was selected is
  settled, and decoding touches nothing else.
* An entity has one id, whichever of its keys it was reached by (`resolve_globalId_of_document`): a
  value with all fields of the first key has what its document has, and a value without takes them
  from there.
-/

namespace EntityGraph

open FieldSource (resolve)
open KeyProjection (EachOnce EveryBelow NotPrimary)

/-- The first key of a declared type, and its projection. -/
structure FirstKey (ts : TypeSystem) (t : SourceType) (key : KeyDeclaration)
    (projection : KeyProjection) : Prop where
  declared : ts.get? t.name = some t
  first : ∃ others, ts.keysOf? t = some (key :: others)
  resolved : KeyProjection.ofSelection ts t.name key.selection = .ok projection

namespace FirstKey

variable {ts : TypeSystem} {t : SourceType} {key : KeyDeclaration} {projection : KeyProjection}

/-- The projection is the one which the ids of the type are defined with. -/
theorem of_objectDefinition {isRoot : Bool} (hdeclared : ts.get? t.name = some t)
    (h : Assembly.objectDefinition ts t = .ok (.object t (some projection) isRoot)) :
    ∃ key, FirstKey ts t key projection := by
  rw [Assembly.objectDefinition] at h
  split at h
  · next key hkey =>
    obtain ⟨projection', hresolved, h⟩ := Outcome.bind_eq_ok.1 h
    cases h
    refine ⟨key, hdeclared, ?_, hresolved⟩
    cases hkeys : ts.keysOf? t with
    | none => simp [hkeys] at hkey
    | some keys =>
      rw [hkeys, Option.getD_some] at hkey
      obtain ⟨others, rfl⟩ := List.head?_eq_some_iff.1 hkey
      exact ⟨others, rfl⟩
  · cases h

theorem eq_mk (h : FirstKey ts t key projection) :
    ∃ fields, projection = .mk t.name true fields := by
  obtain ⟨others, hkeys⟩ := h.first
  obtain ⟨t', fields, ht', -, rfl⟩ := KeyProjection.ofSelection_eq_ok h.resolved
  obtain rfl := Option.some.inj (h.declared.symm.trans ht')
  rw [TypeSystem.keysOf?] at hkeys
  split_ifs at hkeys with hprimary
  exact ⟨fields, by rw [hprimary]⟩

end FirstKey

namespace Sample

/-- A type with a number as its key. -/
def type : SourceType :=
  ⟨"T", none, .object [] [⟨"x", none, .nonNull (.named "Float"), []⟩], [⟨"x", [.leaf "x"]⟩], false⟩

def types : TypeSystem := ⟨[type], TypeSystem.defaultQueryType⟩

def projection : KeyProjection := .mk "T" true [.leaf "x"]

theorem eachOnce : SelectionTree.EveryLayer SelectionTree.EachOnce [.leaf "x"] :=
  ⟨List.nodup_singleton _, ⟨List.nodup_nil, trivial⟩, trivial⟩

theorem avoids : SelectionTree.EveryLayer (SelectionTree.Avoids typenameField) [.leaf "x"] :=
  ⟨show typenameField ∉ ["x"] by decide, ⟨List.not_mem_nil, trivial⟩, trivial⟩

theorem firstKey : FirstKey types type ⟨"x", [.leaf "x"]⟩ projection := ⟨rfl, ⟨[], rfl⟩, rfl⟩

/-- One document for all entities. -/
def storage (content : String) : Storage :=
  ⟨⟨fun _ => EventualResult.ok content⟩, fun _ _ => EventualResult.ok (some "t.json")⟩

/-- The key of an entity whose number is a double. -/
def key (d : Double) : EntityKey := [(typenameField, .string "T"), ("x", .number (.float d))]

/-- The double written as `98.48836649997087`. -/
def lossy : Double := ⟨false, ⟨1029, by decide⟩, ⟨2426903039341967, by decide⟩⟩

/-- The next larger one, which it is read as. -/
def raised : Double := ⟨false, ⟨1029, by decide⟩, ⟨2426903039341968, by decide⟩⟩

theorem canonical_lossy : (Number.float lossy).canonical = .float lossy := by decide +kernel

theorem number?_lossy : (Number.float lossy).numeral.number? = some (.float raised) := by
  decide +kernel

theorem decode?_key_lossy :
    EntityKey.decode? (EntityKey.encode (key lossy)) = some (key raised) := by
  rw [EntityKey.decode?, EntityKey.encode, Json.read?_canonicalText]
  simp only [key, Json.canonical, Json.canonicalFields, canonical_lossy, Json.reread,
    Json.rereadFields, Json.maxDepth, number?_lossy, Option.map_some, Option.bind_some]
  rfl

theorem not_readsBack_key_lossy : ¬ (Json.object (key lossy)).ReadsBack := by
  intro h
  have hmem : Number.float lossy ∈ Json.numbers (Json.object (key lossy)).canonical := by
    simp [key, Json.canonical, Json.canonicalFields, canonical_lossy, Json.numbers,
      Json.fieldNumbers]
  exact absurd (h lossy hmem) (by decide +kernel)

end Sample

namespace FieldSource

variable {storage : Storage} {projection : KeyProjection}

/-- The value an id is selected from: the parent, or an empty object if the parent is none. -/
def idParent (parent : Json) : Json := if parent.isObject then parent else .object []

@[simp]
theorem idParent_object (map : Json.Fields) : idParent (.object map) = .object map := rfl

theorem resolve_globalId (p : ResolveParams) :
    resolve storage (.globalId (some projection)) p =
      Eventual.map (fun selected => selected.bind (idOfSelected p.parentType))
        (projection.select storage (idParent p.parent)) := rfl

theorem idOfSelected_object (type : String) (map : Json.Fields) :
    idOfSelected type (.object map) = .ok (.string
      (EntityKey.encode (Json.Fields.insert typenameField (.string type) map))) := rfl

/-- An id is the encoded key of a selected object. -/
theorem wait_globalId_eq_ok {p : ResolveParams} {v : Json} :
    (resolve storage (.globalId (some projection)) p).wait = .ok v ↔
      ∃ map, (projection.select storage (idParent p.parent)).wait = .ok (.object map) ∧
        v = .string (EntityKey.encode
          (Json.Fields.insert typenameField (.string p.parentType) map)) := by
  rw [resolve_globalId]
  constructor
  · intro h
    obtain ⟨selected, hselected, h⟩ := Outcome.bind_eq_ok.1 h
    cases selected with
    | object map =>
      rw [idOfSelected_object] at h
      exact ⟨map, hselected, (Except.ok.inj h).symm⟩
    | _ => cases h
  · rintro ⟨map, hselected, rfl⟩
    exact Outcome.bind_eq_ok.2 ⟨.object map, hselected, rfl⟩

/-- A node is the key its id is decoded to. -/
theorem wait_node {p : ResolveParams} {id : String} {w : Json}
    (hid : Json.Fields.get? idArgument p.arguments = some (.string id))
    (h : (resolve storage .node p).wait = .ok w) (hw : w ≠ .null) :
    ∃ key, EntityKey.decode? id = some key ∧ w = .object key := by
  rw [resolve, hid] at h
  simp only [resolveNode] at h
  split at h
  · exact absurd (Except.ok.inj h).symm hw
  · next key hdecode =>
    refine ⟨key, hdecode, ?_⟩
    obtain ⟨path, -, rfl⟩ := Outcome.map_eq_ok.1 h
    cases path with
    | none => exact absurd rfl hw
    | some path => rfl

/-! ### From an id to its node and back -/

theorem ordered_idParent {parent : Json} (ho : parent.Ordered) : (idParent parent).Ordered := by
  rw [idParent]
  split_ifs
  · exact ho
  · exact Json.Fields.ordered_nil

/-- What is selected for an id is selected again from the key which the id is decoded to, as it
    was decoded. -/
theorem project_decoded {type : String} {map key : Json.Fields}
    (hsettled : projection.Settled (.object map)) (havoids : typenameField ∉ projection.names)
    (hdecode : EntityKey.decode? (EntityKey.encode
      (Json.Fields.insert typenameField (.string type) map)) = some key) :
    ∃ map', projection.project (.object key) = some (.object map') ∧
      key = Json.Fields.insert typenameField (.string type) map' := by
  have ho : Json.Fields.Ordered (Json.Fields.insert typenameField (.string type) map) :=
    Json.Fields.Ordered.insert hsettled.ordered _ trivial
  obtain ⟨hkey, -⟩ := EntityKey.decode?_encode ho hdecode
  rw [Json.mapFields_insert, Json.mapNumbers_string] at hkey
  refine ⟨Json.mapFields (Number.reread ∘ Number.canonical) map, ?_, hkey⟩
  have hproject := KeyProjection.project_mapNumbers (Number.reread ∘ Number.canonical) projection
    (.object map)
  rw [hsettled.project, Option.map_some, Json.mapNumbers] at hproject
  rw [← hproject]
  refine KeyProjection.project_congr fun name hname => ?_
  have hne : name ≠ typenameField := fun heq => havoids (heq ▸ hname)
  rw [hkey, Json.Fields.get?_insert, if_neg hne]

/-- The id of the node of an id is there without any event. It is the same id exactly if the
    doubles in it read back. -/
theorem resolve_globalId_of_node {ts : TypeSystem} {t : SourceType} {key : KeyDeclaration}
    (hkey : FirstKey ts t key projection)
    (honce : key.selection.EveryLayer SelectionTree.EachOnce)
    (havoids : key.selection.EveryLayer (SelectionTree.Avoids typenameField))
    {p q r : ResolveParams} (hp : p.parentType = t.name) (ho : p.parent.Ordered) {id : String}
    (hid : (resolve storage (.globalId (some projection)) p).wait = .ok (.string id))
    (hq : Json.Fields.get? idArgument q.arguments = some (.string id)) {w : Json}
    (hnode : (resolve storage .node q).wait = .ok w) (hw : w ≠ .null)
    (hr : r.parent = w) (hr' : r.parentType = t.name) :
    (∃ k, EntityKey.encode k = id) ∧
      ∃ id', resolve storage (.globalId (some projection)) r = EventualResult.ok (.string id') ∧
        ∀ k, EntityKey.encode k = id → (id' = id ↔ (Json.object k).ReadsBack) := by
  obtain ⟨map, hselect, heq⟩ := wait_globalId_eq_ok.1 hid
  -- Wherever the key fields came from, they are all there in what was selected.
  have hsettled := KeyProjection.settled_of_select projection
    (KeyProjection.eachOnce_of_ofSelection hkey.resolved honce) (ordered_idParent ho) hselect
  obtain ⟨decoded, hdecode, rfl⟩ := wait_node hq hnode hw
  rw [hp] at heq
  obtain rfl := Json.string.inj heq
  have hnames : typenameField ∉ projection.names := by
    rw [KeyProjection.names_of_ofSelection hkey.resolved]
    exact havoids.1
  obtain ⟨map', hproject, hdecoded⟩ := project_decoded hsettled hnames hdecode
  have hordered : Json.Fields.Ordered (Json.Fields.insert typenameField (.string t.name) map) :=
    Json.Fields.Ordered.insert hsettled.ordered _ trivial
  refine ⟨⟨_, rfl⟩, EntityKey.encode decoded, ?_, fun k hk => ?_⟩
  · rw [resolve_globalId, hr, hr', idParent_object, KeyProjection.select_eq_ok hproject, hdecoded]
    rfl
  · rw [EntityKey.readsBack_congr hk]
    exact (EntityKey.decode?_encode hordered hdecode).2

/-- A node whose id is another one, the double in it being read as the next larger one. -/
theorem resolve_globalId_of_node_changed :
    ∃ id id' : String, ∃ w : Json,
      (resolve (Sample.storage "") (.globalId (some Sample.projection))
        ⟨.object [("x", .number (.float Sample.lossy))], [], idField, "T"⟩).wait =
          .ok (.string id) ∧
      (resolve (Sample.storage "") .node
        ⟨.null, [(idArgument, .string id)], nodeField, "Query"⟩).wait = .ok w ∧ w ≠ .null ∧
      resolve (Sample.storage "") (.globalId (some Sample.projection)) ⟨w, [], idField, "T"⟩ =
        EventualResult.ok (.string id') ∧ id' ≠ id := by
  have hid : (resolve (Sample.storage "") (.globalId (some Sample.projection))
      ⟨.object [("x", .number (.float Sample.lossy))], [], idField, "T"⟩).wait =
        .ok (.string (EntityKey.encode (Sample.key Sample.lossy))) :=
    wait_globalId_eq_ok.2 ⟨_, rfl, rfl⟩
  have hnode : (resolve (Sample.storage "") .node
      ⟨.null, [(idArgument, .string (EntityKey.encode (Sample.key Sample.lossy)))], nodeField,
        "Query"⟩).wait = .ok (.object (Sample.key Sample.raised)) := by
    simp only [resolve, Json.Fields.get?, if_true, resolveNode, Sample.decode?_key_lossy]
    rfl
  have hordered : (Json.object [("x", .number (.float Sample.lossy))]).Ordered :=
    ⟨List.pairwise_singleton _ _, trivial, trivial⟩
  obtain ⟨-, id', hid', hback⟩ := resolve_globalId_of_node Sample.firstKey Sample.eachOnce
    Sample.avoids rfl hordered hid rfl hnode (by simp) (r := ⟨_, [], idField, "T"⟩) rfl rfl
  exact ⟨_, id', _, hid, hnode, by simp, hid',
    fun heq => Sample.not_readsBack_key_lossy ((hback _ rfl).1 heq)⟩

/-! ### From the keys of an entity to its id -/

/-- The id of an entity is that of what its document has of the key, if the parent agrees with the
    document. -/
theorem wait_globalId_of_document {type : String} {fields : List KeyField}
    {v document gathered : Json.Fields} {path content : String}
    (hgather : (KeyProjection.gather
      (KeyProjection.selectFields storage fields document)).wait = .ok (.object gathered))
    (hpath : (storage.path? (EntityKey.ofValue (.object v) type)).wait = .ok (some path))
    (hcontent : (storage.fetcher.fetch path).wait = .ok content)
    (hdocument : Storage.parseDocument path content = .ok document)
    (hagrees : KeyProjection.Agrees (.mk type true fields) (.object v) (.object document))
    {p : ResolveParams} (hp : p.parent = .object v) (ht : p.parentType = type) :
    (resolve storage (.globalId (some (.mk type true fields))) p).wait =
      .ok (.string (EntityKey.encode
        (Json.Fields.insert typenameField (.string type) gathered))) := by
  rw [wait_globalId_eq_ok, hp, ht, idParent_object]
  cases hproject : KeyProjection.project (.mk type true fields) (.object v) with
  -- A parent which has all key fields has those of the document, up to canonical form.
  | some selected =>
    obtain ⟨u, hproject', hcanonical⟩ := KeyProjection.project_of_agrees _ hagrees hproject
    obtain rfl := Except.ok.inj
      (hgather.symm.trans (KeyProjection.wait_gather_of_project hproject'))
    obtain ⟨picked, -, rfl⟩ := KeyProjection.project_object.1 hproject
    refine ⟨_, by rw [KeyProjection.select_eq_ok hproject]; rfl, ?_⟩
    rw [EntityKey.encode_insert_eq _ _ (Json.object.inj hcanonical)]
  -- Any other parent is looked up, and leads to the document.
  | none =>
    have hentity := Storage.wait_entity_eq_ok.2 ⟨path, content, hpath, hcontent, hdocument⟩
    exact ⟨_, (KeyProjection.wait_select_of_entity hproject hentity).trans hgather, rfl⟩

/-- An entity has one id, whichever of its keys it was reached by. -/
theorem resolve_globalId_of_document {ts : TypeSystem} {t : SourceType} {key : KeyDeclaration}
    (hkey : FirstKey ts t key projection) (hnested : EveryBelow NotPrimary projection.fields)
    {v₁ v₂ document : Json.Fields} {path content : String}
    (hpath₁ : (storage.path? (EntityKey.ofValue (.object v₁) t.name)).wait = .ok (some path))
    (hpath₂ : (storage.path? (EntityKey.ofValue (.object v₂) t.name)).wait = .ok (some path))
    (hcontent : (storage.fetcher.fetch path).wait = .ok content)
    (hdocument : Storage.parseDocument path content = .ok document)
    (hagrees₁ : projection.Agrees (.object v₁) (.object document))
    (hagrees₂ : projection.Agrees (.object v₂) (.object document))
    {p₁ p₂ : ResolveParams} (hp₁ : p₁.parent = .object v₁) (ht₁ : p₁.parentType = t.name)
    (hp₂ : p₂.parent = .object v₂) (ht₂ : p₂.parentType = t.name) :
    ∃ id, (resolve storage (.globalId (some projection)) p₁).wait = .ok (.string id) ∧
      (resolve storage (.globalId (some projection)) p₂).wait = .ok (.string id) := by
  obtain ⟨fields, rfl⟩ := hkey.eq_mk
  obtain ⟨u, hgather⟩ : ∃ u, (KeyProjection.gather
      (KeyProjection.selectFields storage fields document)).wait = .ok u :=
    KeyProjection.exists_wait_gather fields hnested document
  obtain ⟨picked, -, rfl⟩ := KeyProjection.wait_gather.1 hgather
  exact ⟨_, wait_globalId_of_document hgather hpath₁ hcontent hdocument hagrees₁ hp₁ ht₁,
    wait_globalId_of_document hgather hpath₂ hcontent hdocument hagrees₂ hp₂ ht₂⟩

/-- One parent has the key field of the document as an integer, the other one has no key field. -/
theorem resolve_globalId_of_document_one :
    ∃ id : String,
      (resolve (Sample.storage (Json.compact (.object [("x", .number (.float ⟨false, 1023, 0⟩))])))
        (.globalId (some Sample.projection))
        ⟨.object [("x", .number (.whole ⟨1, by decide⟩))], [], idField, "T"⟩).wait =
          .ok (.string id) ∧
      (resolve (Sample.storage (Json.compact (.object [("x", .number (.float ⟨false, 1023, 0⟩))])))
        (.globalId (some Sample.projection))
        ⟨.object [("y", .null)], [], idField, "T"⟩).wait = .ok (.string id) := by
  have hnumber : (Number.float ⟨false, 1023, 0⟩).numeral.number? =
      some (.float ⟨false, 1023, 0⟩) := by decide +kernel
  have hcanonical : (Number.float ⟨false, 1023, 0⟩).canonical = .whole ⟨1, by decide⟩ := by
    decide +kernel
  have hdocument : Storage.parseDocument "t.json"
      (Json.compact (.object [("x", .number (.float ⟨false, 1023, 0⟩))])) =
        .ok [("x", .number (.float ⟨false, 1023, 0⟩))] := by
    rw [Storage.parseDocument, Json.read?_compact]
    simp only [Json.reread, Json.rereadFields, Json.maxDepth, hnumber, Option.map_some,
      Option.bind_some]
    rfl
  refine resolve_globalId_of_document Sample.firstKey ⟨trivial, trivial⟩ rfl rfl rfl hdocument
    ⟨?_, trivial⟩ ⟨?_, trivial⟩ rfl rfl rfl rfl
  · rintro v hv
    obtain rfl := Option.some.inj hv
    exact ⟨_, rfl, by rw [Json.canonical, Json.canonical, hcanonical]; rfl⟩
  · rintro v hv
    cases hv

end FieldSource

end EntityGraph
