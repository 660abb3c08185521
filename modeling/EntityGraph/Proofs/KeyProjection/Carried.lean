import Mathlib
import EntityGraph.Proofs.Key
import EntityGraph.Proofs.KeyProjection.Select
import EntityGraph.Proofs.Outcome.Carried

/-!
# Selections carried over

A selection is made twice, of two values with one canonical form, and over two stores. Numbers may
be written differently in the values, in the keys which are looked up for them, and in what is
found, at every level. Still the selection over the first store carries over to the one over the
second (`KeyProjection.carried_select`), if the entities of the first store do
(`Storage.CarriesEntities`).
-/

namespace EntityGraph

open Json (canonical canonicalFields)

/-! ### Values with one canonical form -/

namespace Json

theorem canonicalFields_fields (v : Json) : canonicalFields v.fields = v.canonical.fields := by
  cases v <;> rfl

theorem canonicalFields_fields_congr {v v' : Json} (h : v.canonical = v'.canonical) :
    canonicalFields v.fields = canonicalFields v'.fields := by
  rw [canonicalFields_fields, canonicalFields_fields, h]

theorem isObject_canonical (v : Json) : v.canonical.isObject = v.isObject := by
  cases v <;> rfl

theorem isObject_congr {v v' : Json} (h : v.canonical = v'.canonical) :
    v.isObject = v'.isObject := by
  rw [← isObject_canonical v, h, isObject_canonical]

/-- Nothing but an array has the canonical form of an array. -/
theorem exists_array_of_canonical_eq {items : List Json} {v : Json}
    (h : (Json.array items).canonical = v.canonical) :
    ∃ items', v = .array items' ∧ canonicalItems items = canonicalItems items' := by
  cases v with
  | array items' => exact ⟨items', rfl, Json.array.inj h⟩
  | _ => cases h

theorem canonicalItems_eq_map (items : List Json) :
    canonicalItems items = items.map canonical := by
  induction items with
  | nil => rfl
  | cons v rest ih => rw [canonicalItems, ih, List.map_cons]

/-- A field which is missing counts as `null`. -/
theorem canonical_getD_get?_congr {map map' : Json.Fields}
    (h : canonicalFields map = canonicalFields map') (name : String) :
    ((Fields.get? name map).getD .null).canonical =
      ((Fields.get? name map').getD .null).canonical := by
  have hnull (found : Option Json) : (found.getD .null).canonical =
      (found.map (mapNumbers Number.canonical)).getD .null := by
    cases found with
    | none => rfl
    | some v => exact v.canonical_eq
  rw [canonicalFields_eq, canonicalFields_eq] at h
  rw [hnull, hnull, ← get?_mapFields, ← get?_mapFields, h]

/-- An object put together from fields with the same names and canonical forms. -/
theorem canonical_ofList_congr {picked picked' : List (String × Json)}
    (h : picked.map (Prod.map id canonical) = picked'.map (Prod.map id canonical)) :
    (Json.object (Fields.ofList picked)).canonical =
      (Json.object (Fields.ofList picked')).canonical := by
  have hmap (fields : List (String × Json)) :
      fields.map (Prod.map id canonical) = mapFields Number.canonical fields := by
    rw [mapFields_eq]
    exact List.map_congr_left fun field _ => by rw [← canonical_eq]; rfl
  rw [hmap, hmap] at h
  rw [canonical, canonical, canonicalFields_eq, canonicalFields_eq, mapFields_ofList,
    mapFields_ofList, h]

end Json

theorem EntityKey.canonicalFields_ofValue_congr {v v' : Json} (h : v.canonical = v'.canonical)
    (type : String) : canonicalFields (ofValue v type) = canonicalFields (ofValue v' type) :=
  EntityKey.encode_eq_iff.1
    (EntityKey.encode_insert_eq _ _ (Json.canonicalFields_fields_congr h))

/-! ### Stores -/

/-- What the first store has for a key carries over to the second one, whose key may be written in
    another way, as its document may. -/
def Storage.CarriesEntities (failures : Prop) (s s' : Storage) : Prop :=
  ∀ key key', canonicalFields key = canonicalFields key' →
    Carried failures canonicalFields (s.entity key).wait (s'.entity key').wait

namespace KeyProjection

variable {failures : Prop} {s s' : Storage}

theorem carried_entityOf (h : s.CarriesEntities failures s') (type : String) {v v' : Json}
    (hv : v.canonical = v'.canonical) :
    Carried failures canonicalFields (entityOf s type v).wait (entityOf s' type v').wait :=
  (h _ _ (EntityKey.canonicalFields_ofValue_congr hv type)).mapError _

/-- Values with one canonical form have all key fields together, and they are the same. -/
theorem map_canonical_project (projection : KeyProjection) {v v' : Json}
    (h : v.canonical = v'.canonical) :
    (projection.project v).map canonical = (projection.project v').map canonical := by
  have hproject (v : Json) :
      (projection.project v).map canonical = projection.project v.canonical := by
    rw [funext Json.canonical_eq, project_mapNumbers]
  rw [hproject, hproject, h]

/-! ### Items of arrays -/

section Items

variable {projected : Json → Option Json} {complete complete' : Json → RunResult ResolveError Json}

theorem selectWith_eq_complete {v : Json} (hv : ∀ items, v ≠ .array items)
    (h : projected v = none) : selectWith projected complete v = complete v := by
  cases v with
  | array items => exact absurd rfl (hv items)
  | _ => simp only [selectWith, h]

theorem selectWith_array {items : List Json} (h : projected (.array items) = none) :
    selectWith projected complete (.array items) = Eventual.map (Except.map .array)
      (EventualResult.joinAll (selectItems projected complete items)) := by
  rw [selectWith, h]

/-- Either both values are projected or none of them. -/
theorem carried_selectWith_of {v v' : Json}
    (hprojected : (projected v).map canonical = (projected v').map canonical)
    (hmissing : projected v = none → projected v' = none →
      Carried failures canonical (selectWith projected complete v).wait
        (selectWith projected complete' v').wait) :
    Carried failures canonical (selectWith projected complete v).wait
      (selectWith projected complete' v').wait := by
  cases hv : projected v with
  | none =>
    rw [hv, Option.map_none, eq_comm, Option.map_eq_none_iff] at hprojected
    exact hmissing hv hprojected
  | some w =>
    rw [hv, Option.map_some, eq_comm, Option.map_eq_some_iff] at hprojected
    obtain ⟨w', hv', hw⟩ := hprojected
    rw [selectWith_eq_ok hv, selectWith_eq_ok hv']
    exact .ok hw.symm

mutual

theorem carried_selectWith
    (hprojected : ∀ v v', v.canonical = v'.canonical →
      (projected v).map canonical = (projected v').map canonical)
    (hcomplete : ∀ v v', v.canonical = v'.canonical →
      Carried failures canonical (complete v).wait (complete' v').wait) :
    ∀ v v', v.canonical = v'.canonical →
      Carried failures canonical (selectWith projected complete v).wait
        (selectWith projected complete' v').wait
  | .array items, v', h => by
    obtain ⟨items', rfl, hitems⟩ := Json.exists_array_of_canonical_eq h
    refine carried_selectWith_of (hprojected _ _ h) fun hv hv' => ?_
    rw [selectWith_array hv, selectWith_array hv']
    refine (Carried.joinAll (carried_selectItems hprojected hcomplete items items' hitems)).map
      fun rest rest' hrest => ?_
    rw [canonical, canonical, Json.canonicalItems_eq_map, Json.canonicalItems_eq_map, hrest]
  | .null, v', h | .bool _, v', h | .number _, v', h | .string _, v', h | .object _, v', h => by
    refine carried_selectWith_of (hprojected _ _ h) fun hv hv' => ?_
    have hne : ∀ items, v' ≠ .array items := by
      rintro items rfl
      cases h
    rw [selectWith_eq_complete (by simp) hv, selectWith_eq_complete hne hv']
    exact hcomplete _ _ h

theorem carried_selectItems
    (hprojected : ∀ v v', v.canonical = v'.canonical →
      (projected v).map canonical = (projected v').map canonical)
    (hcomplete : ∀ v v', v.canonical = v'.canonical →
      Carried failures canonical (complete v).wait (complete' v').wait) :
    ∀ items items', Json.canonicalItems items = Json.canonicalItems items' →
      List.Forall₂ (fun e e' => Carried failures canonical e.wait e'.wait)
        (selectItems projected complete items) (selectItems projected complete' items')
  | [], items', h => by
    cases items' with
    | nil => exact .nil
    | cons => cases h
  | v :: rest, items', h => by
    cases items' with
    | nil => cases h
    | cons v' rest' =>
      obtain ⟨hv, hrest⟩ := List.cons.inj h
      exact .cons (carried_selectWith hprojected hcomplete v v' hv)
        (carried_selectItems hprojected hcomplete rest rest' hrest)

end

end Items

/-! ### Selections -/

theorem carried_gather {fields fields' : List (RunResult ResolveError (String × Json))}
    (h : List.Forall₂ (fun e e' => Carried failures (Prod.map id canonical) e.wait e'.wait)
      fields fields') :
    Carried failures canonical (gather fields).wait (gather fields').wait :=
  (Carried.joinAll h).map fun _ _ => Json.canonical_ofList_congr

mutual

/-- What is selected of a value carries over to every value with the same canonical form. -/
theorem carried_select (h : s.CarriesEntities failures s') : ∀ (projection : KeyProjection)
    {v v' : Json}, v.canonical = v'.canonical →
      Carried failures canonical (select s projection v).wait (select s' projection v').wait
  | .mk type isPrimary fields, v, v', hv => by
    rw [select, select]
    refine carried_selectWith (fun v v' => map_canonical_project _) (fun v v' hv => ?_) v v' hv
    split_ifs
    -- The documents of the two entities need not be the same text either.
    · rw [EventualResult.wait_andThen, EventualResult.wait_andThen]
      exact (carried_entityOf h type hv).bind fun document document' hdocument =>
        carried_gather (carried_selectFields h fields hdocument)
    · exact carried_gather (carried_selectFields h fields (Json.canonicalFields_fields_congr hv))

theorem carried_selectFields (h : s.CarriesEntities failures s') : ∀ (fields : List KeyField)
    {map map' : Json.Fields}, canonicalFields map = canonicalFields map' →
      List.Forall₂ (fun e e' => Carried failures (Prod.map id canonical) e.wait e'.wait)
        (selectFields s fields map) (selectFields s' fields map')
  | [], _, _, _ => .nil
  | field :: rest, _, _, hmap =>
    .cons (carried_selectField h field hmap) (carried_selectFields h rest hmap)

theorem carried_selectField (h : s.CarriesEntities failures s') : ∀ (field : KeyField)
    {map map' : Json.Fields}, canonicalFields map = canonicalFields map' →
      Carried failures (Prod.map id canonical) (selectField s field map).wait
        (selectField s' field map').wait
  | .leaf name, _, _, hmap =>
    .ok (congrArg (Prod.mk name) (Json.canonical_getD_get?_congr hmap name))
  | .nested name projection, _, _, hmap =>
    (carried_select h projection (Json.canonical_getD_get?_congr hmap name)).map
      fun _ _ => congrArg (Prod.mk name)

end

end KeyProjection

end EntityGraph
