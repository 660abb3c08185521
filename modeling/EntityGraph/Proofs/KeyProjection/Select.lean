import Mathlib
import EntityGraph.Proofs.Json.Read
import EntityGraph.Proofs.KeyProjection.Project

/-!
# Selected values

A selected value is projected where this is possible and gathered field by field otherwise, from
the value itself or from the document of an entity.

* Where a value comes from does not matter for its shape: what is selected is settled
  (`settled_of_select`).
* A value which has all key fields is selected by projecting it, without any event
  (`select_eq_ok`), and gathering its fields gives the same (`wait_gather_of_project`).
* If no entity has to be looked up, selecting never fails (`exists_wait_select`).
-/

namespace EntityGraph

namespace Storage

/-- An entity is the object in the document at its path. -/
theorem wait_entity_eq_ok {storage : Storage} {key : EntityKey} {document : Json.Fields} :
    (storage.entity key).wait = .ok document ↔
      ∃ path content, (storage.path? key).wait = .ok (some path) ∧
        (storage.fetcher.fetch path).wait = .ok content ∧
        parseDocument path content = .ok document := by
  rw [entity, EventualResult.wait_andThen, Outcome.bind_eq_ok]
  constructor
  · rintro ⟨path?, hpath, h⟩
    cases path? with
    | none => cases h
    | some path =>
      rw [EventualResult.wait_andThen, Outcome.bind_eq_ok] at h
      obtain ⟨content, hcontent, h⟩ := h
      exact ⟨path, content, hpath, Outcome.mapError_eq_ok.1 hcontent, h⟩
  · rintro ⟨path, content, hpath, hcontent, h⟩
    refine ⟨some path, hpath, ?_⟩
    simp only [EventualResult.wait_andThen, Outcome.bind_eq_ok]
    exact ⟨content, Outcome.mapError_eq_ok.2 hcontent, h⟩

/-- The fields of a document are in order. -/
theorem ordered_of_wait_entity {storage : Storage} {key : EntityKey} {document : Json.Fields}
    (h : (storage.entity key).wait = .ok document) : Json.Fields.Ordered document := by
  obtain ⟨path, content, -, -, h⟩ := wait_entity_eq_ok.1 h
  rw [parseDocument] at h
  split at h
  · next fields hread =>
    cases h
    exact Json.ordered_of_read? hread
  · cases h

end Storage

namespace KeyProjection

variable {storage : Storage}

theorem wait_entityOf (type : String) (v : Json) {document : Json.Fields} :
    (entityOf storage type v).wait = .ok document ↔
      (storage.entity (EntityKey.ofValue v type)).wait = .ok document :=
  Outcome.mapError_eq_ok

/-! ### Fields put together -/

theorem selectFields_eq (fields : List KeyField) (map : Json.Fields) :
    selectFields storage fields map = fields.map fun field => selectField storage field map := by
  induction fields with
  | nil => rfl
  | cons field rest ih => rw [selectFields, ih, List.map_cons]

/-- An object is gathered if each of its fields is selected. -/
theorem wait_gather {fields : List KeyField} {map : Json.Fields} {w : Json} :
    (gather (selectFields storage fields map)).wait = .ok w ↔
      ∃ picked, List.Forall₂ (fun field p => (selectField storage field map).wait = .ok p)
        fields picked ∧ w = .object (Json.Fields.ofList picked) := by
  have hjoin : ∀ picked, (EventualResult.joinAll (selectFields storage fields map)).wait =
      .ok picked ↔
      List.Forall₂ (fun field p => (selectField storage field map).wait = .ok p) fields picked := by
    intro picked
    rw [EventualResult.wait_joinAll, selectFields_eq, List.map_map, ← List.forall₂_eq_eq_eq,
      List.forall₂_map_left_iff, List.forall₂_map_right_iff]
    rfl
  rw [gather]
  constructor
  · intro h
    obtain ⟨picked, hpicked, rfl⟩ := Outcome.map_eq_ok.1 h
    exact ⟨picked, (hjoin picked).1 hpicked, rfl⟩
  · rintro ⟨picked, hpicked, rfl⟩
    exact Outcome.map_eq_ok.2 ⟨picked, (hjoin picked).2 hpicked, rfl⟩

/-! ### Values which have all key fields -/

theorem selectWith_eq_ok {projected : Json → Option Json}
    {complete : Json → RunResult ResolveError Json} {v w : Json} (h : projected v = some w) :
    selectWith projected complete v = EventualResult.ok w := by
  cases v with
  | array items => rw [selectWith, h]
  | _ => simp only [selectWith, h]

/-- What can be projected is not looked up. -/
theorem select_eq_ok {projection : KeyProjection} {v w : Json}
    (h : projection.project v = some w) :
    select storage projection v = EventualResult.ok w := by
  cases projection with
  | mk type isPrimary fields => rw [select, selectWith_eq_ok h]

theorem wait_selectField_of_picked {field : KeyField} {map : Json.Fields} {p : String × Json}
    (h : Picked map field p) : (selectField storage field map).wait = .ok p := by
  obtain ⟨name, v⟩ := p
  obtain ⟨rfl, h⟩ := h
  cases field with
  | leaf name =>
    rw [projectField] at h
    simp only at h
    rw [selectField, h]
    rfl
  | nested name projection =>
    rw [projectField] at h
    split at h
    · cases h
    · next u hu =>
      rw [selectField, hu, Option.getD_some, select_eq_ok h]
      rfl

/-- Gathering the fields of an object which has them all is projecting it. -/
theorem wait_gather_of_project {type : String} {isPrimary : Bool} {fields : List KeyField}
    {map : Json.Fields} {w : Json}
    (h : project (.mk type isPrimary fields) (.object map) = some w) :
    (gather (selectFields storage fields map)).wait = .ok w := by
  obtain ⟨picked, hpicked, rfl⟩ := project_object.1 h
  exact wait_gather.2 ⟨picked, hpicked.imp fun _ _ => wait_selectField_of_picked, rfl⟩

/-- What a primary type lacks is gathered from the document of the entity. -/
theorem wait_select_of_entity {type : String} {fields : List KeyField}
    {map document : Json.Fields}
    (hproject : project (.mk type true fields) (.object map) = none)
    (hentity : (storage.entity (EntityKey.ofValue (.object map) type)).wait = .ok document) :
    (select storage (.mk type true fields) (.object map)).wait =
      (gather (selectFields storage fields document)).wait := by
  have hdocument := (wait_entityOf type (.object map)).2 hentity
  rw [select]
  simp only [selectWith, hproject, if_true]
  rw [EventualResult.wait_andThen, hdocument]
  rfl

/-! ### What is selected is settled -/

section Settled

variable {projection : KeyProjection} {projected : Json → Option Json}
  {complete : Json → RunResult ResolveError Json}

mutual

/-- Projected or completed item by item, arrays of settled values are settled. -/
theorem settled_of_selectWith
    (hprojected : ∀ v w, v.Ordered → projected v = some w → projection.Settled w)
    (hcomplete : ∀ v w, v.Ordered → (complete v).wait = .ok w → projection.Settled w) :
    ∀ v w, v.Ordered → (selectWith projected complete v).wait = .ok w → projection.Settled w
  | .array items, w, ho, h => by
    rw [selectWith] at h
    split at h
    · next u hu =>
      obtain rfl := Except.ok.inj h
      exact hprojected _ _ ho hu
    · obtain ⟨items', hitems, rfl⟩ := Outcome.map_eq_ok.1 h
      rw [EventualResult.wait_joinAll] at hitems
      exact settled_array (settled_of_selectItems hprojected hcomplete items items' ho hitems)
  | .null, w, ho, h | .bool _, w, ho, h | .number _, w, ho, h | .string _, w, ho, h
  | .object _, w, ho, h => by
    simp only [selectWith] at h
    split at h
    · next u hu =>
      obtain rfl := Except.ok.inj h
      exact hprojected _ _ ho hu
    · exact hcomplete _ _ ho h

theorem settled_of_selectItems
    (hprojected : ∀ v w, v.Ordered → projected v = some w → projection.Settled w)
    (hcomplete : ∀ v w, v.Ordered → (complete v).wait = .ok w → projection.Settled w) :
    ∀ items items' : List Json, Json.OrderedItems items →
      (selectItems projected complete items).map (·.wait) = items'.map .ok →
      ∀ w ∈ items', projection.Settled w
  | [], items', _, h => by
    cases items' with
    | nil => simp
    | cons => cases h
  | v :: rest, items', ho, h => by
    cases items' with
    | nil => cases h
    | cons w rest' =>
      rw [selectItems, List.map_cons, List.map_cons, List.cons.injEq] at h
      intro u hu
      rcases List.mem_cons.1 hu with rfl | hu
      · exact settled_of_selectWith hprojected hcomplete v u ho.1 h.1
      · exact settled_of_selectItems hprojected hcomplete rest rest' ho.2 h.2 u hu

end

end Settled

theorem ordered_getD_null {map : Json.Fields} (ho : Json.Fields.Ordered map) (name : String) :
    ((Json.Fields.get? name map).getD .null).Ordered := by
  cases hget : Json.Fields.get? name map with
  | none => trivial
  | some v => exact ho.of_get? hget

mutual

/-- What is selected of a value in order is settled, wherever it was found. -/
theorem settled_of_select : ∀ (projection : KeyProjection), projection.EveryLayer EachOnce →
    ∀ {v w : Json}, v.Ordered → (select storage projection v).wait = .ok w →
      projection.Settled w
  | .mk type isPrimary fields, hlayer, v, w, ho, h => by
    rw [select] at h
    refine settled_of_selectWith (fun v w => settled_of_project _ hlayer) ?_ v w ho h
    -- What can not be projected is gathered from fields which are in order, whosever they are.
    intro v w ho h
    split_ifs at h
    · rw [EventualResult.wait_andThen, Outcome.bind_eq_ok] at h
      obtain ⟨document, hdocument, h⟩ := h
      have ho' := Storage.ordered_of_wait_entity ((wait_entityOf type v).1 hdocument)
      obtain ⟨picked, hpicked, rfl⟩ := wait_gather.1 h
      exact settled_ofList hlayer.1 (settled_of_selected fields hlayer.2 ho' hpicked)
    · have ho' : Json.Fields.Ordered v.fields := by
        cases v with
        | object map => exact ho
        | _ => exact Json.Fields.ordered_nil
      obtain ⟨picked, hpicked, rfl⟩ := wait_gather.1 h
      exact settled_ofList hlayer.1 (settled_of_selected fields hlayer.2 ho' hpicked)

theorem settled_of_selected : ∀ (fields : List KeyField), EveryBelow EachOnce fields →
    ∀ {map : Json.Fields} {picked : List (String × Json)}, Json.Fields.Ordered map →
    List.Forall₂ (fun field p => (selectField storage field map).wait = .ok p) fields picked →
    List.Forall₂ (fun field p => p.1 = field.name ∧ FieldSettled field p.2) fields picked
  | [], _, _, _, _, h => by
    cases h
    exact .nil
  | field :: rest, hbelow, _, _, ho, h => by
    cases h with
    | cons hfirst hrest =>
      exact .cons (settled_of_selectField field hbelow.1 ho hfirst)
        (settled_of_selected rest hbelow.2 ho hrest)

theorem settled_of_selectField : ∀ (field : KeyField), FieldBelow EachOnce field →
    ∀ {map : Json.Fields} {p : String × Json}, Json.Fields.Ordered map →
    (selectField storage field map).wait = .ok p → p.1 = field.name ∧ FieldSettled field p.2
  | .leaf name, _, map, p, ho, h => by
    obtain rfl := Except.ok.inj h
    exact ⟨rfl, ordered_getD_null ho name⟩
  | .nested name projection, hbelow, map, p, ho, h => by
    obtain ⟨v, hv, rfl⟩ := Outcome.map_eq_ok.1 h
    exact ⟨rfl, settled_of_select projection hbelow (ordered_getD_null ho name) hv⟩

end

/-! ### Selecting without looking up -/

/-- The outermost layer belongs to a type which is not primary. -/
def NotPrimary (projection : KeyProjection) : Prop := projection.isPrimary = false

section Total

variable {projected : Json → Option Json} {complete : Json → RunResult ResolveError Json}

mutual

theorem exists_wait_selectWith (hcomplete : ∀ v, ∃ w, (complete v).wait = .ok w) :
    ∀ v, ∃ w, (selectWith projected complete v).wait = .ok w
  | .array items => by
    rw [selectWith]
    split
    · exact ⟨_, rfl⟩
    · obtain ⟨items', hitems⟩ := exists_wait_selectItems hcomplete items
      exact ⟨.array items', Outcome.map_eq_ok.2
        ⟨items', (EventualResult.wait_joinAll _).2 hitems, rfl⟩⟩
  | .null | .bool _ | .number _ | .string _ | .object _ => by
    simp only [selectWith]
    split
    · exact ⟨_, rfl⟩
    · exact hcomplete _

theorem exists_wait_selectItems (hcomplete : ∀ v, ∃ w, (complete v).wait = .ok w) :
    ∀ items, ∃ items' : List Json,
      (selectItems projected complete items).map (·.wait) = items'.map .ok
  | [] => ⟨[], rfl⟩
  | v :: rest => by
    obtain ⟨w, hw⟩ := exists_wait_selectWith hcomplete v
    obtain ⟨rest', hrest⟩ := exists_wait_selectItems hcomplete rest
    exact ⟨w :: rest', by rw [selectItems, List.map_cons, List.map_cons, hw, hrest]⟩

end

end Total

mutual

/-- Selecting never fails where no entity has to be looked up. -/
theorem exists_wait_select : ∀ (projection : KeyProjection), projection.EveryLayer NotPrimary →
    ∀ v, ∃ w, (select storage projection v).wait = .ok w
  | .mk type isPrimary fields, hlayer, v => by
    rw [select]
    refine exists_wait_selectWith (fun v => ?_) v
    obtain rfl : isPrimary = false := hlayer.1
    exact exists_wait_gather fields hlayer.2 v.fields

theorem exists_wait_gather : ∀ (fields : List KeyField), EveryBelow NotPrimary fields →
    ∀ map, ∃ w, (gather (selectFields storage fields map)).wait = .ok w
  | [], _, _ => ⟨_, rfl⟩
  | field :: rest, hbelow, map => by
    obtain ⟨p, hp⟩ := exists_wait_selectField field hbelow.1 map
    obtain ⟨w, hw⟩ := exists_wait_gather rest hbelow.2 map
    obtain ⟨picked, hpicked, -⟩ := wait_gather.1 hw
    exact ⟨_, wait_gather.2 ⟨p :: picked, .cons hp hpicked, rfl⟩⟩

theorem exists_wait_selectField : ∀ (field : KeyField), FieldBelow NotPrimary field →
    ∀ map, ∃ p, (selectField storage field map).wait = .ok p
  | .leaf _, _, _ => ⟨_, rfl⟩
  | .nested name projection, hbelow, map => by
    obtain ⟨w, hw⟩ := exists_wait_select projection hbelow
      ((Json.Fields.get? name map).getD .null)
    exact ⟨(name, w), Outcome.map_eq_ok.2 ⟨w, hw, rfl⟩⟩

end

end KeyProjection

end EntityGraph
