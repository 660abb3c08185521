import Mathlib
import EntityGraph.Proofs.KeyProjection.Select
import EntityGraph.Proofs.Store.Answers

/-!
# Selecting over different storages

Selecting looks entities up at every level, for the items of arrays and the fields of objects side
by side. Whichever of the answers are there right away, what is selected is the same: a selection
over one storage is outlined by the selection over another one with the same answers
(`KeyProjection.outline_select`). Of several failures the first one in the order of the items
(`wait_select_array_eq_error`) or of the fields (`wait_select_eq_error`) is reported.
-/

namespace EntityGraph

open Storage (Outline SameAnswers)

namespace KeyProjection

variable {s s' : Storage}

/-! ### Outlines of selections -/

section Items

variable {projected : Json → Option Json} {complete complete' : Json → RunResult ResolveError Json}

mutual

theorem outline_selectWith (h : ∀ v, Outline s (complete v) (complete' v)) :
    ∀ v, Outline s (selectWith projected complete v) (selectWith projected complete' v)
  | .array items => by
    rw [selectWith, selectWith]
    split
    · exact .ok _
    · exact .map (.joinAllResults (outline_selectItems h items)) _
  | .null | .bool _ | .number _ | .string _ | .object _ => by
    simp only [selectWith]
    split
    · exact .ok _
    · exact h _

theorem outline_selectItems (h : ∀ v, Outline s (complete v) (complete' v)) :
    ∀ items, List.Forall₂ (Outline s) (selectItems projected complete items)
      (selectItems projected complete' items)
  | [] => .nil
  | v :: rest => .cons (outline_selectWith h v) (outline_selectItems h rest)

end

end Items

theorem outline_entityOf (h : SameAnswers s s') (type : String) (v : Json) :
    Outline s (entityOf s type v) (entityOf s'.silent type v) :=
  .andThen (.log ..) fun _ => .mapError (.entity h _) _

theorem outline_gather {fields outlines : List (RunResult ResolveError (String × Json))}
    (h : List.Forall₂ (Outline s) fields outlines) : Outline s (gather fields) (gather outlines) :=
  .map (.joinAllResults h) _

mutual

/-- A selection is outlined by the one over a silent storage with the same answers. -/
theorem outline_select (h : SameAnswers s s') : ∀ (projection : KeyProjection) (v : Json),
    Outline s (select s projection v) (select s'.silent projection v)
  | .mk type isPrimary fields, v => by
    rw [select, select]
    refine outline_selectWith (fun v => ?_) v
    split_ifs
    · exact .andThenResult (outline_entityOf h type v) fun document =>
        outline_gather (outline_selectFields h fields document)
    · exact outline_gather (outline_selectFields h fields v.fields)

theorem outline_selectFields (h : SameAnswers s s') : ∀ (fields : List KeyField)
    (map : Json.Fields), List.Forall₂ (Outline s) (selectFields s fields map)
      (selectFields s'.silent fields map)
  | [], _ => .nil
  | field :: rest, map =>
    .cons (outline_selectField h field map) (outline_selectFields h rest map)

theorem outline_selectField (h : SameAnswers s s') : ∀ (field : KeyField) (map : Json.Fields),
    Outline s (selectField s field map) (selectField s'.silent field map)
  | .leaf _, _ => .ok _
  | .nested _ projection, _ => .map (outline_select h projection _) _

end

/-! ### The first failure -/

theorem selectItems_eq (projected : Json → Option Json)
    (complete : Json → RunResult ResolveError Json) (items : List Json) :
    selectItems projected complete items = items.map (selectWith projected complete) := by
  induction items with
  | nil => rfl
  | cons v rest ih => rw [selectItems, ih, List.map_cons]

theorem exists_onObjects_of_onItems {f : Json.Fields → Option Json} {items items' : List Json}
    (h : onItems f items = some items') : ∀ v ∈ items, ∃ w, onObjects f v = some w := by
  induction items generalizing items' with
  | nil => simp
  | cons v rest ih =>
    rw [onItems] at h
    split at h
    · cases h
    · next w hw =>
      obtain ⟨rest', hrest, -⟩ := Option.map_eq_some_iff.1 h
      exact List.forall_mem_cons.2 ⟨⟨w, hw⟩, ih hrest⟩

/-- Selecting from an array fails with the first failure in the order of its items. -/
theorem wait_select_array_eq_error (projection : KeyProjection) (items : List Json)
    {e : ResolveError} :
    (select s projection (.array items)).wait = .error e ↔
      ∃ (values : List Json) (behind : List (Except ResolveError Json)),
        items.map (fun v => (select s projection v).wait) =
          values.map .ok ++ .error e :: behind := by
  obtain ⟨type, isPrimary, fields⟩ := projection
  cases hproject : project (.mk type isPrimary fields) (.array items) with
  | some w =>
    rw [select_eq_ok hproject]
    refine iff_of_false (fun h => nomatch h) ?_
    rintro ⟨values, behind, h⟩
    -- Every item is projected as well, so none of them fails.
    obtain ⟨items', hitems, -⟩ := Option.map_eq_some_iff.1 hproject
    have hmem : Except.error e ∈
        items.map fun v => (select s (.mk type isPrimary fields) v).wait := by simp [h]
    obtain ⟨v, hv, hfail⟩ := List.mem_map.1 hmem
    obtain ⟨w, hw⟩ := exists_onObjects_of_onItems hitems v hv
    rw [select_eq_ok (show project (.mk type isPrimary fields) v = some w from hw)] at hfail
    cases hfail
  | none =>
    rw [select, selectWith, hproject]
    simp only [Eventual.wait_map]
    rw [Outcome.map_eq_error, EventualResult.wait_joinAll_eq_error, selectItems_eq, List.map_map]
    rfl

/-- The object which the fields are taken from of a value without all of them: the document of an
    entity, or else the value itself. -/
def fieldsFrom (s : Storage) : KeyProjection → Json → RunResult ResolveError Json.Fields
  | .mk type true _, v => entityOf s type v
  | .mk _ false _, v => EventualResult.ok v.fields

/-- Selecting from anything else fails with the first failure in the order of the fields, once
    there is an object to take them from. -/
theorem wait_select_eq_error {projection : KeyProjection} {v : Json}
    (hv : ∀ items, v ≠ .array items) (hproject : projection.project v = none)
    {map : Json.Fields} (hmap : (fieldsFrom s projection v).wait = .ok map) {e : ResolveError} :
    (select s projection v).wait = .error e ↔
      ∃ (picked : List (String × Json)) (behind : List (Except ResolveError (String × Json))),
        projection.fields.map (fun field => (selectField s field map).wait) =
          picked.map .ok ++ .error e :: behind := by
  obtain ⟨type, isPrimary, fields⟩ := projection
  have hselect : (select s (.mk type isPrimary fields) v).wait =
      (gather (selectFields s fields map)).wait := by
    cases v with
    | array items => exact absurd rfl (hv items)
    | _ =>
      rw [select]
      simp only [selectWith, hproject]
      cases isPrimary with
      | true =>
        rw [if_pos rfl, EventualResult.wait_andThen,
          show (entityOf s type _).wait = .ok map from hmap]
        rfl
      | false =>
        rw [if_neg Bool.false_ne_true, ← Except.ok.inj hmap]
  rw [hselect, gather, Eventual.wait_map, Outcome.map_eq_error,
    EventualResult.wait_joinAll_eq_error, selectFields_eq, List.map_map]
  rfl

end KeyProjection

end EntityGraph
