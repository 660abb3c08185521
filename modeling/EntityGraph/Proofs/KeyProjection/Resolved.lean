import Mathlib
import EntityGraph.Proofs.KeyProjection.Answers
import EntityGraph.Proofs.KeyProjection.Carried
import EntityGraph.Proofs.TypeSystem

/-!
# Selections and what is selected by them

A key is given as a selection and used as the projection it is resolved to. What is said about
selected values is said about the selection, so this module leads from one to the other.

* The selected fields are resolved one by one (`KeyProjection.resolved_of_ofSelection`). What holds
  of a layer whenever it holds of the layers below it holds of every selection
  (`SelectionTree.layer_induction`).
* A value can be projected exactly if no selected field is missing in it, at any level
  (`KeyProjection.exists_project_iff`).
* Selecting keeps `null` and arrays, and makes an object of everything else, whose fields are those
  of the value itself or those of the document of its entity (`KeyProjection.selected_of_select`).
-/

namespace EntityGraph

/-! ### Layers and items -/

/-- A statement about selections is shown for a layer from the layers below it. -/
theorem SelectionTree.layer_induction {motive : SelectionTree → Prop}
    (layer : ∀ tree : SelectionTree, (∀ s ∈ tree, motive s.children) → motive tree)
    (tree : SelectionTree) : motive tree :=
  layer tree fun s _ => SelectionTree.layer_induction layer s.children
termination_by sizeOf tree
decreasing_by
  have hlt := List.sizeOf_lt_of_mem ‹s ∈ tree›
  cases s with
  | mk name children =>
    rw [Selection.mk.sizeOf_spec] at hlt
    rw [Selection.children]
    omega

/-- A statement about values is shown for an array from its items, and for anything else. -/
theorem Json.items_induction {motive : Json → Prop}
    (array : ∀ items : List Json, (∀ v ∈ items, motive v) → motive (.array items))
    (other : ∀ v : Json, (∀ items, v ≠ .array items) → motive v) (v : Json) : motive v := by
  cases v with
  | array items => exact array items fun v _ => Json.items_induction array other v
  | _ => exact other _ (by simp)
termination_by sizeOf v

/-- The value has every selected field, at every level. `null` lacks nothing, and an array has what
    all of its items have. -/
inductive SelectionTree.CoveredBy : SelectionTree → Json → Prop
  | null {tree : SelectionTree} : CoveredBy tree .null
  | array {tree : SelectionTree} {items : List Json} :
      (∀ v ∈ items, CoveredBy tree v) → CoveredBy tree (.array items)
  | object {tree : SelectionTree} {map : Json.Fields} :
      (∀ s ∈ tree, ∃ v, Json.Fields.get? s.name map = some v) →
      (∀ s ∈ tree, s.children ≠ [] → ∀ v, Json.Fields.get? s.name map = some v →
        CoveredBy s.children v) → CoveredBy tree (.object map)

theorem SelectionTree.coveredBy_object {tree : SelectionTree} {map : Json.Fields} :
    tree.CoveredBy (.object map) ↔ ∀ s ∈ tree, (∃ v, Json.Fields.get? s.name map = some v) ∧
      (s.children ≠ [] → ∀ v, Json.Fields.get? s.name map = some v → s.children.CoveredBy v) := by
  constructor
  · rintro (_ | _ | ⟨hthere, hbelow⟩)
    exact fun s hs => ⟨hthere s hs, hbelow s hs⟩
  · exact fun h => .object (fun s hs => (h s hs).1) fun s hs => (h s hs).2

/-- The last selected field of a name, which is the one whose value is kept. -/
def SelectionTree.last? (tree : SelectionTree) (name : String) : Option Selection :=
  (tree.filter fun s => s.name = name).getLast?

namespace KeyProjection

variable {ts : TypeSystem}

/-! ### Resolved fields -/

/-- The key field which a selected field of a type is resolved to. -/
inductive Resolved (ts : TypeSystem) (t : SourceType) : Selection → KeyField → Prop
  | leaf {name : String} : Resolved ts t (.mk name []) (.leaf name)
  | nested {name : String} {children : SelectionTree} {declared : FieldDeclaration}
      {projection : KeyProjection} : children ≠ [] → t.field? name = some declared →
      ofSelection ts declared.type.core children = .ok projection →
      Resolved ts t (.mk name children) (.nested name projection)

theorem Resolved.name_eq {t : SourceType} {s : Selection} {field : KeyField}
    (h : Resolved ts t s field) : field.name = s.name := by
  cases h <;> rfl

theorem resolved_of_fieldOfSelection {t : SourceType} {s : Selection} {field : KeyField}
    (h : fieldOfSelection ts t s = .ok field) : Resolved ts t s field := by
  cases s with
  | mk name children =>
    rw [fieldOfSelection] at h
    split at h
    · cases h
    · next declared hdeclared =>
      split at h
      · cases h
        exact .leaf
      · next c cs =>
        refine ?_
        split at h
        · cases h
        · next inner hinner =>
          obtain ⟨fields, hfields, h⟩ := Outcome.bind_eq_ok.1 h
          cases h
          refine .nested (by simp) hdeclared ?_
          rw [ofSelection, hinner]
          exact Outcome.bind_eq_ok.2 ⟨fields, hfields, rfl⟩

theorem resolved_of_fieldsOfSelection {t : SourceType} {tree : SelectionTree}
    {fields : List KeyField} (h : fieldsOfSelection ts t tree = .ok fields) :
    List.Forall₂ (Resolved ts t) tree fields := by
  induction tree generalizing fields with
  | nil =>
    cases h
    exact .nil
  | cons s rest ih =>
    rw [fieldsOfSelection] at h
    obtain ⟨field, hfield, h⟩ := Outcome.bind_eq_ok.1 h
    obtain ⟨fields, hfields, h⟩ := Outcome.bind_eq_ok.1 h
    cases h
    exact .cons (resolved_of_fieldOfSelection hfield) (ih hfields)

/-- A projection belongs to the type it is made on, and its fields are resolved one by one. -/
theorem resolved_of_ofSelection {type : String} {tree : SelectionTree} {projection : KeyProjection}
    (h : ofSelection ts type tree = .ok projection) :
    ∃ t fields, ts.get? type = some t ∧ projection = .mk type (ts.isPrimary t) fields ∧
      List.Forall₂ (Resolved ts t) tree fields := by
  obtain ⟨t, fields, ht, hfields, rfl⟩ := ofSelection_eq_ok h
  exact ⟨t, fields, ht, rfl, resolved_of_fieldsOfSelection hfields⟩

/-! ### Projected values -/

theorem onItems_eq_some {f : Json.Fields → Option Json} {items items' : List Json} :
    onItems f items = some items' ↔
      List.Forall₂ (fun v w => onObjects f v = some w) items items' := by
  induction items generalizing items' with
  | nil => simp [onItems, eq_comm]
  | cons v rest ih =>
    rw [onItems, List.forall₂_cons_left_iff]
    cases hv : onObjects f v with
    | none => simp
    | some w => simp [ih, eq_comm]

theorem exists_onItems {f : Json.Fields → Option Json} {items : List Json}
    (h : ∀ v ∈ items, ∃ w, onObjects f v = some w) : ∃ items', onItems f items = some items' := by
  induction items with
  | nil => exact ⟨[], rfl⟩
  | cons v rest ih =>
    obtain ⟨⟨w, hw⟩, hrest⟩ := List.forall_mem_cons.1 h
    obtain ⟨rest', hrest'⟩ := ih hrest
    exact ⟨w :: rest', by rw [onItems, hw, hrest']; rfl⟩

theorem exists_picked_iff {fields : List KeyField} {map : Json.Fields} :
    (∃ picked, List.Forall₂ (Picked map) fields picked) ↔
      ∀ field ∈ fields, ∃ v, projectField field map = some v := by
  induction fields with
  | nil => simp
  | cons field rest ih =>
    rw [List.forall_mem_cons, ← ih]
    constructor
    · rintro ⟨picked, h⟩
      cases h with
      | cons hfirst hrest => exact ⟨⟨_, hfirst.2⟩, _, hrest⟩
    · rintro ⟨⟨v, hv⟩, picked, hpicked⟩
      exact ⟨(field.name, v) :: picked, .cons ⟨rfl, hv⟩ hpicked⟩

/-- A selected field is there if it has a value, and what is selected below it can be projected. -/
theorem exists_projectField_iff {t : SourceType} {s : Selection} {field : KeyField}
    (h : Resolved ts t s field) {map : Json.Fields}
    (hbelow : ∀ type projection, ofSelection ts type s.children = .ok projection →
      ∀ v, (∃ w, projection.project v = some w) ↔ s.children.CoveredBy v) :
    (∃ w, projectField field map = some w) ↔ (∃ v, Json.Fields.get? s.name map = some v) ∧
      (s.children ≠ [] → ∀ v, Json.Fields.get? s.name map = some v → s.children.CoveredBy v) := by
  cases h with
  | leaf => simp [projectField, Selection.name, Selection.children]
  | @nested name children declared projection hchildren hdeclared hprojection =>
    simp only [projectField, Selection.name, Selection.children] at hbelow ⊢
    cases Json.Fields.get? name map with
    | none => simp
    | some v => simp [hbelow _ _ hprojection v, hchildren]

/-- A value can be projected exactly if no selected field is missing in it, at any level. -/
theorem exists_project_iff {tree : SelectionTree} :
    ∀ {type : String} {projection : KeyProjection}, ofSelection ts type tree = .ok projection →
      ∀ v, (∃ w, projection.project v = some w) ↔ tree.CoveredBy v := by
  induction tree using SelectionTree.layer_induction with
  | layer tree ih =>
    intro type projection hprojection v
    obtain ⟨t, fields, -, rfl, hfields⟩ := resolved_of_ofSelection hprojection
    -- The items of an array are projected in the same layer, fields of an object in the next one.
    induction v using Json.items_induction with
    | array items ihitems =>
      constructor
      · rintro ⟨w, hw⟩
        obtain ⟨items', hitems, -⟩ := Option.map_eq_some_iff.1 hw
        exact .array fun v hv => (ihitems v hv).1 (exists_onObjects_of_onItems hitems v hv)
      · rintro (_ | hitems)
        obtain ⟨items', hitems'⟩ := exists_onItems fun v hv => (ihitems v hv).2 (hitems v hv)
        exact ⟨.array items', by rw [project, onObjects, hitems']; rfl⟩
    | other v hv =>
      cases v with
      | null => exact iff_of_true ⟨_, rfl⟩ .null
      | array items => exact absurd rfl (hv items)
      | bool _ | number _ | string _ =>
        refine iff_of_false ?_ (by rintro ⟨⟩)
        rintro ⟨w, hw⟩
        cases hw
      | object map =>
        have hfield : ∀ s ∈ tree, ∀ field, Resolved ts t s field →
            ((∃ w, projectField field map = some w) ↔ _) := fun s hs field h =>
          exists_projectField_iff h fun _ _ => ih s hs
        have hpicked : (∃ w, project (.mk type (ts.isPrimary t) fields) (.object map) = some w) ↔
            ∃ picked, List.Forall₂ (Picked map) fields picked := by simp [project_object]
        rw [hpicked, exists_picked_iff, SelectionTree.coveredBy_object]
        constructor
        · intro h s hs
          obtain ⟨field, hmem, hs'⟩ := exists_of_mem_forall₂ hfields hs
          exact (hfield s hs field hs').1 (h field hmem)
        · intro h field hmem
          obtain ⟨s, hs, hs'⟩ := exists_of_mem_forall₂ hfields.flip hmem
          exact (hfield s hs field hs').2 (h s hs)

/-! ### Selected values -/

/-- The object whose fields are selected for a value of a type: the value itself if it has all of
    them or the type is not primary, and the document of its entity otherwise. -/
inductive FieldsFrom (ts : TypeSystem) (storage : Storage) (t : SourceType) (tree : SelectionTree)
    (v : Json) : Json.Fields → Prop
  | value : (ts.isPrimary t = true → tree.CoveredBy v) → FieldsFrom ts storage t tree v v.fields
  | document {document : Json.Fields} : ts.isPrimary t = true → ¬ tree.CoveredBy v →
      (storage.entity (EntityKey.ofValue v t.name)).wait = .ok document →
      FieldsFrom ts storage t tree v document

/-- The value of a selected field of a type and its name, taken from an object. -/
inductive FieldSelected (ts : TypeSystem) (storage : Storage) (t : SourceType)
    (map : Json.Fields) : Selection → String × Json → Prop
  | leaf {name : String} : FieldSelected ts storage t map (.mk name [])
      (name, (Json.Fields.get? name map).getD .null)
  | nested {name : String} {children : SelectionTree} {declared : FieldDeclaration}
      {projection : KeyProjection} {v : Json} : children ≠ [] →
      t.field? name = some declared → ofSelection ts declared.type.core children = .ok projection →
      (select storage projection ((Json.Fields.get? name map).getD .null)).wait = .ok v →
      FieldSelected ts storage t map (.mk name children) (name, v)

theorem FieldSelected.name_eq {storage : Storage} {t : SourceType} {map : Json.Fields}
    {s : Selection} {p : String × Json} (h : FieldSelected ts storage t map s p) :
    p.1 = s.name := by
  cases h <;> rfl

/-- What is selected of a value of a type by a projection. -/
inductive Selected (ts : TypeSystem) (storage : Storage) (t : SourceType) (tree : SelectionTree)
    (projection : KeyProjection) : Json → Json → Prop
  | null : Selected ts storage t tree projection .null .null
  | array {items items' : List Json} :
      List.Forall₂ (fun v w => (select storage projection v).wait = .ok w) items items' →
      Selected ts storage t tree projection (.array items) (.array items')
  | object {v : Json} {map : Json.Fields} {picked : List (String × Json)} :
      v ≠ .null → (∀ items, v ≠ .array items) → FieldsFrom ts storage t tree v map →
      List.Forall₂ (FieldSelected ts storage t map) tree picked →
      Selected ts storage t tree projection v (.object (Json.Fields.ofList picked))

variable {storage : Storage}

/-- The fields of a value come from one object only. -/
theorem FieldsFrom.unique {t : SourceType} {tree : SelectionTree} {v : Json}
    {map map' : Json.Fields} (h : FieldsFrom ts storage t tree v map)
    (h' : FieldsFrom ts storage t tree v map') : map = map' := by
  cases h with
  | value hcovered =>
    cases h' with
    | value => rfl
    | document hprimary hnot => exact absurd (hcovered hprimary) hnot
  | document hprimary hnot hdocument =>
    cases h' with
    | value hcovered => exact absurd (hcovered hprimary) hnot
    | document _ _ hdocument' => exact Except.ok.inj (hdocument.symm.trans hdocument')

theorem fieldSelected_of_selectField {t : SourceType} {map : Json.Fields} {s : Selection}
    {field : KeyField} (h : Resolved ts t s field) {p : String × Json}
    (hselect : (selectField storage field map).wait = .ok p) :
    FieldSelected ts storage t map s p := by
  cases h with
  | leaf =>
    obtain rfl := Except.ok.inj hselect
    exact .leaf
  | nested hchildren hdeclared hprojection =>
    obtain ⟨v, hv, rfl⟩ := Outcome.map_eq_ok.1 hselect
    exact .nested hchildren hdeclared hprojection hv

theorem fieldSelected_of_forall₂ {t : SourceType} {map : Json.Fields} {tree : SelectionTree}
    {fields : List KeyField} {picked : List (String × Json)}
    (hfields : List.Forall₂ (Resolved ts t) tree fields)
    (hpicked : List.Forall₂ (fun field p => (selectField storage field map).wait = .ok p) fields
      picked) : List.Forall₂ (FieldSelected ts storage t map) tree picked := by
  induction hfields generalizing picked with
  | nil =>
    cases hpicked
    exact .nil
  | cons hfirst _ ih =>
    cases hpicked with
    | cons hp hrest => exact .cons (fieldSelected_of_selectField hfirst hp) (ih hrest)

theorem select_array_eq {projection : KeyProjection} {items : List Json}
    (h : projection.project (.array items) = none) :
    select storage projection (.array items) = Eventual.map (Except.map .array)
      (EventualResult.joinAll (items.map (select storage projection))) := by
  obtain ⟨type, isPrimary, fields⟩ := projection
  rw [select, selectWith_array h, selectItems_eq]

/-- An array is selected item by item, whether all of it can be projected or not. -/
theorem select_array {projection : KeyProjection} {items : List Json} {w : Json}
    (h : (select storage projection (.array items)).wait = .ok w) :
    ∃ items', w = .array items' ∧
      List.Forall₂ (fun v w => (select storage projection v).wait = .ok w) items items' := by
  cases hproject : projection.project (.array items) with
  | some u =>
    rw [select_eq_ok hproject] at h
    obtain rfl := Except.ok.inj h
    obtain ⟨type, isPrimary, fields⟩ := projection
    obtain ⟨items', hitems, rfl⟩ := Option.map_eq_some_iff.1 hproject
    refine ⟨items', rfl, (onItems_eq_some.1 hitems).imp fun v w hw => ?_⟩
    rw [select_eq_ok (show project (.mk type isPrimary fields) v = some w from hw)]
    rfl
  | none =>
    rw [select_array_eq hproject] at h
    obtain ⟨items', hitems, rfl⟩ := Outcome.map_eq_ok.1 h
    refine ⟨items', rfl, ?_⟩
    rw [EventualResult.wait_joinAll, List.map_map, ← List.forall₂_eq_eq_eq,
      List.forall₂_map_left_iff, List.forall₂_map_right_iff] at hitems
    exact hitems

/-- Anything else is selected by gathering fields, also where it can be projected. -/
theorem exists_fieldsFrom {t : SourceType} {tree : SelectionTree} {fields : List KeyField}
    (hprojection : ofSelection ts t.name tree = .ok (.mk t.name (ts.isPrimary t) fields))
    {v w : Json} (hnull : v ≠ .null) (harray : ∀ items, v ≠ .array items)
    (h : (select storage (.mk t.name (ts.isPrimary t) fields) v).wait = .ok w) :
    ∃ map, FieldsFrom ts storage t tree v map ∧
      (gather (selectFields storage fields map)).wait = .ok w := by
  have hcovered := exists_project_iff hprojection v
  cases hproject : project (.mk t.name (ts.isPrimary t) fields) v with
  | some u =>
    rw [select_eq_ok hproject] at h
    obtain rfl := Except.ok.inj h
    refine ⟨v.fields, .value fun _ => hcovered.1 ⟨u, hproject⟩, ?_⟩
    cases v with
    | object map => exact wait_gather_of_project hproject
    | null => exact absurd rfl hnull
    | array items => exact absurd rfl (harray items)
    | _ => cases hproject
  | none =>
    rw [select, selectWith_eq_complete harray hproject] at h
    split_ifs at h with hprimary
    · rw [EventualResult.wait_andThen, Outcome.bind_eq_ok] at h
      obtain ⟨document, hdocument, h⟩ := h
      refine ⟨document, .document hprimary ?_ ((wait_entityOf t.name v).1 hdocument), h⟩
      rw [← hcovered, hproject]
      simp
    · exact ⟨v.fields, .value fun htrue => absurd htrue hprimary, h⟩

/-- What is selected of a value by the projection of a selection. -/
theorem selected_of_select {type : String} {tree : SelectionTree} {projection : KeyProjection}
    (hprojection : ofSelection ts type tree = .ok projection) {v w : Json}
    (h : (select storage projection v).wait = .ok w) :
    ∃ t, ts.get? type = some t ∧ Selected ts storage t tree projection v w := by
  obtain ⟨t, fields, ht, rfl, hfields⟩ := resolved_of_ofSelection hprojection
  obtain rfl := TypeSystem.name_of_get? ht
  refine ⟨t, ht, ?_⟩
  by_cases hnull : v = .null
  · subst hnull
    rw [select, selectWith_eq_ok (show project _ Json.null = some .null from rfl)] at h
    obtain rfl := Except.ok.inj h
    exact .null
  by_cases harray : ∃ items, v = .array items
  · obtain ⟨items, rfl⟩ := harray
    obtain ⟨items', rfl, hitems⟩ := select_array h
    exact .array hitems
  have harray : ∀ items, v ≠ .array items := not_exists.1 harray
  obtain ⟨map, hmap, h⟩ := exists_fieldsFrom hprojection hnull harray h
  obtain ⟨picked, hpicked, rfl⟩ := wait_gather.1 h
  exact .object hnull harray hmap (fieldSelected_of_forall₂ hfields hpicked)

/-! ### The fields of a selected object -/

section Picked

variable {t : SourceType} {map : Json.Fields} {tree : SelectionTree}
  {picked : List (String × Json)} (hpicked : List.Forall₂ (FieldSelected ts storage t map) tree picked)

include hpicked

theorem mem_names_of_fieldSelected {name : String} :
    name ∈ Json.Fields.names (Json.Fields.ofList picked) ↔ name ∈ tree.names := by
  have hnames : Json.Fields.names picked = tree.names :=
    map_eq_of_forall₂ hpicked fun _ _ h => h.name_eq
  rw [Json.Fields.mem_names_ofList, hnames]

/-- A field of a selected object is the one which was selected last under its name. -/
theorem fieldSelected_of_get? {name : String} {v : Json}
    (hget : Json.Fields.get? name (Json.Fields.ofList picked) = some v) :
    ∃ s, tree.last? name = some s ∧ FieldSelected ts storage t map s (name, v) := by
  rw [Json.Fields.get?_ofList_eq_last] at hget
  obtain ⟨⟨n, w⟩, hlast, rfl⟩ := Option.map_eq_some_iff.1 hget
  obtain rfl : n = name := by
    simpa using (List.mem_filter.1 (List.mem_of_getLast? hlast)).2
  refine exists_getLast?_of_forall₂ (List.rel_filter ?_ hpicked) hlast
  intro s p hp
  simp only [decide_eq_true_eq, hp.name_eq]

end Picked

end KeyProjection

end EntityGraph
