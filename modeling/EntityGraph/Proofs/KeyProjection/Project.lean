import Mathlib
import EntityGraph.Proofs.Json.Numbers
import EntityGraph.Proofs.KeyProjection.Layers

/-!
# Projected values

A projection is taken layer by layer, and each layer is an object put together from the values of
its fields. So what holds of a projected value is shown for `null`, for arrays, and for objects
made of the values of the fields.

* A value is *settled* if it is in order and projected to itself (`KeyProjection.Settled`). Every
  projection of a value in order is settled, if no layer names a field twice
  (`settled_of_project`).
* A projection only looks at the fields it names (`projectFields_congr`) and does not look at
  numbers (`project_mapNumbers`).
* If one value agrees with another one on the key fields, its projection, where it has one, is the
  projection of the other value up to canonical form (`project_of_agree`).
-/

namespace EntityGraph

open Json (mapNumbers mapFields)

namespace KeyProjection

/-! ### Objects from the values of their fields -/

/-- The value of a key field of an object, under the name of the field. -/
def Picked (map : Json.Fields) (field : KeyField) (p : String × Json) : Prop :=
  p.1 = field.name ∧ projectField field map = some p.2

theorem projectFields_eq_some {fields : List KeyField} {map acc result : Json.Fields} :
    projectFields fields map acc = some result ↔
      ∃ picked, List.Forall₂ (Picked map) fields picked ∧
        result = picked.foldl (fun acc p => Json.Fields.insert p.1 p.2 acc) acc := by
  induction fields generalizing acc with
  | nil =>
    rw [projectFields, Option.some.injEq]
    constructor
    · rintro rfl
      exact ⟨[], .nil, rfl⟩
    · rintro ⟨picked, hpicked, rfl⟩
      cases hpicked
      rfl
  | cons field rest ih =>
    rw [projectFields]
    cases hvalue : projectField field map with
    | none =>
      refine iff_of_false (by simp) ?_
      rintro ⟨picked, hpicked, _⟩
      cases hpicked with
      | cons hfirst _ => rw [hfirst.2] at hvalue; cases hvalue
    | some value =>
      simp only [ih]
      constructor
      · rintro ⟨picked, hpicked, rfl⟩
        exact ⟨(field.name, value) :: picked, .cons ⟨rfl, hvalue⟩ hpicked, rfl⟩
      · rintro ⟨picked, hpicked, rfl⟩
        cases hpicked with
        | @cons _ p _ picked hfirst hrest =>
          obtain ⟨hname, hp⟩ := hfirst
          rw [hvalue, Option.some.injEq] at hp
          exact ⟨picked, hrest, by rw [List.foldl_cons, hname, hp]⟩

theorem projectFields_nil_eq_some {fields : List KeyField} {map result : Json.Fields} :
    projectFields fields map [] = some result ↔
      ∃ picked, List.Forall₂ (Picked map) fields picked ∧ result = Json.Fields.ofList picked :=
  projectFields_eq_some

theorem project_object {type : String} {isPrimary : Bool} {fields : List KeyField}
    {map : Json.Fields} {w : Json} :
    project (.mk type isPrimary fields) (.object map) = some w ↔
      ∃ picked, List.Forall₂ (Picked map) fields picked ∧
        w = .object (Json.Fields.ofList picked) := by
  rw [project, onObjects, Option.map_eq_some_iff]
  constructor
  · rintro ⟨result, hresult, rfl⟩
    obtain ⟨picked, hpicked, rfl⟩ := projectFields_nil_eq_some.1 hresult
    exact ⟨picked, hpicked, rfl⟩
  · rintro ⟨picked, hpicked, rfl⟩
    exact ⟨_, projectFields_nil_eq_some.2 ⟨picked, hpicked, rfl⟩, rfl⟩

/-- Only the fields a layer names are looked at. -/
theorem projectFields_congr {fields : List KeyField} {map map' : Json.Fields}
    (h : ∀ name ∈ fields.map KeyField.name, Json.Fields.get? name map = Json.Fields.get? name map')
    (acc : Json.Fields) : projectFields fields map acc = projectFields fields map' acc := by
  induction fields generalizing acc with
  | nil => rfl
  | cons field rest ih =>
    have hfield : projectField field map = projectField field map' := by
      have hget := h field.name List.mem_cons_self
      cases field with
      | leaf name => exact hget
      | nested name projection =>
        rw [KeyField.name] at hget
        rw [projectField, projectField, hget]
    rw [projectFields, projectFields, hfield]
    split
    · rfl
    · exact ih (fun name hname => h name (List.mem_cons_of_mem _ hname)) _

theorem project_congr {projection : KeyProjection} {map map' : Json.Fields}
    (h : ∀ name ∈ projection.names, Json.Fields.get? name map = Json.Fields.get? name map') :
    projection.project (.object map) = projection.project (.object map') := by
  cases projection with
  | mk type isPrimary fields =>
    rw [names, KeyProjection.fields] at h
    rw [project, onObjects, onObjects, projectFields_congr h]

/-! ### Settled values -/

/-- The value is in order and projected to itself. -/
structure Settled (projection : KeyProjection) (v : Json) : Prop where
  ordered : v.Ordered
  project : projection.project v = some v

/-- The value is one of the key field in a settled object. -/
def FieldSettled : KeyField → Json → Prop
  | .leaf _, v => v.Ordered
  | .nested _ projection, v => projection.Settled v

theorem FieldSettled.ordered {field : KeyField} {v : Json} (h : FieldSettled field v) :
    v.Ordered := by
  cases field with
  | leaf => exact h
  | nested => exact Settled.ordered h

theorem FieldSettled.projectField {field : KeyField} {v : Json} (h : FieldSettled field v)
    {map : Json.Fields} (hget : Json.Fields.get? field.name map = some v) :
    projectField field map = some v := by
  cases field with
  | leaf => exact hget
  | nested name projection =>
    rw [KeyField.name] at hget
    rw [KeyProjection.projectField, hget]
    exact Settled.project h

theorem settled_null (projection : KeyProjection) : projection.Settled .null :=
  ⟨trivial, by cases projection; rfl⟩

theorem onItems_eq_self {f : Json.Fields → Option Json} {items : List Json}
    (h : ∀ v ∈ items, onObjects f v = some v) : onItems f items = some items := by
  induction items with
  | nil => rfl
  | cons v rest ih =>
    rw [onItems, h v List.mem_cons_self, ih fun w hw => h w (List.mem_cons_of_mem v hw)]
    rfl

theorem settled_array {projection : KeyProjection} {items : List Json}
    (h : ∀ v ∈ items, projection.Settled v) : projection.Settled (.array items) := by
  refine ⟨Json.orderedItems_iff.2 fun v hv => (h v hv).ordered, ?_⟩
  cases projection with
  | mk type isPrimary fields =>
    rw [project, onObjects, onItems_eq_self fun v hv => (h v hv).project, Option.map_some]

/-- An object made of settled values is settled, if they go by different names. -/
theorem settled_ofList {type : String} {isPrimary : Bool} {fields : List KeyField}
    {picked : List (String × Json)} (hnames : (fields.map KeyField.name).Nodup)
    (h : List.Forall₂ (fun field p => p.1 = field.name ∧ FieldSettled field p.2) fields picked) :
    Settled (.mk type isPrimary fields) (.object (Json.Fields.ofList picked)) := by
  -- The names are those of the layer, so no value replaces another one.
  have hpicked : Json.Fields.names picked = fields.map KeyField.name := by
    clear hnames
    induction h with
    | nil => rfl
    | cons hfirst _ ih => rw [List.map_cons, ← ih, ← hfirst.1]; rfl
  rw [← hpicked] at hnames
  have hordered : ∀ p ∈ picked, p.2.Ordered :=
    ((List.forall₂_and_left (R := fun _ _ => True) picked fields).1
      (h.flip.imp fun p field hp => ⟨hp.2.ordered, trivial⟩)).1
  have hget : ∀ p ∈ picked, Json.Fields.get? p.1 (Json.Fields.ofList picked) = some p.2 :=
    fun p hp => Json.Fields.get?_ofList hnames hp
  refine ⟨Json.Fields.ordered_ofList hordered, project_object.2 ⟨picked, ?_, rfl⟩⟩
  refine ((List.forall₂_and_left picked fields).2 ⟨hget, h.flip⟩).flip.imp ?_
  rintro field p ⟨hget, hname, hsettled⟩
  exact ⟨hname, hsettled.projectField (hname ▸ hget)⟩

section Objects

variable {projection : KeyProjection} {f : Json.Fields → Option Json}

mutual

/-- If settled values are made of objects, they are made of all values. -/
theorem settled_of_onObjects
    (hf : ∀ map w, Json.Fields.Ordered map → f map = some w → projection.Settled w) :
    ∀ v w, v.Ordered → onObjects f v = some w → projection.Settled w
  | .null, w, _, h => by
    rw [onObjects, Option.some.injEq] at h
    exact h ▸ settled_null projection
  | .bool _, _, _, h | .number _, _, _, h | .string _, _, _, h => by cases h
  | .array items, w, ho, h => by
    rw [onObjects, Option.map_eq_some_iff] at h
    obtain ⟨items', hitems, rfl⟩ := h
    exact settled_array (settled_of_onItems hf items items' ho hitems)
  | .object map, w, ho, h => hf map w ho h

theorem settled_of_onItems
    (hf : ∀ map w, Json.Fields.Ordered map → f map = some w → projection.Settled w) :
    ∀ items items', Json.OrderedItems items →
    onItems f items = some items' → ∀ w ∈ items', projection.Settled w
  | [], items', _, h => by
    rw [onItems, Option.some.injEq] at h
    simp [← h]
  | v :: rest, items', ho, h => by
    rw [onItems] at h
    split at h
    · cases h
    · next w hw =>
      obtain ⟨rest', hrest, rfl⟩ := Option.map_eq_some_iff.1 h
      intro u hu
      rcases List.mem_cons.1 hu with rfl | hu
      · exact settled_of_onObjects hf v u ho.1 hw
      · exact settled_of_onItems hf rest rest' ho.2 hrest u hu

end

end Objects

mutual

/-- Projecting gives settled values. -/
theorem settled_of_project : ∀ (projection : KeyProjection), projection.EveryLayer EachOnce →
    ∀ {v w : Json}, v.Ordered → projection.project v = some w → projection.Settled w
  | .mk type isPrimary fields, hlayer, v, w, ho, h => by
    refine settled_of_onObjects (fun map w ho h => ?_) v w ho h
    obtain ⟨result, hresult, rfl⟩ := Option.map_eq_some_iff.1 h
    obtain ⟨picked, hpicked, rfl⟩ := projectFields_nil_eq_some.1 hresult
    exact settled_ofList hlayer.1 (settled_of_picked fields hlayer.2 ho hpicked)

theorem settled_of_picked : ∀ (fields : List KeyField), EveryBelow EachOnce fields →
    ∀ {map : Json.Fields} {picked : List (String × Json)}, Json.Fields.Ordered map →
    List.Forall₂ (Picked map) fields picked →
    List.Forall₂ (fun field p => p.1 = field.name ∧ FieldSettled field p.2) fields picked
  | [], _, _, _, _, h => by
    cases h
    exact .nil
  | field :: rest, hbelow, _, _, ho, h => by
    cases h with
    | cons hfirst hrest =>
      exact .cons ⟨hfirst.1, settled_of_projectField field hbelow.1 ho hfirst.2⟩
        (settled_of_picked rest hbelow.2 ho hrest)

theorem settled_of_projectField : ∀ (field : KeyField), FieldBelow EachOnce field →
    ∀ {map : Json.Fields} {v : Json}, Json.Fields.Ordered map →
    projectField field map = some v → FieldSettled field v
  | .leaf name, _, _, _, ho, h => ho.of_get? h
  | .nested name projection, hbelow, _, _, ho, h => by
    rw [projectField] at h
    split at h
    · cases h
    · next u hu => exact settled_of_project projection hbelow (ho.of_get? hu) h

end

/-! ### Other numbers -/

section MapNumbers

variable (g : Number → Number)

section Objects

variable {f : Json.Fields → Option Json}

mutual

theorem onObjects_mapNumbers (hf : ∀ map, f (mapFields g map) = (f map).map (mapNumbers g)) :
    ∀ v, onObjects f (mapNumbers g v) = (onObjects f v).map (mapNumbers g)
  | .null | .bool _ | .number _ | .string _ => rfl
  | .array items => by
    rw [mapNumbers, onObjects, onObjects, onItems_mapItems hf items, Option.map_map, Option.map_map]
    rfl
  | .object map => hf map

theorem onItems_mapItems (hf : ∀ map, f (mapFields g map) = (f map).map (mapNumbers g)) :
    ∀ items, onItems f (Json.mapItems g items) = (onItems f items).map (Json.mapItems g)
  | [] => rfl
  | v :: rest => by
    rw [Json.mapItems, onItems, onItems, onObjects_mapNumbers hf v, onItems_mapItems hf rest]
    cases onObjects f v with
    | none => rfl
    | some w => simp only [Option.map_some, Option.map_map]; rfl

end

end Objects

mutual

/-- A projection does not look at numbers. -/
theorem project_mapNumbers : ∀ (projection : KeyProjection) (v : Json),
    projection.project (mapNumbers g v) = (projection.project v).map (mapNumbers g)
  | .mk type isPrimary fields, v => by
    refine onObjects_mapNumbers g (fun map => ?_) v
    have hfields := projectFields_mapFields fields map []
    rw [mapFields] at hfields
    rw [hfields, Option.map_map, Option.map_map]
    rfl

theorem projectFields_mapFields : ∀ (fields : List KeyField) (map acc : Json.Fields),
    projectFields fields (mapFields g map) (mapFields g acc) =
      (projectFields fields map acc).map (mapFields g)
  | [], _, _ => rfl
  | field :: rest, map, acc => by
    rw [projectFields, projectFields, projectField_mapFields field map]
    cases projectField field map with
    | none => rfl
    | some v =>
      simp only [Option.map_some]
      rw [← Json.mapFields_insert, projectFields_mapFields rest map]

theorem projectField_mapFields : ∀ (field : KeyField) (map : Json.Fields),
    projectField field (mapFields g map) = (projectField field map).map (mapNumbers g)
  | .leaf name, map => Json.get?_mapFields g name map
  | .nested name projection, map => by
    rw [projectField, projectField, Json.get?_mapFields]
    cases Json.Fields.get? name map with
    | none => rfl
    | some v => exact project_mapNumbers projection v

end

end MapNumbers

/-! ### Agreement -/

mutual

/-- The values have the same shape, down to the objects in them, which satisfy `R`. A value which
    is neither `null` nor an array nor an object has no key fields and goes with everything. -/
def Matching (R : Json.Fields → Json.Fields → Prop) : Json → Json → Prop
  | .null, w => w = .null
  | .array items, .array items' => MatchingItems R items items'
  | .array _, _ => False
  | .object map, .object map' => R map map'
  | .object _, _ => False
  | _, _ => True

def MatchingItems (R : Json.Fields → Json.Fields → Prop) : List Json → List Json → Prop
  | [], [] => True
  | v :: rest, w :: rest' => Matching R v w ∧ MatchingItems R rest rest'
  | _, _ => False

end

mutual

/-- The first value agrees with the second one on the key fields: those it has are fields of the
    second one as well, leaves with the same canonical form, others agreeing in turn, array by
    array and `null` by `null`. -/
def Agrees : KeyProjection → Json → Json → Prop
  | .mk _ _ fields => Matching (FieldsAgree fields)

def FieldsAgree : List KeyField → Json.Fields → Json.Fields → Prop
  | [], _, _ => True
  | field :: rest, map, map' => FieldAgrees field map map' ∧ FieldsAgree rest map map'

def FieldAgrees : KeyField → Json.Fields → Json.Fields → Prop
  | .leaf name, map, map' => ∀ v, Json.Fields.get? name map = some v →
      ∃ w, Json.Fields.get? name map' = some w ∧ v.canonical = w.canonical
  | .nested name projection, map, map' => ∀ v, Json.Fields.get? name map = some v →
      ∃ w, Json.Fields.get? name map' = some w ∧ Agrees projection v w

end

section Objects

variable {f : Json.Fields → Option Json} {R : Json.Fields → Json.Fields → Prop}

mutual

theorem onObjects_of_matching
    (hf : ∀ map map' v, R map map' → f map = some v →
      ∃ w, f map' = some w ∧ v.canonical = w.canonical) :
    ∀ (v w u : Json), Matching R v w → onObjects f v = some u →
      ∃ u', onObjects f w = some u' ∧ u.canonical = u'.canonical
  | .null, w, u, hvw, h => by
    rw [Matching] at hvw
    exact ⟨u, hvw ▸ h, rfl⟩
  | .bool _, _, _, _, h | .number _, _, _, _, h | .string _, _, _, _, h => by cases h
  | .array items, w, u, hvw, h => by
    obtain ⟨us, hus, rfl⟩ := Option.map_eq_some_iff.1 h
    cases w with
    | array items' =>
      obtain ⟨us', hus', heq⟩ := onItems_of_matching hf items items' us hvw hus
      exact ⟨.array us', by rw [onObjects, hus', Option.map_some], by
        rw [Json.canonical, Json.canonical, heq]⟩
    | _ => exact absurd hvw id
  | .object map, w, u, hvw, h => by
    cases w with
    | object map' => exact hf map map' u hvw h
    | _ => exact absurd hvw id

theorem onItems_of_matching
    (hf : ∀ map map' v, R map map' → f map = some v →
      ∃ w, f map' = some w ∧ v.canonical = w.canonical) :
    ∀ (items items' us : List Json), MatchingItems R items items' → onItems f items = some us →
      ∃ us', onItems f items' = some us' ∧ Json.canonicalItems us = Json.canonicalItems us'
  | [], items', us, hmatch, h => by
    cases items' with
    | nil => exact ⟨us, h, rfl⟩
    | cons => exact absurd hmatch id
  | v :: rest, items', us, hmatch, h => by
    cases items' with
    | nil => exact absurd hmatch id
    | cons w rest' =>
      rw [onItems] at h
      split at h
      · cases h
      · next u hu =>
        obtain ⟨us, hus, rfl⟩ := Option.map_eq_some_iff.1 h
        obtain ⟨u', hu', heq⟩ := onObjects_of_matching hf v w u hmatch.1 hu
        obtain ⟨us', hus', heqs⟩ := onItems_of_matching hf rest rest' us hmatch.2 hus
        exact ⟨u' :: us', by rw [onItems, hu', hus']; rfl, by
          rw [Json.canonicalItems, Json.canonicalItems, heq, heqs]⟩

end

end Objects

mutual

/-- What one value has of the key, a value it agrees with has as well. -/
theorem project_of_agrees : ∀ (projection : KeyProjection) {v w u : Json},
    projection.Agrees v w → projection.project v = some u →
      ∃ u', projection.project w = some u' ∧ u.canonical = u'.canonical
  | .mk type isPrimary fields, v, w, u, hvw, h => by
    refine onObjects_of_matching (fun map map' u hmap hu => ?_) v w u hvw h
    obtain ⟨result, hresult, rfl⟩ := Option.map_eq_some_iff.1 hu
    obtain ⟨result', hresult', heq⟩ := projectFields_of_agree fields hmap rfl hresult
    exact ⟨.object result', by rw [hresult', Option.map_some], by
      rw [Json.canonical, Json.canonical, heq]⟩

theorem projectFields_of_agree : ∀ (fields : List KeyField)
    {map map' acc acc' result : Json.Fields}, FieldsAgree fields map map' →
    Json.canonicalFields acc = Json.canonicalFields acc' →
    projectFields fields map acc = some result →
      ∃ result', projectFields fields map' acc' = some result' ∧
        Json.canonicalFields result = Json.canonicalFields result'
  | [], _, _, _, acc', _, _, hacc, h => by
    rw [projectFields, Option.some.injEq] at h
    exact ⟨acc', rfl, h ▸ hacc⟩
  | field :: rest, map, map', acc, acc', result, hmap, hacc, h => by
    rw [projectFields] at h
    split at h
    · cases h
    · next u hu =>
      obtain ⟨u', hu', heq⟩ := projectField_of_agrees field hmap.1 hu
      -- The two objects grow side by side and stay alike up to canonical form.
      have hinsert : Json.canonicalFields (Json.Fields.insert field.name u acc) =
          Json.canonicalFields (Json.Fields.insert field.name u' acc') := by
        simp only [Json.canonicalFields_eq, Json.canonical_eq] at hacc heq ⊢
        rw [Json.mapFields_insert, Json.mapFields_insert, hacc, heq]
      obtain ⟨result', hresult', hcanonical⟩ := projectFields_of_agree rest hmap.2 hinsert h
      exact ⟨result', by rw [projectFields, hu']; exact hresult', hcanonical⟩

theorem projectField_of_agrees : ∀ (field : KeyField) {map map' : Json.Fields} {u : Json},
    FieldAgrees field map map' → projectField field map = some u →
      ∃ u', projectField field map' = some u' ∧ u.canonical = u'.canonical
  | .leaf name, _, _, u, hmap, h => hmap u h
  | .nested name projection, map, map', u, hmap, h => by
    rw [projectField] at h
    split at h
    · cases h
    · next v hv =>
      obtain ⟨w, hw, hvw⟩ := hmap v hv
      obtain ⟨u', hu', heq⟩ := project_of_agrees projection hvw h
      exact ⟨u', by rw [projectField, hw]; exact hu', heq⟩

end

end KeyProjection

end EntityGraph
