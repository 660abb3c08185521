import Mathlib
import EntityGraph.KeyProjection
import EntityGraph.Proofs.Outcome

/-!
# Layers of key fields

The fields selected at one level are a layer, in a selection as in the projection it is resolved
to. Resolving keeps the names of every layer (`KeyProjection.names_of_ofSelection`), so a
projection names no field twice if the selection does not (`KeyProjection.eachOnce_of_ofSelection`).
-/

namespace EntityGraph

namespace Selection

mutual

/-- Every layer below the selected field satisfies `P`. -/
def Below (P : SelectionTree → Prop) : Selection → Prop
  | .mk _ children => P children ∧ AllBelow P children

def AllBelow (P : SelectionTree → Prop) : List Selection → Prop
  | [] => True
  | s :: rest => Below P s ∧ AllBelow P rest

end

end Selection

namespace SelectionTree

/-- Every layer of the selection satisfies `P`. -/
def EveryLayer (P : SelectionTree → Prop) (tree : SelectionTree) : Prop :=
  P tree ∧ Selection.AllBelow P tree

def names (tree : SelectionTree) : List String := tree.map Selection.name

/-- The outermost layer names no field twice. -/
def EachOnce (tree : SelectionTree) : Prop := tree.names.Nodup

/-- The outermost layer does not name the field. -/
def Avoids (name : String) (tree : SelectionTree) : Prop := name ∉ tree.names

end SelectionTree

namespace KeyProjection

mutual

/-- The projection and all projections nested in it satisfy `P`. -/
def EveryLayer (P : KeyProjection → Prop) : KeyProjection → Prop
  | .mk type isPrimary fields => P (.mk type isPrimary fields) ∧ EveryBelow P fields

def EveryBelow (P : KeyProjection → Prop) : List KeyField → Prop
  | [] => True
  | field :: rest => FieldBelow P field ∧ EveryBelow P rest

def FieldBelow (P : KeyProjection → Prop) : KeyField → Prop
  | .leaf _ => True
  | .nested _ projection => EveryLayer P projection

end

/-- The names of the fields of the outermost layer. -/
def names (projection : KeyProjection) : List String := projection.fields.map KeyField.name

/-- The outermost layer names no field twice. -/
def EachOnce (projection : KeyProjection) : Prop := projection.names.Nodup

variable {ts : TypeSystem}

mutual

theorem name_of_fieldOfSelection : ∀ (s : Selection) {t : SourceType} {field : KeyField},
    fieldOfSelection ts t s = .ok field →
      field.name = s.name ∧ (s.Below SelectionTree.EachOnce → FieldBelow EachOnce field)
  | .mk name children, t, field, h => by
    rw [fieldOfSelection] at h
    split at h
    · cases h
    · split at h
      · cases h
        exact ⟨rfl, fun _ => trivial⟩
      · split at h
        · cases h
        · next c cs _ _ _ =>
          obtain ⟨fields, hfields, h⟩ := Outcome.bind_eq_ok.1 h
          cases h
          obtain ⟨hnames, hbelow⟩ := names_of_fieldsOfSelection (c :: cs) hfields
          refine ⟨rfl, fun heach => ⟨?_, hbelow heach.2⟩⟩
          exact (congrArg List.Nodup hnames).mpr heach.1

/-- The key fields of a selection are named as the selected fields, at every layer. -/
theorem names_of_fieldsOfSelection : ∀ (tree : List Selection) {t : SourceType}
    {fields : List KeyField}, fieldsOfSelection ts t tree = .ok fields →
      fields.map KeyField.name = SelectionTree.names tree ∧
        (Selection.AllBelow SelectionTree.EachOnce tree → EveryBelow EachOnce fields)
  | [], t, fields, h => by
    cases h
    exact ⟨rfl, fun _ => trivial⟩
  | s :: rest, t, fields, h => by
    rw [fieldsOfSelection] at h
    obtain ⟨field, hfield, h⟩ := Outcome.bind_eq_ok.1 h
    obtain ⟨fields, hfields, h⟩ := Outcome.bind_eq_ok.1 h
    cases h
    obtain ⟨hname, hfirst⟩ := name_of_fieldOfSelection s hfield
    obtain ⟨hnames, hrest⟩ := names_of_fieldsOfSelection rest hfields
    refine ⟨?_, fun heach => ⟨hfirst heach.1, hrest heach.2⟩⟩
    rw [List.map_cons, hname, hnames, SelectionTree.names, SelectionTree.names, List.map_cons]

end

theorem ofSelection_eq_ok {type : String} {selection : SelectionTree}
    {projection : KeyProjection} (h : ofSelection ts type selection = .ok projection) :
    ∃ t fields, ts.get? type = some t ∧ fieldsOfSelection ts t selection = .ok fields ∧
      projection = .mk type (ts.isPrimary t) fields := by
  rw [ofSelection] at h
  split at h
  · cases h
  · next t ht =>
    obtain ⟨fields, hfields, h⟩ := Outcome.bind_eq_ok.1 h
    exact ⟨t, fields, ht, hfields, (Except.ok.inj h).symm⟩

theorem names_of_ofSelection {type : String} {selection : SelectionTree}
    {projection : KeyProjection} (h : ofSelection ts type selection = .ok projection) :
    projection.names = selection.names := by
  obtain ⟨t, fields, -, hfields, rfl⟩ := ofSelection_eq_ok h
  exact (names_of_fieldsOfSelection selection hfields).1

theorem eachOnce_of_ofSelection {type : String} {selection : SelectionTree}
    {projection : KeyProjection} (h : ofSelection ts type selection = .ok projection)
    (honce : selection.EveryLayer SelectionTree.EachOnce) : projection.EveryLayer EachOnce := by
  have hnames := names_of_ofSelection h
  obtain ⟨t, fields, -, hfields, rfl⟩ := ofSelection_eq_ok h
  exact ⟨(congrArg List.Nodup hnames).mpr honce.1,
    (names_of_fieldsOfSelection selection hfields).2 honce.2⟩

end KeyProjection

end EntityGraph
