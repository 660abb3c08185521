import Mathlib
import EntityGraph.KeyProjection
import EntityGraph.Proofs.Outcome

/-!
# Known fields

A selection can be resolved on a type exactly if every field it selects, at any depth, is a field
of the type it is selected on (`KeyProjection.exists_ofSelection_iff`). If it can not, a field or a
type is missing (`KeyProjection.isUnknown_of_ofSelection`).
-/

namespace EntityGraph

namespace Selection

mutual

/-- The selected field is one of the type, and so are the fields below it of the type of the
    field. -/
def Known (ts : TypeSystem) (t : SourceType) : Selection → Prop
  | .mk name children => ∃ field, t.field? name = some field ∧
      (children = [] ∨ ∃ inner, ts.get? field.type.core = some inner ∧ AllKnown ts inner children)

def AllKnown (ts : TypeSystem) (t : SourceType) : List Selection → Prop
  | [] => True
  | s :: rest => Known ts t s ∧ AllKnown ts t rest

end

end Selection

/-- A build error about a field or a type which is not there. -/
def BuildError.IsUnknown : BuildError → Prop
  | .unknownKeyField .. | .missingReplacement _ => True
  | _ => False

namespace KeyProjection

variable {ts : TypeSystem}

mutual

/-- A selected field is resolved if it is known, else something is missing. -/
theorem fieldOfSelection_known : ∀ (s : Selection) (t : SourceType),
    (s.Known ts t ∧ ∃ field, fieldOfSelection ts t s = .ok field) ∨
      ¬ s.Known ts t ∧ ∃ e, fieldOfSelection ts t s = .error e ∧ e.IsUnknown
  | .mk name children, t => by
    rw [Selection.Known, fieldOfSelection]
    cases hfield : t.field? name with
    | none => exact .inr ⟨by rintro ⟨_, ⟨⟩, _⟩, _, rfl, trivial⟩
    | some field =>
      simp only [Option.some.injEq, exists_eq_left']
      cases children with
      | nil => exact .inl ⟨.inl rfl, _, rfl⟩
      | cons c cs =>
        simp only [reduceCtorEq, false_or]
        cases hinner : ts.get? field.type.core with
        | none => exact .inr ⟨by rintro ⟨_, ⟨⟩, _⟩, _, rfl, trivial⟩
        | some inner =>
          simp only [Option.some.injEq, exists_eq_left']
          rcases fieldsOfSelection_known (c :: cs) inner with
            ⟨hknown, fields, h⟩ | ⟨hknown, e, h, he⟩
          · exact .inl ⟨hknown, _, by rw [h]; rfl⟩
          · exact .inr ⟨hknown, e, by rw [h]; rfl, he⟩

theorem fieldsOfSelection_known : ∀ (tree : List Selection) (t : SourceType),
    (Selection.AllKnown ts t tree ∧ ∃ fields, fieldsOfSelection ts t tree = .ok fields) ∨
      ¬ Selection.AllKnown ts t tree ∧
        ∃ e, fieldsOfSelection ts t tree = .error e ∧ e.IsUnknown
  | [], t => .inl ⟨trivial, [], rfl⟩
  | s :: rest, t => by
    rw [Selection.AllKnown, fieldsOfSelection]
    rcases fieldOfSelection_known s t with ⟨hs, field, h⟩ | ⟨hs, e, h, he⟩
    · rw [h]
      rcases fieldsOfSelection_known rest t with ⟨hrest, fields, h⟩ | ⟨hrest, e, h, he⟩
      · exact .inl ⟨⟨hs, hrest⟩, _, by rw [h]; rfl⟩
      · exact .inr ⟨fun hboth => hrest hboth.2, e, by rw [h]; rfl, he⟩
    · exact .inr ⟨fun hboth => hs hboth.1, e, by rw [h]; rfl, he⟩

end

/-- A selection can be resolved on a type exactly if every field it selects is there. -/
theorem exists_ofSelection_iff {type : String} {selection : SelectionTree} :
    (∃ projection, ofSelection ts type selection = .ok projection) ↔
      ∃ t, ts.get? type = some t ∧ Selection.AllKnown ts t selection := by
  rw [ofSelection]
  cases ts.get? type with
  | none => exact iff_of_false (by rintro ⟨_, ⟨⟩⟩) (by rintro ⟨_, ⟨⟩, _⟩)
  | some t =>
    simp only [Option.some.injEq, exists_eq_left']
    rcases fieldsOfSelection_known selection t with ⟨hknown, fields, h⟩ | ⟨hknown, e, h, -⟩
    · exact ⟨fun _ => hknown, fun _ => ⟨_, by rw [h]; rfl⟩⟩
    · rw [h]
      exact iff_of_false (by rintro ⟨_, ⟨⟩⟩) hknown

/-- The only reasons why a selection can not be resolved. -/
theorem isUnknown_of_ofSelection {type : String} {selection : SelectionTree} {e : BuildError}
    (h : ofSelection ts type selection = .error e) : e.IsUnknown := by
  rw [ofSelection] at h
  split at h
  · obtain rfl := Except.error.inj h
    trivial
  · next t _ =>
    rcases Outcome.bind_eq_error.1 h with h | ⟨_, _, h⟩
    · rcases fieldsOfSelection_known selection t with ⟨_, fields, hok⟩ | ⟨_, e', herror, he'⟩
      · cases hok.symm.trans h
      · exact Except.error.inj (herror.symm.trans h) ▸ he'
    · cases h

end KeyProjection

end EntityGraph
