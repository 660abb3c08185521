import Mathlib
import EntityGraph.TypeMap
import EntityGraph.Proofs.Outcome

/-!
# Resolved references

A reference is taken over as it is or refused. So an argument or a field which is resolved is the
one which was declared (`TypeMap.remapInputValue_eq_ok`, `TypeMap.remapField_eq_ok`), and what is
known of it is the kind of the type at its core.
-/

namespace EntityGraph

namespace Kind

/-- Values which may be passed in are those of scalars, enums and input objects. -/
theorem isInput_iff {kind : Kind} :
    kind.isInput = true ↔ kind = .scalar ∨ kind = .enum ∨ kind = .inputObject := by
  cases kind <;> simp [isInput]

/-- Values which may be returned are those of all kinds but input objects. -/
theorem isOutput_iff {kind : Kind} :
    kind.isOutput = true ↔ kind = .scalar ∨ kind = .object ∨ kind = .interface ∨
      kind = .union ∨ kind = .enum := by
  cases kind <;> simp [isOutput]

end Kind

namespace TypeMap

variable {δ : Type} {map : TypeMap δ}

/-- A reference is taken over if the type at its core is declared. -/
theorem remapType_eq (type : TypeRef) :
    map.remapType type =
      if map.contains type.core then .ok type else .error (.missingReplacement type.core) := by
  induction type with
  | named name => rfl
  | list item ih =>
    rw [remapType, ih, TypeRef.core]
    split <;> rfl
  | nonNull inner ih =>
    rw [remapType, ih, TypeRef.core]
    split <;> rfl

theorem eq_of_remapType {type type' : TypeRef} (h : map.remapType type = .ok type') :
    type' = type := by
  rw [remapType_eq] at h
  split at h
  · exact (Except.ok.inj h).symm
  · cases h

theorem coreKind_eq_ok {type : TypeRef} {kind : Kind} :
    map.coreKind type = .ok kind ↔ map.kind? type.core = some kind := by
  rw [coreKind]
  cases map.kind? type.core <;> simp

/-- An argument which is resolved is the declared one, and may be passed in. -/
theorem remapInputValue_eq_ok {v v' : InputValue} (h : map.remapInputValue v = .ok v') :
    v' = v ∧ ∃ kind, map.kind? v.type.core = some kind ∧ kind.isInput = true := by
  obtain ⟨type, htype, h⟩ := Outcome.bind_eq_ok.1 h
  obtain ⟨kind, hkind, h⟩ := Outcome.bind_eq_ok.1 h
  obtain rfl := eq_of_remapType htype
  split at h
  · obtain ⟨_, h, -⟩ := Outcome.bind_eq_ok.1 h
    cases h
  · next hinput =>
    exact ⟨(Except.ok.inj h).symm, kind, coreKind_eq_ok.1 hkind, by simpa using hinput⟩

/-- A field which is resolved is the declared one with the kind of its type, which may be returned,
    and so are its arguments. -/
theorem remapField_eq_ok {f : FieldDeclaration} {config : FieldConfig}
    (h : map.remapField f = .ok config) :
    ∃ kind, map.kind? f.type.core = some kind ∧ kind.isOutput = true ∧
      (∀ a ∈ f.arguments, map.remapInputValue a = .ok a) ∧
      config = ⟨f.name, f.description, f.type, kind, f.arguments⟩ := by
  obtain ⟨type, htype, h⟩ := Outcome.bind_eq_ok.1 h
  obtain ⟨kind, hkind, h⟩ := Outcome.bind_eq_ok.1 h
  obtain rfl := eq_of_remapType htype
  simp only at h
  split at h
  · obtain ⟨_, h, -⟩ := Outcome.bind_eq_ok.1 h
    cases h
  · next houtput =>
    obtain ⟨arguments, harguments, h⟩ := Outcome.bind_eq_ok.1 h
    have hsame : arguments.map id = f.arguments.map id :=
      Outcome.map_eq_of_mapM_eq_ok id id (fun h => (remapInputValue_eq_ok h).1) harguments
    rw [List.map_id, List.map_id] at hsame
    subst hsame
    refine ⟨kind, coreKind_eq_ok.1 hkind, by simpa using houtput, fun a ha => ?_,
      (Except.ok.inj h).symm⟩
    obtain ⟨declared, -, hdeclared⟩ := Outcome.exists_of_mem_mapM harguments ha
    obtain ⟨rfl, -⟩ := remapInputValue_eq_ok hdeclared
    exact hdeclared

end TypeMap

end EntityGraph
