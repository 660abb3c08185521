import Mathlib
import EntityGraph.Proofs.TypeMap

/-!
# Kinds of references

A reference fits where it stands if the type at its core is declared with a kind which is accepted
there, whatever it is wrapped into: what a field returns has to be an output, what is passed to one
an input. A field is resolved if all its references fit, and is left as it is. Otherwise its first
misfit is reported, its own type being checked ahead of its arguments (`TypeMap.remapField_eq_iff`).

Both kinds of references are checked alike (`TypeMap.accept`): a type which is not declared is told
apart from one of the wrong kind.
-/

namespace EntityGraph

namespace TypeMap

variable {δ : Type}

/-- The first type which is declared under the name has the kind. -/
def Declares (map : TypeMap δ) (name : String) (kind : Kind) : Prop :=
  ∃ before slot behind, map = before ++ slot :: behind ∧ slot.name = name ∧ slot.kind = kind ∧
    ∀ other ∈ before, other.name ≠ name

/-- The type at the core of the reference is declared with an accepted kind. -/
def Fits (map : TypeMap δ) (accepts : Kind → Bool) (type : TypeRef) : Prop :=
  ∃ kind, map.Declares type.core kind ∧ accepts kind = true

/-- Why a reference does not fit, the refusal of a wrong kind naming the whole reference. -/
inductive Misfit (map : TypeMap δ) (accepts : Kind → Bool) (refusal : String → BuildError)
    (type : TypeRef) : BuildError → Prop
  | undeclared (h : ∀ slot ∈ map, slot.name ≠ type.core) :
      Misfit map accepts refusal type (.missingReplacement type.core)
  | kind {kind : Kind} (hdeclares : map.Declares type.core kind) (hkind : accepts kind = false) :
      Misfit map accepts refusal type (refusal type.text)

/-- The type of a field may be returned, and those of its arguments passed in. -/
structure WellKinded (map : TypeMap δ) (f : FieldDeclaration) : Prop where
  type : map.Fits Kind.isOutput f.type
  arguments : ∀ a ∈ f.arguments, map.Fits Kind.isInput a.type

/-- Why a field is not well-kinded, as its first part tells which does not fit. -/
inductive FirstMisfit (map : TypeMap δ) (f : FieldDeclaration) : BuildError → Prop
  | type {e : BuildError} (h : map.Misfit Kind.isOutput (.notAnOutputType f.name) f.type e) :
      FirstMisfit map f e
  | argument {before behind : List InputValue} {a : InputValue} {e : BuildError}
      (htype : map.Fits Kind.isOutput f.type) (harguments : f.arguments = before ++ a :: behind)
      (hbefore : ∀ b ∈ before, map.Fits Kind.isInput b.type)
      (h : map.Misfit Kind.isInput (.notAnInputType a.name) a.type e) :
      FirstMisfit map f e

variable {map : TypeMap δ} {accepts : Kind → Bool} {refusal : String → BuildError} {type : TypeRef}

/-! ### Declared kinds -/

theorem kind?_eq_some {name : String} {kind : Kind} :
    map.kind? name = some kind ↔ map.Declares name kind := by
  rw [kind?, Option.map_eq_some_iff]
  simp only [List.find?_eq_some_iff_append, decide_eq_true_eq, Bool.not_eq_true',
    decide_eq_false_iff_not]
  constructor
  · rintro ⟨slot, ⟨hname, before, behind, hmap, hbefore⟩, hkind⟩
    exact ⟨before, slot, behind, hmap, hname, hkind, hbefore⟩
  · rintro ⟨before, slot, behind, hmap, hname, hkind, hbefore⟩
    exact ⟨slot, ⟨hname, before, behind, hmap, hbefore⟩, hkind⟩

theorem kind?_eq_none {name : String} :
    map.kind? name = none ↔ ∀ slot ∈ map, slot.name ≠ name := by
  simp [kind?]

/-! ### References -/

/-- The kind of a reference where some kinds are accepted. -/
def accept (map : TypeMap δ) (accepts : Kind → Bool) (refusal : String → BuildError)
    (type : TypeRef) : Except BuildError Kind :=
  match map.kind? type.core with
  | none => .error (.missingReplacement type.core)
  | some kind => if accepts kind then .ok kind else .error (refusal type.text)

theorem accept_eq_ok {kind : Kind} :
    map.accept accepts refusal type = .ok kind ↔
      map.Declares type.core kind ∧ accepts kind = true := by
  constructor
  · intro h
    rw [accept] at h
    split at h
    · cases h
    · next declared hdeclared =>
      split_ifs at h with haccepts
      cases h
      exact ⟨kind?_eq_some.1 hdeclared, haccepts⟩
  · rintro ⟨hdeclares, haccepts⟩
    rw [accept, kind?_eq_some.2 hdeclares]
    exact if_pos haccepts

theorem fits_iff (refusal : String → BuildError) :
    map.Fits accepts type ↔ ∃ kind, map.accept accepts refusal type = .ok kind :=
  exists_congr fun _ => accept_eq_ok.symm

theorem accept_eq_error {e : BuildError} :
    map.accept accepts refusal type = .error e ↔ map.Misfit accepts refusal type e := by
  constructor
  · intro h
    rw [accept] at h
    split at h
    · next hnone =>
      cases h
      exact .undeclared (kind?_eq_none.1 hnone)
    · next declared hdeclared =>
      split_ifs at h with haccepts
      cases h
      exact .kind (kind?_eq_some.1 hdeclared) (Bool.not_eq_true _ ▸ haccepts)
  · intro h
    cases h with
    | undeclared h => rw [accept, kind?_eq_none.2 h]
    | kind hdeclares hkind =>
      rw [accept, kind?_eq_some.2 hdeclares]
      exact if_neg (Bool.not_eq_true _ ▸ hkind)

/-! ### Arguments and fields -/

/-- An argument is left as it is, if its reference is accepted. -/
theorem remapInputValue_eq (v : InputValue) :
    map.remapInputValue v =
      (map.accept Kind.isInput (.notAnInputType v.name) v.type).map fun _ => v := by
  rw [remapInputValue, remapType_eq, contains, accept]
  cases hkind : map.kind? v.type.core with
  | none => rfl
  | some kind =>
    simp only [Option.isSome_some, if_true, bind, Except.bind, coreKind, hkind]
    cases kind.isInput <;> rfl

/-- A field is left as it is, if its reference is accepted and its arguments are resolved. -/
theorem remapField_eq (f : FieldDeclaration) :
    map.remapField f = map.accept Kind.isOutput (.notAnOutputType f.name) f.type >>= fun kind =>
      (f.arguments.mapM map.remapInputValue).map fun arguments =>
        ⟨f.name, f.description, f.type, kind, arguments⟩ := by
  rw [remapField, remapType_eq, contains, accept]
  cases hkind : map.kind? f.type.core with
  | none => rfl
  | some kind =>
    simp only [Option.isSome_some, if_true, bind, Except.bind, coreKind, hkind]
    cases kind.isOutput <;> rfl

theorem remapInputValue_eq_error {v : InputValue} {e : BuildError} :
    map.remapInputValue v = .error e ↔
      map.Misfit Kind.isInput (.notAnInputType v.name) v.type e := by
  rw [remapInputValue_eq, Outcome.map_eq_error, accept_eq_error]

theorem fits_iff_remapInputValue {v : InputValue} :
    map.Fits Kind.isInput v.type ↔ ∃ v', map.remapInputValue v = .ok v' := by
  rw [fits_iff (.notAnInputType v.name)]
  simp only [remapInputValue_eq, Outcome.map_eq_ok]
  constructor
  · rintro ⟨kind, h⟩
    exact ⟨v, kind, h, rfl⟩
  · rintro ⟨_, kind, h, -⟩
    exact ⟨kind, h⟩

/-- Arguments are resolved to themselves, if all of them fit. -/
theorem mapM_remapInputValue_eq_ok {arguments resolved : List InputValue} :
    arguments.mapM map.remapInputValue = .ok resolved ↔
      (∀ a ∈ arguments, map.Fits Kind.isInput a.type) ∧ resolved = arguments := by
  -- What an argument is resolved to is always the argument, so only whether it is matters.
  have hsame : ∀ {resolved}, arguments.mapM map.remapInputValue = .ok resolved →
      resolved = arguments := fun h => by
    simpa using Outcome.map_eq_of_mapM_eq_ok id id (fun h => (remapInputValue_eq_ok h).1) h
  constructor
  · intro h
    refine ⟨fun a ha => ?_, hsame h⟩
    obtain ⟨v, -, hv⟩ := exists_of_mem_forall₂ (Outcome.forall₂_of_mapM h) ha
    exact fits_iff_remapInputValue.2 ⟨v, hv⟩
  · rintro ⟨hfits, rfl⟩
    obtain ⟨resolved, h⟩ := Outcome.exists_mapM_eq_ok fun a ha =>
      fits_iff_remapInputValue.1 (hfits a ha)
    rwa [hsame h] at h

theorem Declares.unique {name : String} {kind kind' : Kind} (h : map.Declares name kind)
    (h' : map.Declares name kind') : kind = kind' :=
  Option.some.inj ((kind?_eq_some.2 h).symm.trans (kind?_eq_some.2 h'))

theorem remapField_eq_ok_iff {f : FieldDeclaration} {config : FieldConfig} :
    map.remapField f = .ok config ↔ map.WellKinded f ∧ ∃ kind, map.Declares f.type.core kind ∧
      config = ⟨f.name, f.description, f.type, kind, f.arguments⟩ := by
  rw [remapField_eq, Outcome.bind_eq_ok]
  simp only [accept_eq_ok, Outcome.map_eq_ok, mapM_remapInputValue_eq_ok]
  constructor
  · rintro ⟨kind, ⟨hdeclares, houtput⟩, arguments, ⟨harguments, rfl⟩, rfl⟩
    exact ⟨⟨⟨kind, hdeclares, houtput⟩, harguments⟩, kind, hdeclares, rfl⟩
  · rintro ⟨⟨⟨kind, hdeclares, houtput⟩, harguments⟩, kind', hdeclares', rfl⟩
    -- The kind which fits and the one which is recorded are both the declared one.
    obtain rfl := hdeclares.unique hdeclares'
    exact ⟨kind, ⟨hdeclares, houtput⟩, f.arguments, ⟨harguments, rfl⟩, rfl⟩

theorem remapField_eq_error_iff {f : FieldDeclaration} {e : BuildError} :
    map.remapField f = .error e ↔ map.FirstMisfit f e := by
  rw [remapField_eq, Outcome.bind_eq_error]
  simp only [accept_eq_error, Outcome.map_eq_error, Outcome.mapM_eq_error,
    remapInputValue_eq_error, ← fits_iff_remapInputValue]
  constructor
  · rintro (h | ⟨kind, hkind, before, a, behind, harguments, hbefore, h⟩)
    · exact .type h
    · exact .argument ((fits_iff _).2 ⟨kind, hkind⟩) harguments hbefore h
  · intro h
    cases h with
    | type h => exact .inl h
    | argument htype harguments hbefore h =>
      obtain ⟨kind, hkind⟩ := (fits_iff _).1 htype
      exact .inr ⟨kind, hkind, _, _, _, harguments, hbefore, h⟩

/-- A field is resolved exactly if it is well-kinded. It is left as it is, and what is known of it
    is the declared kind of its type. Otherwise its first misfit is reported. -/
theorem remapField_eq_iff (map : TypeMap δ) (f : FieldDeclaration) :
    ((∃ config, map.remapField f = .ok config) ↔ map.WellKinded f) ∧
    (∀ config, map.remapField f = .ok config ↔ map.WellKinded f ∧
      ∃ kind, map.Declares f.type.core kind ∧
        config = ⟨f.name, f.description, f.type, kind, f.arguments⟩) ∧
    ∀ e, map.remapField f = .error e ↔ map.FirstMisfit f e := by
  refine ⟨⟨?_, fun h => ?_⟩, fun _ => remapField_eq_ok_iff, fun _ => remapField_eq_error_iff⟩
  · rintro ⟨config, h⟩
    exact (remapField_eq_ok_iff.1 h).1
  · obtain ⟨kind, hdeclares, -⟩ := h.type
    exact ⟨_, remapField_eq_ok_iff.2 ⟨h, kind, hdeclares, rfl⟩⟩

/-- Of two arguments which do not fit the first one is reported, whatever is wrong with it. -/
example :
    let map : TypeMap Unit := [⟨"Int", .scalar, none⟩, ⟨"Thing", .object, none⟩]
    map.remapField ⟨"size", none, .nonNull (.named "Int"),
        [.ofType "of" (.list (.named "Thing")), .ofType "by" (.named "Unit")]⟩ =
      .error (.notAnInputType "of" "[Thing]") := rfl

end TypeMap

end EntityGraph
