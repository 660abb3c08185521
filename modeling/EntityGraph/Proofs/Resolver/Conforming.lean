import Mathlib
import EntityGraph.Proofs.Outcome
import EntityGraph.Resolver

/-!
# Values which conform to a type

A resolved value is fitted to the type of its field: a value whose type is not known in advance is
tagged with the type it names, a string becomes the value of an enum, and everything else stays
what it is. Nothing is lost or made up by this: without its tags the fitted value is the value it
was made of. And no more is asked of a value than that it conforms to the type (`Conforms`): `null`
is taken everywhere, a list has to be an array, and only values of abstract types and of enums are
looked at.

* `FirstFault`: the first part of a value which does not conform, as the error which is told for it;
* `OutputValue.ofJson_conforms`: values which conform are fitted, with tags of their own, and
  for any other value its first fault is told.
-/

namespace EntityGraph

/-- What a value has to have at the core of a type: the name of its own type if several are
    possible, and the name of a value if the type is an enum. -/
structure FitsCore (kind : Kind) (v : Json) : Prop where
  typename : kind = .interface ∨ kind = .union →
    ∃ type, v.field? typenameField = some (.string type)
  enum : kind = .enum → ∃ name, v = .string name

/-- The value conforms to the type, whose core is of this kind. -/
inductive Conforms (kind : Kind) : TypeRef → Json → Prop
  | null {type : TypeRef} : Conforms kind type .null
  | nonNull {inner : TypeRef} {v : Json} : Conforms kind inner v → Conforms kind (.nonNull inner) v
  | list {item : TypeRef} {items : List Json} :
      (∀ v ∈ items, Conforms kind item v) → Conforms kind (.list item) (.array items)
  | named {name : String} {v : Json} : FitsCore kind v → Conforms kind (.named name) v

/-- The first part of the value, in the order of lists, which does not conform to its type, as the
    error for it. -/
inductive FirstFault (kind : Kind) : TypeRef → Json → ResolveError → Prop
  | nonNull {inner : TypeRef} {v : Json} {e : ResolveError} :
      FirstFault kind inner v e → FirstFault kind (.nonNull inner) v e
  | noArray {item : TypeRef} {v : Json} (hnull : v ≠ .null) (harray : ∀ items, v ≠ .array items) :
      FirstFault kind (.list item) v (.expectedList (TypeRef.list item).text v.compact)
  | item {item : TypeRef} {before behind : List Json} {v : Json} {e : ResolveError}
      (hbefore : ∀ w ∈ before, Conforms kind item w) (hfault : FirstFault kind item v e) :
      FirstFault kind (.list item) (.array (before ++ v :: behind)) e
  | noTypename {name : String} {v : Json} (hkind : kind = .interface ∨ kind = .union)
      (hnull : v ≠ .null) (htypename : ∀ type, v.field? typenameField ≠ some (.string type)) :
      FirstFault kind (.named name) v (.missingTypename name)
  | noEnum {name : String} {v : Json} (hkind : kind = .enum) (hnull : v ≠ .null)
      (hstring : ∀ s, v ≠ .string s) :
      FirstFault kind (.named name) v (.expectedEnum name v.compact)

/-- Values of several types are those of interfaces and unions. -/
theorem Kind.isAbstract_iff {kind : Kind} :
    kind.isAbstract = true ↔ kind = .interface ∨ kind = .union := by
  cases kind <;> simp [isAbstract]

namespace OutputValue

mutual

/-- The value without its tags. -/
def untagged : OutputValue → Json
  | .null => .null
  | .list items => .array (allUntagged items)
  | .value v => v
  | .enum name => .string name
  | .typed v _ => v

def allUntagged : List OutputValue → List Json
  | [] => []
  | o :: rest => o.untagged :: allUntagged rest

end

theorem allUntagged_eq_map (os : List OutputValue) : allUntagged os = os.map untagged := by
  induction os with
  | nil => rfl
  | cons o rest ih => rw [allUntagged, ih, List.map_cons]

/-- The tags are those of the type: at its core a value of an abstract type is tagged with its own
    `__typename`, the value of an enum is a name, and any other value has no tag. -/
inductive Tagged (kind : Kind) : TypeRef → OutputValue → Prop
  | null {type : TypeRef} : Tagged kind type .null
  | nonNull {inner : TypeRef} {o : OutputValue} :
      Tagged kind inner o → Tagged kind (.nonNull inner) o
  | list {item : TypeRef} {items : List OutputValue} :
      (∀ o ∈ items, Tagged kind item o) → Tagged kind (.list item) (.list items)
  | typed {name type : String} {v : Json} (hkind : kind = .interface ∨ kind = .union)
      (htypename : v.field? typenameField = some (.string type)) :
      Tagged kind (.named name) (.typed v type)
  | enum {name value : String} (hkind : kind = .enum) : Tagged kind (.named name) (.enum value)
  | value {name : String} {v : Json} (habstract : ¬ (kind = .interface ∨ kind = .union))
      (henum : kind ≠ .enum) : Tagged kind (.named name) (.value v)

variable {kind : Kind}

/-! ### What fitting does at each type -/

@[simp] theorem ofJson_null (kind : Kind) (type : TypeRef) : ofJson kind type .null = .ok none := by
  cases type <;> rw [ofJson]

theorem ofJson_nonNull (inner : TypeRef) (v : Json) :
    ofJson kind (.nonNull inner) v = ofJson kind inner v := by
  cases v <;> simp [ofJson]

theorem ofJson_array (item : TypeRef) (items : List Json) :
    ofJson kind (.list item) (.array items) = (items.mapM fun v =>
      (ofJson kind item v).map fun o => o.getD .null).map fun os => some (.list os) := by
  rw [ofJson]
  rfl

theorem ofJson_of_noArray (item : TypeRef) {v : Json} (hnull : v ≠ .null)
    (harray : ∀ items, v ≠ .array items) : ofJson kind (.list item) v =
      .error (.expectedList (TypeRef.list item).text v.compact) := by
  cases v <;> simp_all [ofJson]

theorem ofJson_named (name : String) {v : Json} (hnull : v ≠ .null) :
    ofJson kind (.named name) v = (ofCore name kind v).map some := by
  cases v <;> simp_all [ofJson]

/-! ### At the core of a type -/

theorem ofCore_of_typename (name : String) {type : String} {v : Json}
    (hkind : kind = .interface ∨ kind = .union)
    (htypename : v.field? typenameField = some (.string type)) :
    ofCore name kind v = .ok (.typed v type) := by
  unfold ofCore
  rw [if_pos (Kind.isAbstract_iff.2 hkind), htypename]

theorem ofCore_of_noTypename (name : String) {v : Json} (hkind : kind = .interface ∨ kind = .union)
    (htypename : ∀ type, v.field? typenameField ≠ some (.string type)) :
    ofCore name kind v = .error (.missingTypename name) := by
  unfold ofCore
  rw [if_pos (Kind.isAbstract_iff.2 hkind)]
  split
  · next type htype => exact absurd htype (htypename type)
  · rfl

theorem ofCore_enum_string (name value : String) :
    ofCore name .enum (.string value) = .ok (.enum value) := rfl

theorem ofCore_enum_of_noString (name : String) {v : Json} (hstring : ∀ s, v ≠ .string s) :
    ofCore name .enum v = .error (.expectedEnum name v.compact) := by
  cases v with
  | string s => exact absurd rfl (hstring s)
  | _ => rfl

theorem ofCore_of_other (name : String) (v : Json)
    (habstract : ¬ (kind = .interface ∨ kind = .union)) (henum : kind ≠ .enum) :
    ofCore name kind v = .ok (.value v) := by
  unfold ofCore
  rw [if_neg (Kind.isAbstract_iff.not.2 habstract), if_neg henum]

/-- At its core a value is fitted with a tag of its own, or it lacks what it has to have. -/
theorem ofCore_cases (kind : Kind) (name : String) (v : Json) :
    (∃ o, ofCore name kind v = .ok o ∧ FitsCore kind v ∧ o.untagged = v ∧
      Tagged kind (.named name) o) ∨
    ∃ e, ofCore name kind v = .error e ∧ ¬ FitsCore kind v ∧
      (v ≠ .null → FirstFault kind (.named name) v e) := by
  by_cases hkind : kind = .interface ∨ kind = .union
  · have henum : kind ≠ .enum := by rintro rfl; simp at hkind
    by_cases htypename : ∃ type, v.field? typenameField = some (.string type)
    · obtain ⟨type, htype⟩ := htypename
      have hfits : FitsCore kind v := ⟨fun _ => ⟨type, htype⟩, fun h => absurd h henum⟩
      exact .inl ⟨_, ofCore_of_typename name hkind htype, hfits, by rw [untagged],
        .typed hkind htype⟩
    · have hnone := not_exists.1 htypename
      exact .inr ⟨_, ofCore_of_noTypename name hkind hnone, fun h => htypename (h.typename hkind),
        fun hnull => .noTypename hkind hnull hnone⟩
  · by_cases henum : kind = .enum
    · subst henum
      by_cases hstring : ∃ s, v = .string s
      · obtain ⟨s, rfl⟩ := hstring
        have hfits : FitsCore .enum (.string s) := ⟨fun h => absurd h hkind, fun _ => ⟨s, rfl⟩⟩
        exact .inl ⟨_, ofCore_enum_string name s, hfits, by rw [untagged], .enum rfl⟩
      · have hnone := not_exists.1 hstring
        exact .inr ⟨_, ofCore_enum_of_noString name hnone, fun h => hstring (h.enum rfl),
          fun hnull => .noEnum rfl hnull hnone⟩
    · have hfits : FitsCore kind v := ⟨fun h => absurd h hkind, fun h => absurd h henum⟩
      exact .inl ⟨_, ofCore_of_other name v hkind henum, hfits, by rw [untagged],
        .value hkind henum⟩

/-! ### Along a type -/

/-- Values which conform are fitted. -/
theorem exists_ofJson_of_conforms {type : TypeRef} {v : Json} (h : Conforms kind type v) :
    ∃ o, ofJson kind type v = .ok o := by
  induction h with
  | null => exact ⟨none, ofJson_null _ _⟩
  | nonNull _ ih => rwa [ofJson_nonNull]
  | list _ ih =>
    obtain ⟨os, hos⟩ := Outcome.exists_mapM_eq_ok fun v hv =>
      (ih v hv).imp' (·.getD .null) fun o ho => Outcome.map_eq_ok.2 ⟨o, ho, rfl⟩
    exact ⟨some (.list os), by rw [ofJson_array, hos]; rfl⟩
  | @named name v hfits =>
    by_cases hnull : v = .null
    · exact ⟨none, hnull ▸ ofJson_null _ _⟩
    · rw [ofJson_named name hnull]
      rcases ofCore_cases kind name v with ⟨o, ho, -⟩ | ⟨e, -, hnot, -⟩
      · exact ⟨some o, by rw [ho]; rfl⟩
      · exact absurd hfits hnot

theorem of_ofJson_null {type : TypeRef} {o : Option OutputValue}
    (h : ofJson kind type .null = .ok o) : Conforms kind type .null ∧
      (o.getD .null).untagged = .null ∧ Tagged kind type (o.getD .null) := by
  rw [ofJson_null] at h
  obtain rfl := Except.ok.inj h
  exact ⟨.null, by rw [Option.getD_none, untagged], .null⟩

/-- What is fitted conforms, has the tags of its type, and is the value again without them. -/
theorem of_ofJson_eq_ok {type : TypeRef} {v : Json} {o : Option OutputValue}
    (h : ofJson kind type v = .ok o) :
    Conforms kind type v ∧ (o.getD .null).untagged = v ∧ Tagged kind type (o.getD .null) := by
  induction type generalizing v o with
  | nonNull inner ih =>
    rw [ofJson_nonNull] at h
    obtain ⟨hconforms, huntagged, htagged⟩ := ih h
    exact ⟨.nonNull hconforms, huntagged, .nonNull htagged⟩
  | named name =>
    by_cases hnull : v = .null
    · subst hnull
      exact of_ofJson_null h
    · rw [ofJson_named name hnull] at h
      obtain ⟨o, ho, rfl⟩ := Outcome.map_eq_ok.1 h
      rcases ofCore_cases kind name v with ⟨o', ho', hfits, hfitted⟩ | ⟨e, he, -⟩
      · cases ho.symm.trans ho'
        exact ⟨.named hfits, hfitted⟩
      · cases ho.symm.trans he
  | list item ih =>
    by_cases hnull : v = .null
    · subst hnull
      exact of_ofJson_null h
    by_cases harray : ∃ items, v = .array items
    · obtain ⟨items, rfl⟩ := harray
      rw [ofJson_array] at h
      obtain ⟨os, hos, rfl⟩ := Outcome.map_eq_ok.1 h
      have hitem {w : Json} {o : OutputValue}
          (ho : (ofJson kind item w).map (fun o => o.getD .null) = .ok o) :
          Conforms kind item w ∧ o.untagged = w ∧ Tagged kind item o := by
        obtain ⟨fitted, hfitted, rfl⟩ := Outcome.map_eq_ok.1 ho
        exact ih hfitted
      have huntagged : os.map untagged = items := by
        rw [Outcome.map_eq_of_mapM_eq_ok untagged id (fun ho => (hitem ho).2.1) hos, List.map_id]
      refine ⟨.list fun w hw => ?_, ?_, .list fun o ho => ?_⟩
      · obtain ⟨o, -, ho⟩ := exists_of_mem_forall₂ (Outcome.forall₂_of_mapM hos) hw
        exact (hitem ho).1
      · rw [Option.getD_some, untagged, allUntagged_eq_map, huntagged]
      · obtain ⟨w, -, hw⟩ := Outcome.exists_of_mem_mapM hos ho
        exact (hitem hw).2.2
    · rw [ofJson_of_noArray item hnull (not_exists.1 harray)] at h
      cases h

/-- A value which is not fitted has a fault, and its first one is told. -/
theorem firstFault_of_ofJson_eq_error {type : TypeRef} {v : Json} {e : ResolveError}
    (h : ofJson kind type v = .error e) : FirstFault kind type v e := by
  have hnull : v ≠ .null := by
    rintro rfl
    rw [ofJson_null] at h
    cases h
  induction type generalizing v with
  | nonNull inner ih =>
    rw [ofJson_nonNull] at h
    exact .nonNull (ih h hnull)
  | named name =>
    rw [ofJson_named name hnull] at h
    rcases ofCore_cases kind name v with ⟨o, ho, -⟩ | ⟨e', he', -, hfault⟩
    · cases ho.symm.trans (Outcome.map_eq_error.1 h)
    · cases he'.symm.trans (Outcome.map_eq_error.1 h)
      exact hfault hnull
  | list item ih =>
    by_cases harray : ∃ items, v = .array items
    · obtain ⟨items, rfl⟩ := harray
      rw [ofJson_array] at h
      -- The items in front of the one which fails have been fitted.
      obtain ⟨before, w, behind, rfl, hbefore, hw⟩ :=
        Outcome.mapM_eq_error.1 (Outcome.map_eq_error.1 h)
      refine .item (fun w hw => ?_) ?_
      · obtain ⟨o, ho⟩ := hbefore w hw
        obtain ⟨o, ho, -⟩ := Outcome.map_eq_ok.1 ho
        exact (of_ofJson_eq_ok ho).1
      · have hfails := Outcome.map_eq_error.1 hw
        refine ih hfails ?_
        rintro rfl
        rw [ofJson_null] at hfails
        cases hfails
    · rw [ofJson_of_noArray item hnull (not_exists.1 harray)] at h
      cases h
      exact .noArray hnull (not_exists.1 harray)

/-- The first fault of a value is told. -/
theorem ofJson_of_firstFault {type : TypeRef} {v : Json} {e : ResolveError}
    (h : FirstFault kind type v e) : ofJson kind type v = .error e := by
  induction h with
  | nonNull _ ih => rwa [ofJson_nonNull]
  | noArray hnull harray => exact ofJson_of_noArray _ hnull harray
  | item hbefore _ ih =>
    rw [ofJson_array, Outcome.map_eq_error, Outcome.mapM_eq_error]
    refine ⟨_, _, _, rfl, fun w hw => ?_, Outcome.map_eq_error.2 ih⟩
    exact (exists_ofJson_of_conforms (hbefore w hw)).imp' (·.getD .null) fun o ho =>
      Outcome.map_eq_ok.2 ⟨o, ho, rfl⟩
  | noTypename hkind hnull htypename =>
    rw [ofJson_named _ hnull, ofCore_of_noTypename _ hkind htypename]
    rfl
  | noEnum hkind hnull hstring =>
    subst hkind
    rw [ofJson_named _ hnull, ofCore_enum_of_noString _ hstring]
    rfl

/-- A value is fitted to a type exactly if it conforms to it. What comes of it is the value without
    its tags, which are those of the type. If it is not fitted, the error is that of the first part
    which does not conform. -/
theorem ofJson_conforms (kind : Kind) (type : TypeRef) (v : Json) :
    ((∃ o, ofJson kind type v = .ok o) ↔ Conforms kind type v) ∧
    (∀ o, ofJson kind type v = .ok o →
      (o.getD .null).untagged = v ∧ Tagged kind type (o.getD .null)) ∧
    ∀ e, ofJson kind type v = .error e ↔ FirstFault kind type v e := by
  refine ⟨⟨?_, exists_ofJson_of_conforms⟩, fun o h => (of_ofJson_eq_ok h).2, fun e => ?_⟩
  · rintro ⟨o, h⟩
    exact (of_ofJson_eq_ok h).1
  · exact ⟨firstFault_of_ofJson_eq_error, ofJson_of_firstFault⟩

/-- `null` is taken in a list of enum values, and of two faults the first one is told. -/
example : ofJson .enum (.nonNull (.list (.nonNull (.named "Color"))))
    (.array [.string "RED", .null, .bool true, .array []]) =
      .error (.expectedEnum "Color" "true") := by
  rfl

end OutputValue

end EntityGraph
