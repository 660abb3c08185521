import Mathlib
import EntityGraph.Schema.Assembly
import EntityGraph.Proofs.KeyProjection.Known

/-!
# Declaring types

Declaring goes through the types of a type system in order and leaves those to introspection which
have its names. What is left to be done for a declared type, unless it is built in, is its
definition (`Assembly.definitionOf`).

* `Assembly.definitions_declareAll`: the definitions of a type map which all types were declared in;
* `Assembly.declareAll_eq_error`: why types can not be declared.
-/

namespace EntityGraph

/-- The schema defines the type: it is neither built in nor left to introspection. -/
def SourceType.isDefined (t : SourceType) : Bool := !isReserved t.name && !t.isBuiltIn

/-- The keys of a type which declaring it looks at: the first one. -/
def TypeSystem.firstKey? (ts : TypeSystem) (t : SourceType) : Option KeyDeclaration :=
  ((ts.keysOf? t).getD []).head?

theorem TypeSystem.firstKey?_of_isPrimary {ts : TypeSystem} {t : SourceType}
    (h : ts.isPrimary t = true) : ts.firstKey? t = t.keys.head? := by
  rw [firstKey?, keysOf?, if_pos h, Option.getD_some]

namespace Assembly

variable {ts : TypeSystem}

/-- The definition of a declared type. -/
def definitionOf (ts : TypeSystem) (t : SourceType) : Except BuildError Definition :=
  match t.kind with
  | .object .. => objectDefinition ts t
  | _ => .ok (.copied t)

theorem definitionOf_of_isObject {t : SourceType} (h : t.isObject = true) :
    definitionOf ts t = objectDefinition ts t := by
  cases hkind : t.kind with
  | object => rw [definitionOf, hkind]
  | _ =>
    rw [SourceType.isObject, hkind] at h
    cases h

/-- A type is defined as an object, or else taken over. -/
theorem definitionOf_eq_ok {t : SourceType} {d : Definition} (h : definitionOf ts t = .ok d) :
    (∃ implements fields, t.kind = .object implements fields ∧ objectDefinition ts t = .ok d) ∨
      (t.isObject = false ∧ d = .copied t) := by
  rw [definitionOf] at h
  split at h
  · next implements fields hkind => exact .inl ⟨implements, fields, hkind, h⟩
  · next hkind =>
    refine .inr ⟨?_, (Except.ok.inj h).symm⟩
    rw [SourceType.isObject]
    split
    · next hobject => exact absurd hobject (hkind _ _)
    · rfl

/-- The definitions which are still to be evaluated. -/
def definitions (map : Assembly) : List Definition := map.filterMap (·.definition)

/-! ### One type -/

theorem objectDefinition_eq_ok {t : SourceType} {d : Definition}
    (h : objectDefinition ts t = .ok d) :
    ∃ firstKey, d = .object t firstKey (t.name = ts.queryType) ∧
      ∀ key, ts.firstKey? t = some key →
        ∃ projection, KeyProjection.ofSelection ts t.name key.selection = .ok projection := by
  unfold objectDefinition at h
  simp only at h
  split at h
  · next key hkey =>
    obtain ⟨projection, hprojection, h⟩ := Outcome.bind_eq_ok.1 h
    refine ⟨some projection, (Except.ok.inj h).symm, fun key' hkey' => ?_⟩
    obtain rfl := Option.some.inj (hkey.symm.trans hkey')
    exact ⟨projection, hprojection⟩
  · next hnone =>
    exact ⟨none, (Except.ok.inj h).symm, fun key hkey => nomatch hnone.symm.trans hkey⟩

theorem objectDefinition_eq_error {t : SourceType} {e : BuildError}
    (h : objectDefinition ts t = .error e) :
    ∃ key, ts.firstKey? t = some key ∧
      KeyProjection.ofSelection ts t.name key.selection = .error e := by
  unfold objectDefinition at h
  simp only at h
  split at h
  · next key hkey =>
    rcases Outcome.bind_eq_error.1 h with h | ⟨_, _, h⟩
    · exact ⟨key, hkey, h⟩
    · cases h
  · cases h

/-- There is no definition of a type only if a field or a type is missing from its first key. -/
theorem isUnknown_of_definitionOf {t : SourceType} {e : BuildError}
    (h : definitionOf ts t = .error e) : e.IsUnknown := by
  rw [definitionOf] at h
  split at h
  · obtain ⟨key, -, h⟩ := objectDefinition_eq_error h
    exact KeyProjection.isUnknown_of_ofSelection h
  · cases h

/-- What declaring a type does. -/
theorem declareType_eq {map : Assembly} {t : SourceType} :
    declareType ts map t =
      if isReserved t.name then .ok (map, [])
      else if t.name = nodeInterface then .error (.reservedTypeName nodeInterface)
      else if t.isBuiltIn then .ok (map.declareBuiltIn t.name t.kind.tag, [])
      else (definitionOf ts t).map fun definition =>
        (map.declare t.name t.kind.tag definition,
          [LogSource.schema.record .debug s!"Declare {t.kind.tag.name} type {t.name}"]) := by
  rw [declareType, definitionOf]
  by_cases hreserved : isReserved t.name = true
  · rw [if_pos hreserved, if_pos hreserved]
    rfl
  rw [if_neg hreserved, if_neg hreserved]
  by_cases hnode : t.name = nodeInterface
  · simp only [if_pos hnode]
    split <;> rw [hnode] <;> rfl
  · simp only [if_neg hnode]
    split
    · rfl
    · cases t.kind with
      | object =>
        rcases objectDefinition ts t with _ | _ <;> rfl
      | _ => rfl

/-- A type the schema defines is declared with its definition, any other without one. -/
theorem definitions_declareType {map map' : Assembly} {t : SourceType} {records : List LogRecord}
    (h : declareType ts map t = .ok (map', records)) :
    (t.isDefined = false ∧ definitions map' = definitions map) ∨
      (t.isDefined = true ∧ ∃ d, definitionOf ts t = .ok d ∧
        definitions map' = definitions map ++ [d]) := by
  rw [declareType_eq] at h
  split at h
  · next hreserved =>
    cases h
    exact .inl ⟨by simp [SourceType.isDefined, hreserved], rfl⟩
  split at h
  · cases h
  · next hreserved _ =>
    split at h
    · next hbuiltIn =>
      cases h
      refine .inl ⟨by simp [SourceType.isDefined, hbuiltIn], ?_⟩
      rw [definitions, TypeMap.declareBuiltIn, List.filterMap_append]
      exact List.append_nil _
    · next hbuiltIn =>
      obtain ⟨d, hd, h⟩ := Outcome.map_eq_ok.1 h
      cases h
      refine .inr ⟨by simp [SourceType.isDefined, hreserved, hbuiltIn], d, hd, ?_⟩
      rw [definitions, TypeMap.declare, List.filterMap_append]
      rfl

theorem declareType_eq_error {map : Assembly} {t : SourceType} {e : BuildError}
    (h : declareType ts map t = .error e) :
    e = .reservedTypeName nodeInterface ∨
      (t.isDefined = true ∧ definitionOf ts t = .error e) := by
  rw [declareType_eq] at h
  split at h
  · cases h
  split at h
  · exact .inl (Except.error.inj h).symm
  · next hreserved _ =>
    split at h
    · cases h
    · next hbuiltIn =>
      exact .inr ⟨by simp [SourceType.isDefined, hreserved, hbuiltIn], Outcome.map_eq_error.1 h⟩

/-! ### All types -/

theorem declareAll_cons {map map' : Assembly} {t : SourceType} {rest : List SourceType}
    {records : List LogRecord} (h : declareType ts map t = .ok (map', records)) :
    (declareAll ts map (t :: rest)).1 = (declareAll ts map' rest).1 := by
  rw [declareAll, h]

/-- Declaring adds the definitions of the types which the schema defines, in their order. -/
theorem definitions_declareAll {types : List SourceType} {map map' : Assembly}
    (h : (declareAll ts map types).1 = .ok map') :
    ∃ ds, List.Forall₂ (fun t d => definitionOf ts t = .ok d)
        (types.filter SourceType.isDefined) ds ∧
      definitions map' = definitions map ++ ds := by
  induction types generalizing map with
  | nil =>
    obtain rfl := Except.ok.inj h
    exact ⟨[], .nil, (List.append_nil _).symm⟩
  | cons t rest ih =>
    cases hdeclare : declareType ts map t with
    | error e =>
      rw [declareAll, hdeclare] at h
      cases h
    | ok declared =>
      obtain ⟨next, records⟩ := declared
      rw [declareAll_cons hdeclare] at h
      obtain ⟨ds, hds, hmap'⟩ := ih h
      rcases definitions_declareType hdeclare with ⟨hnot, hnext⟩ | ⟨hdefined, d, hd, hnext⟩
      · rw [List.filter_cons_of_neg (by simp [hnot]), hmap', hnext]
        exact ⟨ds, hds, rfl⟩
      · rw [List.filter_cons_of_pos hdefined, hmap', hnext, List.append_assoc]
        exact ⟨d :: ds, .cons hd hds, rfl⟩

/-- Types can not be declared if one is named like the interface of global ids, or if there is no
    definition of one. -/
theorem declareAll_eq_error {types : List SourceType} {map : Assembly} {e : BuildError}
    (h : (declareAll ts map types).1 = .error e) :
    e = .reservedTypeName nodeInterface ∨
      ∃ t ∈ types, t.isDefined = true ∧ definitionOf ts t = .error e := by
  induction types generalizing map with
  | nil => cases h
  | cons t rest ih =>
    cases hdeclare : declareType ts map t with
    | error e' =>
      rw [declareAll, hdeclare] at h
      obtain rfl := Except.error.inj h
      exact (declareType_eq_error hdeclare).imp_right fun h => ⟨t, List.mem_cons_self, h⟩
    | ok declared =>
      obtain ⟨next, records⟩ := declared
      rw [declareAll_cons hdeclare] at h
      exact (ih h).imp_right fun ⟨t, ht, h⟩ => ⟨t, List.mem_cons_of_mem _ ht, h⟩

/-- The definitions of an assembled type map: the one of the interface of global ids, then those
    of the types which the schema defines. -/
theorem definitions_ofTypeSystem {map : Assembly} (h : (ofTypeSystem ts).1 = .ok map) :
    ∃ ds, List.Forall₂ (fun t d => definitionOf ts t = .ok d)
        (ts.types.filter SourceType.isDefined) ds ∧ definitions map = .node :: ds :=
  definitions_declareAll h

end Assembly

end EntityGraph
