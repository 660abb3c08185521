import Mathlib
import EntityGraph.Proofs.Schema.Defining

/-!
# Building

A schema document is loaded, its types are declared, their definitions are evaluated, and the
schema of what comes out is checked. A built schema has come through all of these, and its query
root is an object which was defined (`Schema.build_eq_ok`); a failure is the one of the first
which could not be done.
-/

namespace EntityGraph

/-- A type system names nothing twice: no type which the schema defines has two fields or two
    interfaces of one name, and no key with a query field selects a field twice below its
    outermost layer. -/
structure TypeSystem.NamesOnce (ts : TypeSystem) : Prop where
  types : ∀ t ∈ ts.types, t.isDefined = true → t.NamesOnce ts
  keys : ts.KeysOnce

theorem SourceType.isObject_iff {t : SourceType} : t.isObject = true ↔ t.kind.tag = .object := by
  rw [isObject]
  cases t.kind <;> simp [TypeKind.tag]

namespace Assembly

open Generating

variable {ts : TypeSystem} {map : Assembly} {suffixes : Suffixes}

/-- What the types are which evaluating gives. -/
structure Evaluated (ts : TypeSystem) (types : List SchemaType) (defined : List SchemaType)
    (generated : List GeneratedInput) : Prop where
  types : types = nodeType :: defined ++ generated.map GeneratedInput.type
  defined : List.Forall₂ (DefinedFrom ts) (ts.types.filter SourceType.isDefined) defined
  generated : ∀ input ∈ generated, (input.fields.map (·.name)).Nodup

/-- Evaluating gives the interface of global ids, then one type for every type which the schema
    defines, in their order, and the generated types behind them. So what holds of the type every
    definition gives holds of all types which come out. -/
theorem ends_evaluate_of {T : SourceType → SchemaType → Prop} {Q : BuildFailure → Prop}
    (hmap : (ofTypeSystem ts).1 = .ok map)
    (h : ∀ t ∈ ts.types, t.isDefined = true → ∀ d, definitionOf ts t = .ok d →
      Ends (define ts map.begun suffixes d) (T t) Q) :
    Ends (evaluate ts map suffixes)
      (fun types => ∃ (defined : List SchemaType) (generated : List GeneratedInput),
        types = nodeType :: defined ++ generated.map GeneratedInput.type ∧
        List.Forall₂ T (ts.types.filter SourceType.isDefined) defined ∧
        ∀ input ∈ generated, (input.fields.map (·.name)).Nodup) Q := by
  obtain ⟨ds, hds, hdefinitions⟩ := definitions_ofTypeSystem hmap
  rw [evaluate]
  -- The interface of global ids is the first definition; it has no source.
  change Ends ((definitions map).mapM _ >>= _) _ _
  rw [hdefinitions, List.mapM_cons, bind_assoc]
  refine (ends_pure rfl : Ends _ (· = nodeType) _).bind fun node hnode => ?_
  rw [bind_assoc]
  refine (ends_mapM (T := T) hds fun t ht d hd => ?_).bind fun defined hdefined => ?_
  · obtain ⟨htypes, hisDefined⟩ := List.mem_filter.1 ht
    exact h t htypes hisDefined d hd
  · rw [pure_bind]
    refine ends_get.bind fun g hg => ends_pure ?_
    exact ⟨defined, g.generated, by rw [hnode], hdefined, hg⟩

theorem ends_evaluate (hmap : (ofTypeSystem ts).1 = .ok map) :
    Ends (evaluate ts map suffixes)
      (fun types => ∃ defined generated, Evaluated ts types defined generated)
      (fun failure => ts.NamesOnce → failure.IsError) := by
  refine (ends_evaluate_of (T := DefinedFrom ts) hmap fun t ht hisDefined d hd => ?_).imp_returns
    fun _ ⟨defined, generated, htypes, hdefined, hg⟩ =>
      ⟨defined, generated, htypes, hdefined, hg⟩
  exact (ends_define hd).imp_fails fun _ h honce => h (honce.types t ht hisDefined) honce.keys

/-- An object which was evaluated is one of the types which the schema defines. -/
theorem Evaluated.exists_source {ts : TypeSystem} {types defined : List SchemaType}
    {generated : List GeneratedInput} (h : Evaluated ts types defined generated) {o : ObjectType}
    (ho : SchemaType.object o ∈ types) :
    ∃ t ∈ ts.types, t.isDefined = true ∧ DefinedFrom ts t (.object o) := by
  rw [h.types, List.mem_append, List.mem_cons] at ho
  rcases ho with (ho | ho) | ho
  · cases ho
  · obtain ⟨t, ht, hdefined⟩ := exists_of_mem_forall₂ h.defined.flip ho
    obtain ⟨htypes, hisDefined⟩ := List.mem_filter.1 ht
    exact ⟨t, htypes, hisDefined, hdefined⟩
  · obtain ⟨input, -, ho⟩ := List.mem_map.1 ho
    cases ho

end Assembly

namespace Schema

open Assembly

/-! ### Steps of building -/

theorem typesOf_fst (ts : TypeSystem) (suffixes : Suffixes) :
    (typesOf ts suffixes).1 = ((ofTypeSystem ts).1.mapError .error >>= fun map =>
      ((evaluate ts map suffixes).run .empty).1) := by
  rw [typesOf]
  rcases ofTypeSystem ts with ⟨_ | _, _⟩ <;> rfl

/-- Building is loading, evaluating and checking, one behind the other. -/
theorem build_fst (sdl : String) (suffixes : Suffixes) :
    (build sdl suffixes).1 = ((TypeSystem.load sdl).mapError .error >>= fun ts =>
      (typesOf ts suffixes).1 >>= ofEvaluated ts.queryType) := by
  unfold build TypeSystem.load
  rcases TypeSystem.loadLogged sdl with ⟨_ | ts, _⟩
  · rfl
  · change _ = (typesOf ts suffixes).1 >>= ofEvaluated ts.queryType
    simp only
    rcases typesOf ts suffixes with ⟨_ | _, _⟩ <;> rfl

theorem typesOf_eq_ok {ts : TypeSystem} {suffixes : Suffixes} {types : List SchemaType}
    (h : (typesOf ts suffixes).1 = .ok types) :
    ∃ map defined generated, (ofTypeSystem ts).1 = .ok map ∧
      Evaluated ts types defined generated := by
  rw [typesOf_fst] at h
  obtain ⟨map, hmap, h⟩ := Outcome.bind_eq_ok.1 h
  rw [Outcome.mapError_eq_ok] at hmap
  obtain ⟨defined, generated, hevaluated⟩ :=
    (ends_evaluate hmap).ok Generation.namesOnce_empty h
  exact ⟨map, defined, generated, hmap, hevaluated⟩

theorem typesOf_eq_error {ts : TypeSystem} {suffixes : Suffixes} {failure : BuildFailure}
    (h : (typesOf ts suffixes).1 = .error failure) (honce : ts.NamesOnce) :
    failure.IsError := by
  rw [typesOf_fst] at h
  rcases Outcome.bind_eq_error.1 h with h | ⟨map, hmap, h⟩
  · exact isError_of_raise h
  · exact (ends_evaluate (Outcome.mapError_eq_ok.1 hmap)).error Generation.namesOnce_empty h honce

/-! ### The query root -/

/-- Keeping one item per name keeps no others. -/
theorem mem_of_mem_lastByName {α : Type} {name : α → String} {items : List α} {x : α}
    (h : x ∈ lastByName name items) : x ∈ items := by
  refine List.foldlRecOn (motive := fun acc => ∀ x ∈ acc, x ∈ items) items _
    (fun _ h => absurd h List.not_mem_nil) (fun acc hacc item hitem x h => ?_) x h
  split at h
  · obtain ⟨other, hother, rfl⟩ := List.mem_map.1 h
    split
    · exact hitem
    · exact hacc other hother
  · rcases List.mem_append.1 h with h | h
    · exact hacc x h
    · exact List.mem_singleton.1 h ▸ hitem

/-- A type of a schema is a registered one or a built-in scalar. -/
theorem mem_types_ofTypes {queryType : String} {types : List SchemaType} {t : SchemaType}
    (h : t ∈ (ofTypes queryType types).types) :
    t ∈ types ∨ ∃ name, t = .scalar ⟨name, none⟩ :=
  (List.mem_append.1 (mem_of_mem_lastByName h)).imp_right fun h =>
    have ⟨name, _, heq⟩ := List.mem_map.1 h
    ⟨name, heq.symm⟩

theorem exists_root_of_check {s : Schema} (h : s.check = .ok ()) :
    ∃ o, s.get? s.queryType = some (.object o) := by
  -- The root is found, as the first rule asks for it, and it is no other type by the second.
  obtain ⟨_, hexist, h⟩ := Outcome.bind_eq_ok.1 h
  obtain ⟨_, hroot, -⟩ := Outcome.bind_eq_ok.1 h
  obtain ⟨_, hexist, -⟩ := Outcome.bind_eq_ok.1 hexist
  obtain ⟨_, hexist, -⟩ := Outcome.bind_eq_ok.1 hexist
  rw [checkRoot] at hroot
  cases hget : s.get? s.queryType with
  | none =>
    change refuse (s.get? s.queryType).isNone _ = _ at hexist
    rw [hget] at hexist
    cases hexist
  | some t =>
    rw [hget] at hroot
    cases t with
    | object o => exact ⟨o, rfl⟩
    | _ => cases hroot

/-- A checked schema is the one of its types, and its query root is one of the objects among
    them. -/
theorem ofEvaluated_eq_ok {queryType : String} {types : List SchemaType} {schema : Schema}
    (h : ofEvaluated queryType types = .ok schema) :
    schema = ofTypes queryType types ∧ ∃ o, SchemaType.object o ∈ types ∧ o.name = queryType := by
  rw [ofEvaluated] at h
  split at h
  · next hcheck =>
    refine ⟨(Except.ok.inj h).symm, ?_⟩
    obtain ⟨o, ho⟩ := exists_root_of_check hcheck
    have hname := List.find?_some ho
    refine ⟨o, ?_, of_decide_eq_true hname⟩
    exact (mem_types_ofTypes (List.mem_of_find?_eq_some ho)).resolve_right fun ⟨_, h⟩ => nomatch h
  · cases h

theorem ofEvaluated_eq_error {queryType : String} {types : List SchemaType}
    {failure : BuildFailure} (h : ofEvaluated queryType types = .error failure) :
    failure.IsError := by
  rw [ofEvaluated] at h
  split at h
  · cases h
  · exact ⟨_, (Except.error.inj h).symm⟩

/-! ### Whole builds -/

/-- A built schema holds the types of its type system, and the query root is one of those which
    it defines. -/
theorem build_eq_ok {sdl : String} {suffixes : Suffixes} {schema : Schema}
    (h : (build sdl suffixes).1 = .ok schema) :
    ∃ ts map types defined generated, TypeSystem.load sdl = .ok ts ∧
      (ofTypeSystem ts).1 = .ok map ∧ Evaluated ts types defined generated ∧
      schema = ofTypes ts.queryType types ∧
      ∃ t ∈ ts.types, t.isDefined = true ∧ t.isObject = true ∧ t.name = ts.queryType := by
  rw [build_fst] at h
  obtain ⟨ts, hts, h⟩ := Outcome.bind_eq_ok.1 h
  obtain ⟨types, htypes, h⟩ := Outcome.bind_eq_ok.1 h
  obtain ⟨map, defined, generated, hmap, hevaluated⟩ := typesOf_eq_ok htypes
  obtain ⟨hschema, o, ho, hname⟩ := ofEvaluated_eq_ok h
  obtain ⟨t, ht, hisDefined, hdefined⟩ := hevaluated.exists_source ho
  refine ⟨ts, map, types, defined, generated, Outcome.mapError_eq_ok.1 hts, hmap, hevaluated,
    hschema, t, ht, hisDefined, ?_, hdefined.name.symm.trans hname⟩
  rw [SourceType.isObject_iff, ← hdefined.kind]
  rfl

end Schema

end EntityGraph
