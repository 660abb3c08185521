import Mathlib
import EntityGraph.Proofs.Schema.Building
import EntityGraph.Proofs.TypeSystem

/-!
# Keys of a built schema

Two walks look at keys: declaring a type resolves its first key, and adding the query fields walks
along the keys of all primary types but the query root. Together they reach every key except those
of the query root behind its first (`KeyDeclaration.Reached`). If a schema is built, each of them
can be resolved (`Schema.keys_of_build`): every field it selects, at any depth, is a field of the
type it is selected on.
-/

namespace EntityGraph

/-- Building looks at the key of a type: only of the query root it leaves out keys behind the
    first. -/
def KeyDeclaration.Reached (ts : TypeSystem) (t : SourceType) (key : KeyDeclaration) : Prop :=
  t.name = ts.queryType → t.keys.head? = some key

namespace TypeSystem

theorem isObject_of_isPrimary {ts : TypeSystem} {t : SourceType} (h : ts.isPrimary t = true) :
    t.isObject = true := by
  rw [isPrimary, Bool.and_eq_true] at h
  exact h.1

theorem isBuiltIn_of_isObject {t : SourceType} (hscalar : BuiltInIsScalar t)
    (h : t.isObject = true) : (!t.isBuiltIn) = true := by
  cases hbuiltIn : t.isBuiltIn with
  | false => rfl
  | true =>
    rw [SourceType.isObject, hscalar hbuiltIn] at h
    cases h

end TypeSystem

namespace Assembly

variable {ts : TypeSystem} {map : Assembly} {t : SourceType} {key : KeyDeclaration}

/-- The first key of a declared primary type can be resolved. -/
theorem resolves_of_declared (hmap : (ofTypeSystem ts).1 = .ok map) (ht : t ∈ ts.types)
    (hdefined : t.isDefined = true) (hprimary : ts.isPrimary t = true)
    (hkey : t.keys.head? = some key) :
    ∃ projection, KeyProjection.ofSelection ts t.name key.selection = .ok projection := by
  obtain ⟨ds, hds, -⟩ := definitions_ofTypeSystem hmap
  obtain ⟨d, -, hd⟩ := exists_of_mem_forall₂ hds (List.mem_filter.2 ⟨ht, hdefined⟩)
  rw [definitionOf_of_isObject (TypeSystem.isObject_of_isPrimary hprimary)] at hd
  obtain ⟨_, -, hfirst⟩ := objectDefinition_eq_ok hd
  exact hfirst key ((TypeSystem.firstKey?_of_isPrimary hprimary).trans hkey)

/-- Types are not declared if a field or a type is missing from a first key, or for the name of
    a type. -/
theorem isUnknown_of_ofTypeSystem {e : BuildError} (h : (ofTypeSystem ts).1 = .error e) :
    e.IsUnknown ∨ e = .reservedTypeName nodeInterface := by
  rcases declareAll_eq_error h with h | ⟨t, -, -, h⟩
  · exact .inr h
  · exact .inl (isUnknown_of_definitionOf h)

end Assembly

namespace Schema

open Assembly

variable {sdl : String} {suffixes : Suffixes} {ts : TypeSystem} {t : SourceType}
  {key : KeyDeclaration}

/-- Building gets through only along keys which can be resolved. -/
theorem resolves_of_build {schema : Schema} (h : (build sdl suffixes).1 = .ok schema)
    (hts : TypeSystem.load sdl = .ok ts) (ht : t ∈ ts.types) (hprimary : ts.isPrimary t = true)
    (hkey : key ∈ t.keys) (hreached : key.Reached ts t) :
    ∃ projection, KeyProjection.ofSelection ts t.name key.selection = .ok projection := by
  obtain ⟨ts', map, types, defined, generated, hts', hmap, hevaluated, -, root, hroot, hisDefined,
    hobject, hname⟩ := build_eq_ok h
  obtain rfl := Except.ok.inj (hts'.symm.trans hts)
  by_cases htype : t.name = ts'.queryType
  · -- The root is declared: it has the name of a defined type, and an object is not built in.
    refine resolves_of_declared hmap ht ?_ hprimary (hreached htype)
    rw [SourceType.isDefined, Bool.and_eq_true] at hisDefined ⊢
    refine ⟨by rw [htype, ← hname]; exact hisDefined.1, ?_⟩
    exact TypeSystem.isBuiltIn_of_isObject (TypeSystem.scalar_of_load hts ht)
      (TypeSystem.isObject_of_isPrimary hprimary)
  · -- The root was defined, for which its query fields were added: one is for this key.
    obtain ⟨type, -, hfrom⟩ :=
      exists_of_mem_forall₂ hevaluated.defined (List.mem_filter.2 ⟨hroot, hisDefined⟩)
    exact (hfrom.keys hobject hname _ (TypeSystem.mem_queryKeys ht hprimary htype hkey)).resolves

/-- A build fails while types are declared if a first key of a declared type can not be
    resolved. -/
theorem isUnknown_of_build {e : BuildError} (hts : TypeSystem.load sdl = .ok ts)
    (ht : t ∈ ts.types) (hprimary : ts.isPrimary t = true) (hdefined : t.isDefined = true)
    (hkey : t.keys.head? = some key)
    (he : KeyProjection.ofSelection ts t.name key.selection = .error e) :
    ∃ e', (build sdl suffixes).1 = .error (.error e') ∧
      (e'.IsUnknown ∨ e' = .reservedTypeName nodeInterface) := by
  rw [build_fst, hts]
  change ∃ e', ((typesOf ts suffixes).1 >>= _) = _ ∧ _
  rw [typesOf_fst]
  cases hmap : (ofTypeSystem ts).1 with
  | error e' => exact ⟨e', rfl, isUnknown_of_ofTypeSystem hmap⟩
  | ok map =>
    obtain ⟨projection, hprojection⟩ := resolves_of_declared hmap ht hdefined hprimary hkey
    cases hprojection.symm.trans he

/-- Every key of a built schema can be resolved, those of the query root behind its first apart.
    A key which can not be resolved selects a field which is not there; neither the walk along it
    nor building gets through. -/
theorem keys_of_build (sdl : String) (suffixes : Suffixes) :
    ∀ ts, TypeSystem.load sdl = .ok ts → ∀ t ∈ ts.types, ts.isPrimary t = true →
      ∀ key ∈ t.keys, key.Reached ts t →
        (∀ schema, (build sdl suffixes).1 = .ok schema →
          (∃ projection, KeyProjection.ofSelection ts t.name key.selection = .ok projection) ∧
            ∃ inner, ts.get? t.name = some inner ∧ Selection.AllKnown ts inner key.selection) ∧
        ∀ e, KeyProjection.ofSelection ts t.name key.selection = .error e →
          e.IsUnknown ∧ (∃ failure, (build sdl suffixes).1 = .error failure) ∧
          (t.isDefined = true → t.keys.head? = some key → ∃ e', (build sdl suffixes).1 =
            .error (.error e') ∧ (e'.IsUnknown ∨ e' = .reservedTypeName nodeInterface)) ∧
          ∀ (map : Assembly) (g : Generation), g.NamesOnce → ∃ failure,
            ((keyArguments ts map suffixes t.name key.selection).run g).1 = .error failure ∧
              failure.StopsWalk := by
  intro ts hts t ht hprimary key hkey hreached
  refine ⟨fun schema hschema => ?_, fun e he => ?_⟩
  · have hresolves := resolves_of_build hschema hts ht hprimary hkey hreached
    exact ⟨hresolves, KeyProjection.exists_ofSelection_iff.1 hresolves⟩
  have hunresolved : ¬ ∃ projection,
      KeyProjection.ofSelection ts t.name key.selection = .ok projection :=
    fun ⟨projection, h⟩ => nomatch h.symm.trans he
  refine ⟨KeyProjection.isUnknown_of_ofSelection he, ?_,
    fun hdefined hfirst => isUnknown_of_build hts ht hprimary hdefined hfirst he,
    fun map g hg => ?_⟩
  · cases hbuild : (build sdl suffixes).1 with
    | ok schema =>
      exact absurd (resolves_of_build hbuild hts ht hprimary hkey hreached) hunresolved
    | error failure => exact ⟨failure, rfl⟩
  · have hwalk : Generating.Ends (keyArguments ts map suffixes t.name key.selection) _ _ :=
      ends_keyArguments t.name key
    cases hrun : ((keyArguments ts map suffixes t.name key.selection).run g).1 with
    | ok arguments => exact absurd (hwalk.ok hg hrun).resolves hunresolved
    | error failure => exact ⟨failure, rfl, (hwalk.error hg hrun).1⟩

/-- The second key of a type is resolved at every level if there is a schema, and there is none if
    it selects an unknown field. The second key of the query root is never looked at. -/
theorem keys_of_build_second :
    let sdl (second : String) := "type Query \x7b t: T \x7d type O \x7b y: Int \x7d
      type T @key(fields: \"x\") @key(fields: \"" ++ second ++ "\") \x7b x: Int o: O \x7d"
    let rootSdl := "type Query @key(fields: \"a\") @key(fields: \"zz\") \x7b a: Int \x7d"
    (∃ ts, TypeSystem.load (sdl "o \x7b y \x7d") = .ok ts ∧ ∃ t ∈ ts.types, ∃ key ∈ t.keys.tail,
      ∃ projection, KeyProjection.ofSelection ts t.name key.selection = .ok projection) ∧
    (∃ failure, (build (sdl "o \x7b zz \x7d") .counting).1 = .error failure) ∧
    ∃ schema, (build rootSdl .counting).1 = .ok schema := by
  intro sdl rootSdl
  refine ⟨?_, ?_, ?_⟩
  · have hbuilt : (build (sdl "o \x7b y \x7d") .counting).1.toOption.isSome = true := by
      decide +kernel
    have hloaded : (TypeSystem.load (sdl "o \x7b y \x7d")).toOption.isSome = true := by
      decide +kernel
    have hfacts : ∀ ts ∈ (TypeSystem.load (sdl "o \x7b y \x7d")).toOption, ∃ t ∈ ts.types,
        ts.isPrimary t = true ∧ t.name ≠ ts.queryType ∧ t.keys.tail.length = 1 := by
      decide +kernel
    obtain ⟨schema, hschema⟩ := Outcome.isSome_toOption.1 hbuilt
    obtain ⟨ts, hts⟩ := Outcome.isSome_toOption.1 hloaded
    obtain ⟨t, ht, hprimary, hroot, htail⟩ := hfacts ts (Outcome.toOption_eq_some.2 hts)
    obtain ⟨key, hkey⟩ := List.exists_mem_of_length_pos (htail ▸ Nat.one_pos)
    obtain ⟨hresolves, -⟩ := (keys_of_build _ .counting ts hts t ht hprimary key
      (List.mem_of_mem_tail hkey) fun h => absurd h hroot).1 schema hschema
    exact ⟨ts, hts, t, ht, key, hkey, hresolves⟩
  · have hloaded : (TypeSystem.load (sdl "o \x7b zz \x7d")).toOption.isSome = true := by
      decide +kernel
    have hfacts : ∀ ts ∈ (TypeSystem.load (sdl "o \x7b zz \x7d")).toOption, ∃ t ∈ ts.types,
        ts.isPrimary t = true ∧ t.name ≠ ts.queryType ∧ ∃ key ∈ t.keys,
          (KeyProjection.ofSelection ts t.name key.selection).toOption.isSome = false := by
      decide +kernel
    obtain ⟨ts, hts⟩ := Outcome.isSome_toOption.1 hloaded
    obtain ⟨t, ht, hprimary, hroot, key, hkey, hunresolved⟩ :=
      hfacts ts (Outcome.toOption_eq_some.2 hts)
    cases he : KeyProjection.ofSelection ts t.name key.selection with
    | ok projection =>
      rw [he] at hunresolved
      cases hunresolved
    | error e =>
      exact ((keys_of_build _ .counting ts hts t ht hprimary key hkey
        fun h => absurd h hroot).2 e he).2.1
  · exact Outcome.isSome_toOption.1 (by decide +kernel)

end Schema

end EntityGraph
