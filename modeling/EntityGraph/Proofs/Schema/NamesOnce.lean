import Mathlib
import EntityGraph.Proofs.Schema.Building

/-!
# Names in a schema

Building ends with a schema or with an error it tells about, and never with a type given two
fields or two interfaces of one name, if the type system names nothing twice
(`Schema.build_of_namesOnce`). There is no weaker condition for a schema to come out: the type
system of a built schema names nothing twice, and neither does any type of the schema.
-/

namespace EntityGraph

/-! ### Deciding -/

namespace Selection

variable (P : SelectionTree → Prop) [DecidablePred P]

mutual

/-- Whether every layer below a selected field satisfies `P`. -/
def decidableBelow : (s : Selection) → Decidable (s.Below P)
  | .mk _ children =>
    have := decidableAllBelow children
    inferInstanceAs (Decidable (P children ∧ AllBelow P children))

def decidableAllBelow : (tree : List Selection) → Decidable (AllBelow P tree)
  | [] => inferInstanceAs (Decidable True)
  | s :: rest =>
    have := decidableBelow s
    have := decidableAllBelow rest
    inferInstanceAs (Decidable (s.Below P ∧ AllBelow P rest))

end

instance (tree : List Selection) : Decidable (AllBelow P tree) := decidableAllBelow P tree

end Selection

instance : DecidablePred SelectionTree.EachOnce := fun tree =>
  inferInstanceAs (Decidable tree.names.Nodup)

instance (ts : TypeSystem) : Decidable ts.KeysOnce :=
  inferInstanceAs (Decidable (∀ k ∈ ts.queryKeys,
    Selection.AllBelow SelectionTree.EachOnce k.2.selection))

instance (ts : TypeSystem) (t : SourceType) : Decidable (t.NamesOnce ts) :=
  decidable_of_iff (t.fieldNames.Nodup ∧ (ts.interfacesOf t).Nodup)
    ⟨fun h => ⟨h.1, h.2⟩, fun h => ⟨h.fields, h.interfaces⟩⟩

instance (ts : TypeSystem) : Decidable ts.NamesOnce :=
  decidable_of_iff ((∀ t ∈ ts.types, t.isDefined = true → t.NamesOnce ts) ∧ ts.KeysOnce)
    ⟨fun h => ⟨h.1, h.2⟩, fun h => ⟨h.types, h.keys⟩⟩

namespace Assembly

variable {ts : TypeSystem} {types defined : List SchemaType} {generated : List GeneratedInput}

/-- No evaluated type has two fields or two interfaces of one name. -/
theorem Evaluated.namesOnce_of_mem (h : Evaluated ts types defined generated) {t : SchemaType}
    (ht : t ∈ types) : t.NamesOnce := by
  rw [h.types, List.mem_append, List.mem_cons] at ht
  rcases ht with (rfl | ht) | ht
  · exact ⟨List.nodup_singleton idField, .nil⟩
  · obtain ⟨source, -, hdefined⟩ := exists_of_mem_forall₂ h.defined.flip ht
    exact hdefined.namesOnce
  · obtain ⟨input, hinput, rfl⟩ := List.mem_map.1 ht
    exact ⟨h.generated input hinput, .nil⟩

/-- A type system whose types were evaluated, its query root among them, names nothing twice. -/
theorem Evaluated.namesOnce (h : Evaluated ts types defined generated) {root : SourceType}
    (hroot : root ∈ ts.types) (hisDefined : root.isDefined = true)
    (hobject : root.isObject = true) (hname : root.name = ts.queryType) : ts.NamesOnce where
  types t ht hdefined := by
    obtain ⟨type, -, hfrom⟩ := exists_of_mem_forall₂ h.defined (List.mem_filter.2 ⟨ht, hdefined⟩)
    exact hfrom.source
  keys k hk := by
    obtain ⟨type, -, hfrom⟩ :=
      exists_of_mem_forall₂ h.defined (List.mem_filter.2 ⟨hroot, hisDefined⟩)
    exact (hfrom.keys hobject hname k hk).below

end Assembly

namespace Schema

theorem namesOnce_of_mem {queryType : String} {types : List SchemaType}
    (h : ∀ t ∈ types, t.NamesOnce) {t : SchemaType} (ht : t ∈ (ofTypes queryType types).types) :
    t.NamesOnce := by
  rcases mem_types_ofTypes ht with ht | ⟨name, rfl⟩
  · exact h t ht
  · exact ⟨.nil, .nil⟩

/-- A build whose type system names nothing twice fails for an error only. -/
theorem isError_of_build {sdl : String} {suffixes : Suffixes} {failure : BuildFailure}
    (honce : ∀ ts, TypeSystem.load sdl = .ok ts → ts.NamesOnce)
    (h : (build sdl suffixes).1 = .error failure) : failure.IsError := by
  rw [build_fst] at h
  rcases Outcome.bind_eq_error.1 h with h | ⟨ts, hts, h⟩
  · exact Assembly.isError_of_raise h
  · rcases Outcome.bind_eq_error.1 h with h | ⟨types, -, h⟩
    · exact typesOf_eq_error h (honce ts (Outcome.mapError_eq_ok.1 hts))
    · exact ofEvaluated_eq_error h

/-- Building ends with a schema, none of whose types has two fields or interfaces of one name, or
    with an error, if the type system names nothing twice; and only then there is a schema. -/
theorem build_of_namesOnce (sdl : String) (suffixes : Suffixes) :
    ((∀ ts, TypeSystem.load sdl = .ok ts → ts.NamesOnce) →
      (∃ schema, (build sdl suffixes).1 = .ok schema) ∨
        ∃ e, (build sdl suffixes).1 = .error (.error e)) ∧
    ∀ schema, (build sdl suffixes).1 = .ok schema →
      (∀ t ∈ schema.types, t.NamesOnce) ∧
        ∀ ts, TypeSystem.load sdl = .ok ts → ts.NamesOnce := by
  refine ⟨fun honce => ?_, fun schema h => ?_⟩
  · cases h : (build sdl suffixes).1 with
    | ok schema => exact .inl ⟨schema, rfl⟩
    | error failure =>
      obtain ⟨e, rfl⟩ := isError_of_build honce h
      exact .inr ⟨e, rfl⟩
  · obtain ⟨ts, map, types, defined, generated, hts, -, hevaluated, rfl, root, hroot, hisDefined,
      hobject, hname⟩ := build_eq_ok h
    refine ⟨fun t ht => namesOnce_of_mem (fun t ht => hevaluated.namesOnce_of_mem ht) ht,
      fun ts' hts' => ?_⟩
    -- The root was defined, so every key with a query field was walked along.
    obtain rfl := Except.ok.inj (hts.symm.trans hts')
    exact hevaluated.namesOnce hroot hisDefined hobject hname

/-- A type with a nested key is built. The query root can not be declared to implement the interface
    which it is given in any case. -/
theorem build_of_namesOnce_nested :
    let sdl := "type Query \x7b a: A \x7d type O \x7b name: String \x7d
      type A @key(fields: \"name owner \x7b name \x7d\") \x7b name: String owner: O \x7d"
    ((∀ ts, TypeSystem.load sdl = .ok ts → ts.NamesOnce) ∧
      ∃ schema, (build sdl .counting).1 = .ok schema ∧ ∀ t ∈ schema.types, t.NamesOnce) ∧
    (build "type Query implements Node \x7b a: Int \x7d" .counting).1 =
      .error (.interfaceTwice "Query" "Node") := by
  intro sdl
  have honce : ∀ ts, TypeSystem.load sdl = .ok ts → ts.NamesOnce := by
    have hloaded : ∀ ts ∈ (TypeSystem.load sdl).toOption, ts.NamesOnce := by decide +kernel
    exact fun ts hts => hloaded ts (Outcome.toOption_eq_some.2 hts)
  obtain ⟨hends, hbuilt⟩ := build_of_namesOnce sdl .counting
  obtain ⟨schema, hschema⟩ := (hends honce).resolve_right fun ⟨e, he⟩ => by
    obtain ⟨schema, hschema⟩ : ∃ schema, (build sdl .counting).1 = .ok schema :=
      Outcome.isSome_toOption.1 (by decide +kernel)
    cases he.symm.trans hschema
  refine ⟨⟨honce, schema, hschema, (hbuilt schema hschema).1⟩, ?_⟩
  refine Outcome.map_eq_error (f := fun _ => ()) |>.1 ?_
  decide +kernel

end Schema

end EntityGraph
