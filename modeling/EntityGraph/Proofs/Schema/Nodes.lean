import Mathlib
import EntityGraph.Proofs.Schema.Assembled

/-!
# Nodes

An object of a schema implements the interface of global ids for one of two reasons: it has an
identity, as it is the query root or has a key, or a declaration of it says so itself. A document
may say so of an object without an identity, which then is a node without a global id. If no
document says so, nodes are exactly the objects with an identity (`Schema.nodes_of_build`).

* `Assembly.AssembledFrom.readsEntity`: objects with an identity read their entity;
* `Schema.exists_source_of_mem_objects`: what is known of every object of a schema.
-/

namespace EntityGraph

namespace Declaration

/-- A declaration of the type, its definition or an extension, has a key. -/
def IsKeyed (ds : List Declaration) (type : String) : Prop :=
  ∃ d ∈ declarationsOf type ds, d.fieldSets ≠ []

/-- A declaration of the type, its definition or an extension, names the interface. -/
def Implements (ds : List Declaration) (type interface : String) : Prop :=
  ∃ d ∈ declarationsOf type ds, interface ∈ d.body.parts.interfaces

end Declaration

/-- The object has an identity: it is the query root or has a key. -/
def Schema.IsPrimary (s : Schema) (ds : List Declaration) (o : ObjectType) : Prop :=
  o.name = s.queryType ∨ Declaration.IsKeyed ds o.name

/-- Values of the object are entities: their `id` is the global one, and the fields which the
    document of the schema declares are those of the document of the entity. -/
structure ObjectType.ReadsEntity (ds : List Declaration) (o : ObjectType) : Prop where
  id : ∃ key, o.fields.find? (fun field => field.name = idField) = some (idFieldOf key)
  declared : ∀ d ∈ Declaration.declarationsOf o.name ds, ∀ f ∈ d.body.parts.fields, ∃ field,
    o.fields.find? (fun field => field.name = f.name) = some field ∧ field.source = .document

namespace TypeSystem

variable {ts : TypeSystem} {t : SourceType} {ds : List TypeDeclaration}

theorem isPrimary_iff (h : t.isObject = true) :
    ts.isPrimary t = true ↔ t.name = ts.queryType ∨ t.keys ≠ [] := by
  simp [isPrimary, h]

namespace Collects

theorem keys_ne_nil_iff (h : Collects t ds) : t.keys ≠ [] ↔ ∃ d ∈ ds, d.fieldSets ≠ [] := by
  rw [Ne, ← List.map_eq_nil_iff, h.keys, List.flatMap_eq_nil_iff]
  push Not
  rfl

theorem mem_implemented_iff (h : Collects t ds) {interface : String} :
    interface ∈ t.implemented ↔ ∃ d ∈ ds, interface ∈ d.body.parts.interfaces := by
  have himplemented : t.implemented = t.kind.parts.interfaces := by
    rw [SourceType.implemented]
    cases t.kind <;> rfl
  rw [himplemented, h.parts, TypeParts.ofDeclarations, List.mem_flatMap]

theorem mem_fields (h : Collects t ds) {d : TypeDeclaration} (hd : d ∈ ds) {f : FieldDeclaration}
    (hf : f ∈ d.body.parts.fields) : f ∈ t.fields := by
  have hfields : t.fields = t.kind.parts.fields := by
    rw [SourceType.fields]
    cases t.kind <;> rfl
  rw [hfields, h.parts]
  exact List.mem_flatMap.2 ⟨d, hd, hf⟩

end Collects

end TypeSystem

namespace Assembly

variable {ts : TypeSystem} {t : SourceType} {o : ObjectType}

namespace AssembledFrom

/-- An object is a node if it has an identity or declares it. -/
theorem mem_interfaces_iff (h : AssembledFrom ts t o) :
    nodeInterface ∈ o.interfaces ↔ ts.isPrimary t = true ∨ nodeInterface ∈ t.implemented := by
  rw [h.interfaces, TypeSystem.interfacesOf, List.mem_append, or_comm]
  refine or_congr_left ?_
  cases ts.isPrimary t <;> simp

/-- No object is a node for both reasons, as no interface is implemented twice. -/
theorem not_mem_implemented (h : AssembledFrom ts t o) (honce : o.interfaces.Nodup)
    (hprimary : ts.isPrimary t = true) : nodeInterface ∉ t.implemented := by
  rw [h.interfaces, TypeSystem.interfacesOf, if_pos hprimary] at honce
  intro himplemented
  exact List.disjoint_of_nodup_append honce himplemented (List.mem_singleton_self _)

theorem find?_id (h : AssembledFrom ts t o) (honce : (o.fields.map ObjectField.name).Nodup)
    (hprimary : ts.isPrimary t = true) :
    ∃ key, o.fields.find? (fun field => field.name = idField) = some (idFieldOf key) := by
  obtain ⟨taken, firstKey, generated, hfields, -, -, -⟩ := h.fields
  have hid : idFieldOf firstKey ∈ o.fields := by
    rw [hfields, idFields, if_pos hprimary]
    exact List.mem_append_left _ (List.mem_append_right _ (List.mem_singleton_self _))
  exact ⟨firstKey, find?_name_of_mem honce hid⟩

theorem find?_declared (h : AssembledFrom ts t o) (hprimary : ts.isPrimary t = true)
    {f : FieldDeclaration} (hf : f ∈ t.fields) : ∃ field,
      o.fields.find? (fun field => field.name = f.name) = some field ∧
        field.source = .document := by
  obtain ⟨taken, firstKey, generated, hfields, htaken, -, -⟩ := h.fields
  obtain ⟨own, hown, hsame⟩ := exists_of_mem_forall₂ htaken hf
  -- The declared fields come first, so a field which is found under a declared name is one.
  have hfound : (taken.find? fun field => field.name = f.name).isSome = true :=
    List.find?_isSome.2 ⟨own, hown, decide_eq_true hsame.name⟩
  obtain ⟨field, hfield⟩ := Option.isSome_iff_exists.1 hfound
  obtain ⟨_, -, htakenOver⟩ :=
    exists_of_mem_forall₂ htaken.flip (List.mem_of_find?_eq_some hfield)
  refine ⟨field, ?_, ?_⟩
  · rw [hfields, List.append_assoc, List.find?_append, hfield, Option.some_or]
  · rw [htakenOver.source, declaredSource, if_pos hprimary]

/-- The values of an object with an identity are entities. -/
theorem readsEntity (h : AssembledFrom ts t o) {ds : List Declaration}
    (hcollects : TypeSystem.Collects t (Declaration.declarationsOf t.name ds))
    (honce : (o.fields.map ObjectField.name).Nodup) (hprimary : ts.isPrimary t = true) :
    o.ReadsEntity ds where
  id := h.find?_id honce hprimary
  declared d hd f hf := by
    rw [h.name] at hd
    exact h.find?_declared hprimary (hcollects.mem_fields hd hf)

end AssembledFrom

end Assembly

namespace Schema

open Assembly

variable {sdl : String} {ds : List Declaration} {ts : TypeSystem} {suffixes : Suffixes}
  {types : List SchemaType} {queryType : String}

theorem mem_objects_iff {s : Schema} {o : ObjectType} :
    o ∈ s.objects ↔ SchemaType.object o ∈ s.types := by
  rw [objects, List.mem_filterMap]
  constructor
  · rintro ⟨t, ht, ho⟩
    cases t with
    | object o' =>
      obtain rfl := Option.some.inj ho
      exact ht
    | _ => cases ho
  · exact fun ho => ⟨_, ho, rfl⟩

/-- An object of a schema is the one which is registered under its name. -/
theorem get?_of_mem_objects {o : ObjectType} (ho : o ∈ (ofTypes queryType types).objects) :
    (ofTypes queryType types).get? o.name = some (.object o) :=
  find?_name_of_mem (nodup_lastByName _) (mem_objects_iff.1 ho)

theorem exists_of_mem_possibleTypes {s : Schema} {name : String}
    (h : name ∈ s.possibleTypes nodeType) :
    ∃ o ∈ s.objects, nodeInterface ∈ o.interfaces ∧ o.name = name := by
  obtain ⟨o, ho, hname⟩ := List.mem_map.1 h
  obtain ⟨ho, hnode⟩ := List.mem_filter.1 ho
  exact ⟨o, ho, of_decide_eq_true hnode, hname⟩

/-- The interface of global ids is registered under its name: no type of the document and no
    generated one takes it. -/
theorem get?_nodeInterface (hts : TypeSystem.load sdl = .ok ts)
    (htypes : (typesOf ts suffixes).1 = .ok types) :
    (ofTypes ts.queryType types).get? nodeInterface = some nodeType := by
  obtain ⟨map, defined, inputs, hmap, hevaluated⟩ := typesOf_eq_ok htypes
  have hnone : (inputs.filter fun input => input.name = nodeInterface) = [] := by
    refine filter_name_of_not_mem fun hname => ?_
    rw [names_of_typesOf hts htypes hevaluated] at hname
    -- All generated names have a letter which the name of the interface has not.
    exact absurd (Suffixes.mem_toList_of_mem_namesFrom hname) (by decide)
  change (ofTypes ts.queryType types).get? nodeType.name = _
  rw [get?_ofTypes hts hevaluated hmap List.mem_cons_self]
  change some (((inputs.filter fun input => input.name = nodeInterface).getLast?.map _).getD _) = _
  rw [hnone]
  rfl

/-- What is known of an object of a schema: it is assembled from a type which was loaded, and has
    no two fields and no two interfaces of one name. -/
theorem exists_source_of_mem_objects (htypes : (typesOf ts suffixes).1 = .ok types)
    {o : ObjectType} (ho : o ∈ (ofTypes queryType types).objects) :
    ∃ t ∈ ts.types, t.isDefined = true ∧ t.isObject = true ∧ AssembledFrom ts t o ∧
      (SchemaType.object o).NamesOnce := by
  have hmem : SchemaType.object o ∈ types :=
    (mem_types_ofTypes (mem_objects_iff.1 ho)).resolve_right fun ⟨_, h⟩ => nomatch h
  obtain ⟨map, defined, inputs, -, hevaluated⟩ := typesOf_eq_ok htypes
  obtain ⟨_, -, -, hdefined⟩ := hevaluated.exists_source hmem
  obtain ⟨defined', inputs', rfl, hfrom⟩ := exists_evaluatedFrom htypes
  -- An object is neither the interface nor a generated input, so the document declares it.
  rw [List.cons_append, List.mem_cons, List.mem_append] at hmem
  rcases hmem with hmem | hmem | hmem
  · cases hmem
  · obtain ⟨t, ht, hevaluatedFrom⟩ := exists_of_mem_forall₂ hfrom.flip hmem
    obtain ⟨ht, hisDefined⟩ := List.mem_filter.1 ht
    refine ⟨t, ht, hisDefined, ?_, hevaluatedFrom.object o rfl, hdefined.namesOnce⟩
    exact SourceType.isObject_iff.2 hevaluatedFrom.kind.symm
  · obtain ⟨_, -, hinput⟩ := List.mem_map.1 hmem
    cases hinput

/-- The reasons for an object of a schema to implement an interface can be told from the
    declarations of its type. -/
theorem reasons_of_mem_objects (hread : Declaration.readAll sdl = .ok ds)
    (hts : TypeSystem.load sdl = .ok ts) (htypes : (typesOf ts suffixes).1 = .ok types)
    {o : ObjectType} (ho : o ∈ (ofTypes ts.queryType types).objects) :
    (nodeInterface ∈ o.interfaces ↔ (ofTypes ts.queryType types).IsPrimary ds o ∨
      Declaration.Implements ds o.name nodeInterface) ∧
    ((ofTypes ts.queryType types).IsPrimary ds o →
      ¬ Declaration.Implements ds o.name nodeInterface ∧ o.ReadsEntity ds) := by
  obtain ⟨t, ht, hisDefined, hobject, hfrom, honce⟩ := exists_source_of_mem_objects htypes ho
  rw [SourceType.isDefined, Bool.and_eq_true, Bool.not_eq_true', Bool.not_eq_true'] at hisDefined
  -- A type which the schema defines is not built in, so it is what its declarations say.
  have hcollects : TypeSystem.Collects t (Declaration.declarationsOf t.name ds) := by
    refine TypeSystem.collects_of_load hread hts ht fun hbuiltIn => ?_
    rw [(TypeSystem.isBuiltIn_iff_of_load hts ht).2 hbuiltIn] at hisDefined
    cases hisDefined.2
  have hprimary : (ofTypes ts.queryType types).IsPrimary ds o ↔ ts.isPrimary t = true := by
    rw [TypeSystem.isPrimary_iff hobject, hcollects.keys_ne_nil_iff, IsPrimary, hfrom.name]
    rfl
  have himplements :
      Declaration.Implements ds o.name nodeInterface ↔ nodeInterface ∈ t.implemented := by
    rw [hcollects.mem_implemented_iff, Declaration.Implements, hfrom.name]
  rw [hprimary, himplements]
  refine ⟨hfrom.mem_interfaces_iff, fun h => ⟨?_, ?_⟩⟩
  · exact hfrom.not_mem_implemented honce.interfaces h
  · exact hfrom.readsEntity hcollects (SchemaType.fieldNames_object o ▸ honce.fields) h

/-- An object of a built schema implements the interface of global ids if it has an identity, and
    then it reads its entity, or if a declaration says so, and never for both reasons. So if no
    declaration of an object says so, the objects which implement it are those with an identity, and
    all values of the interface are entities. -/
theorem nodes_of_build {schema : Schema} (h : (build sdl suffixes).1 = .ok schema) :
    ∃ ds, Declaration.readAll sdl = .ok ds ∧ schema.get? nodeInterface = some nodeType ∧
      (∀ o ∈ schema.objects,
        (nodeInterface ∈ o.interfaces ↔
          schema.IsPrimary ds o ∨ Declaration.Implements ds o.name nodeInterface) ∧
        (schema.IsPrimary ds o →
          ¬ Declaration.Implements ds o.name nodeInterface ∧ o.ReadsEntity ds)) ∧
      ((∀ o ∈ schema.objects, ¬ Declaration.Implements ds o.name nodeInterface) →
        (∀ o ∈ schema.objects, nodeInterface ∈ o.interfaces ↔ schema.IsPrimary ds o) ∧
        ∀ name ∈ schema.possibleTypes nodeType, ∃ o,
          schema.get? name = some (.object o) ∧ o.ReadsEntity ds) := by
  rw [build_fst] at h
  obtain ⟨ts, hts, h⟩ := Outcome.bind_eq_ok.1 h
  obtain ⟨types, htypes, h⟩ := Outcome.bind_eq_ok.1 h
  rw [Outcome.mapError_eq_ok] at hts
  obtain ⟨rfl, -⟩ := ofEvaluated_eq_ok h
  obtain ⟨ds, hread⟩ := TypeSystem.exists_readAll_of_load hts
  refine ⟨ds, hread, get?_nodeInterface hts htypes,
    fun o ho => reasons_of_mem_objects hread hts htypes ho, fun hnone => ?_⟩
  have hiff : ∀ o ∈ (ofTypes ts.queryType types).objects,
      nodeInterface ∈ o.interfaces ↔ (ofTypes ts.queryType types).IsPrimary ds o := by
    intro o ho
    rw [(reasons_of_mem_objects hread hts htypes ho).1, or_iff_left (hnone o ho)]
  refine ⟨hiff, fun name hname => ?_⟩
  obtain ⟨o, ho, hnode, rfl⟩ := exists_of_mem_possibleTypes hname
  have hprimary := (hiff o ho).1 hnode
  exact ⟨o, get?_of_mem_objects ho, ((reasons_of_mem_objects hread hts htypes ho).2 hprimary).2⟩

/-- `T` has its key from an extension, `V` has none. If nothing is said of `V`, the values of the
    interface are entities; a declaration makes `V` a node without an identity. -/
theorem nodes_of_build_declared :
    let sdl (implements : String) := "type Query \x7b t: T v: V \x7d type T \x7b c: Int \x7d
      extend type T @key(fields: \"c\") type V" ++ implements ++ " \x7b id: ID! \x7d"
    (∃ ds schema, Declaration.readAll (sdl "") = .ok ds ∧
      (build (sdl "") .counting).1 = .ok schema ∧
      schema.possibleTypes nodeType = ["Query", "T"] ∧
      ∀ name ∈ schema.possibleTypes nodeType, ∃ o,
        schema.get? name = some (.object o) ∧ o.ReadsEntity ds) ∧
    ∃ ds schema, Declaration.readAll (sdl " implements Node") = .ok ds ∧
      (build (sdl " implements Node") .counting).1 = .ok schema ∧
      schema.possibleTypes nodeType = ["Query", "T", "V"] ∧
      ∃ o ∈ schema.objects, o.name = "V" ∧ nodeInterface ∈ o.interfaces ∧
        ¬ schema.IsPrimary ds o := by
  intro sdl
  constructor
  · have hbuilt : ∃ schema ∈ (build (sdl "") .counting).1.toOption,
        schema.possibleTypes nodeType = ["Query", "T"] ∧
        ∀ ds ∈ (Declaration.readAll (sdl "")).toOption, ∀ o ∈ schema.objects,
          ¬ ∃ d ∈ Declaration.declarationsOf o.name ds,
            nodeInterface ∈ d.body.parts.interfaces := by
      decide +kernel
    obtain ⟨schema, hschema, hpossible, hnone⟩ := hbuilt
    have hschema := Outcome.toOption_eq_some.1 hschema
    obtain ⟨ds, hread, -, -, hnodes⟩ := nodes_of_build hschema
    obtain ⟨-, hentities⟩ := hnodes (hnone ds (Outcome.toOption_eq_some.2 hread))
    exact ⟨ds, schema, hread, hschema, hpossible, hentities⟩
  · have hbuilt : ∃ schema ∈ (build (sdl " implements Node") .counting).1.toOption,
        schema.possibleTypes nodeType = ["Query", "T", "V"] ∧
        ∃ ds ∈ (Declaration.readAll (sdl " implements Node")).toOption, ∃ o ∈ schema.objects,
          o.name = "V" ∧ nodeInterface ∈ o.interfaces ∧
            ¬ (o.name = schema.queryType ∨
              ∃ d ∈ Declaration.declarationsOf o.name ds, d.fieldSets ≠ []) := by
      decide +kernel
    obtain ⟨schema, hschema, hpossible, ds, hread, ho⟩ := hbuilt
    exact ⟨ds, schema, Outcome.toOption_eq_some.1 hread, Outcome.toOption_eq_some.1 hschema,
      hpossible, ho⟩

end Schema

end EntityGraph
