import Mathlib
import EntityGraph.Proofs.Schema.Registered

/-!
# What objects are assembled from

An object of the schema has the fields and interfaces of its source, in their order, and behind them
those which are generated: an `id` and the interface of global ids if it is primary, `node` and the
query fields of all keys if it is the query root (`Assembly.AssembledFrom`). Names, types and
arguments of declared fields are taken over as they are, but arguments are put into a field by name:
of two arguments of one name the first one is lost (`lastByName_eq_self` tells when nothing is).

* `Assembly.ends_assembled`: how the definition of a type ends;
* `Schema.assembled_of_typesOf`: all evaluated types, in order.
-/

namespace EntityGraph

/-! ### Declared fields -/

/-- Of items whose names differ all are kept, in their order. -/
theorem lastByName_eq_self {α : Type} {name : α → String} {items : List α}
    (h : (items.map name).Nodup) : lastByName name items = items := by
  induction items using List.reverseRecOn with
  | nil => rfl
  | append_singleton items item ih =>
    rw [List.map_append, List.map_singleton, List.nodup_append] at h
    obtain ⟨hitems, -, hnew⟩ := h
    rw [lastByName_concat, ih hitems, if_neg]
    intro hold
    obtain ⟨other, hother, hsame⟩ := List.any_eq_true.1 hold
    exact hnew _ (List.mem_map_of_mem hother) _ (List.mem_singleton_self _)
      (of_decide_eq_true hsame)

/-- The field of an object for a declared one. -/
structure FieldDeclaration.TakenOver (source : FieldSource) (f : FieldDeclaration)
    (field : ObjectField) : Prop where
  name : field.name = f.name
  description : field.config.description = f.description
  type : field.config.type = f.type
  /-- All arguments are there, in their order, if each of them has a name of its own. -/
  arguments : (f.arguments.map (·.name)).Nodup → field.config.arguments = f.arguments
  /-- Of arguments of one name the last one is there, at the place of the first one. -/
  argumentsByName : field.config.arguments = lastByName (·.name) f.arguments
  source : field.source = source

/-- Resolving leaves a field as it is. -/
theorem TypeMap.takenOver_of_remapField {δ : Type} {map : TypeMap δ} {f : FieldDeclaration}
    {config : FieldConfig} (h : map.remapField f = .ok config) (source : FieldSource) :
    f.TakenOver source (Assembly.settled ⟨config, source⟩) := by
  obtain ⟨kind, -, -, -, rfl⟩ := remapField_eq_ok h
  exact ⟨rfl, rfl, rfl, lastByName_eq_self, rfl, rfl⟩

/-! ### Generated fields -/

/-- The query field for a key of a type, with whatever arguments. -/
def KeyFieldOf (k : String × KeyDeclaration) (field : ObjectField) : Prop :=
  ∃ arguments, field = ⟨⟨keyFieldName k, none, .named k.1, .object, arguments⟩, .byKey k.1⟩

/-- The fields which are generated for the query root; there are none for another type. -/
def RootFields (ts : TypeSystem) (t : SourceType) (fields : List ObjectField) : Prop :=
  if t.name = ts.queryType then
    ∃ keyFields, fields = nodeFieldOfRoot :: keyFields ∧
      List.Forall₂ KeyFieldOf ts.queryKeys keyFields
  else fields = []

theorem KeyFieldOf.settled {k : String × KeyDeclaration} {field : ObjectField}
    (h : KeyFieldOf k field) : KeyFieldOf k (Assembly.settled field) := by
  obtain ⟨arguments, rfl⟩ := h
  exact ⟨_, rfl⟩

theorem RootFields.settled {ts : TypeSystem} {t : SourceType} {fields : List ObjectField}
    (h : RootFields ts t fields) : RootFields ts t (fields.map Assembly.settled) := by
  rw [RootFields] at h ⊢
  split
  · next hroot =>
    rw [if_pos hroot] at h
    obtain ⟨keyFields, rfl, hkeyFields⟩ := h
    refine ⟨keyFields.map Assembly.settled, rfl, List.forall₂_map_right_iff.2 ?_⟩
    exact hkeyFields.imp fun _ _ => KeyFieldOf.settled
  · next hroot =>
    rw [if_neg hroot] at h
    rw [h, List.map_nil]

/-- What the values are told of by their outlines, they are told of by what is outlined. -/
theorem Collected.forall₂ {α β γ : Type} {P : β → α → List GeneratedInput → Prop} {S : γ → β → Prop}
    {T : γ → α → Prop} {sources : List γ} {bs : List β} {as : List α}
    {inputs : List GeneratedInput} (h : Collected P bs as inputs) (hs : List.Forall₂ S sources bs)
    (hT : ∀ source b a part, S source b → P b a part → T source a) :
    List.Forall₂ T sources as := by
  induction h generalizing sources with
  | nil =>
    cases hs
    exact .nil
  | cons ha _ ih =>
    cases hs with
    | cons hfirst hrest => exact .cons (hT _ _ _ _ hfirst ha) (ih hrest)

namespace Generating

variable {α β : Type} {P : α → Prop} {Q : BuildFailure → Prop}

/-- What a step gives which follows an outline is also what the outline describes. -/
theorem Ends.and_follows {x : Generating α} {o : Option β}
    {R : β → α → List GeneratedInput → Prop} (h : Ends x P Q) (ho : Follows x o R) :
    Ends x (fun a => P a ∧ ∃ b inputs, o = some b ∧ R b a inputs) Q where
  ok {g a} hg ha := by
    refine ⟨h.ok hg ha, ?_⟩
    cases o with
    | none =>
      obtain ⟨failure, g', hrun⟩ := ho g
      rw [hrun] at ha
      cases ha
    | some b =>
      obtain ⟨a', inputs, g', hrun, -, hR⟩ := ho g
      rw [hrun] at ha
      obtain rfl := Except.ok.inj ha
      exact ⟨b, inputs, rfl, hR⟩
  error := h.error
  keeps := h.keeps

end Generating

namespace Assembly

open Generating

variable {ts : TypeSystem} {map : Assembly} {suffixes : Suffixes} {types : List SchemaType}

/-- The query fields of keys in their order are added behind those which are there. -/
theorem ends_keyFields (fields : List ObjectField) :
    Ends (addKeyFields ts map suffixes fields)
      (fun fields' => ∃ added, fields' = fields ++ added ∧
        List.Forall₂ KeyFieldOf ts.queryKeys added) (fun _ => True) := by
  refine ((ends_addKeyFields fields).and_follows (follows_addKeyFields fields)).imp ?_
    fun _ _ => trivial
  -- How the fields are added is told by their outlines, which are those of the keys in order.
  rintro fields' ⟨-, shapes, inputs, hshapes, added, hadded, rfl⟩
  refine ⟨added, rfl, ?_⟩
  rw [keyFieldShapes] at hshapes
  split at hshapes
  · refine hadded.forall₂ (mapM_eq_some_iff.1 hshapes) ?_
    rintro k shape field part hshape ⟨arguments, -, rfl⟩
    obtain ⟨shapes, -, hshape⟩ := Option.bind_eq_some_iff.1 hshape
    obtain rfl := Option.some.inj hshape
    exact ⟨arguments, rfl⟩
  · cases hshapes

/-- The fields of the query root are `node` and those for the keys, of which `K` is what is known;
    another type is given none. -/
theorem ends_rootParts_of {K : List ObjectField → Prop}
    (hkeys : ∀ fields, Ends (addKeyFields ts map suffixes fields)
      (fun fields' => ∃ added, fields' = fields ++ added ∧ K added) (fun _ => True))
    (t : SourceType) (isRoot : Bool) (own : List ObjectField × List String) :
    Ends (rootParts ts map suffixes t isRoot own)
      (fun parts => ∃ generated, parts = (own.1 ++ generated, own.2) ∧
        if isRoot = true then ∃ keyFields, generated = nodeFieldOfRoot :: keyFields ∧ K keyFields
        else generated = [])
      (fun _ => True) := by
  rw [rootParts]
  cases isRoot with
  | true =>
    refine (ends_lift (P := fun fields => fields = own.1 ++ [nodeFieldOfRoot])
      (fun _ h => (added_eq_ok nodeFieldOfRoot h).1) fun _ _ => trivial).bind fun fields hfields => ?_
    refine (hkeys fields).bind fun all hall => ends_pure ?_
    obtain ⟨added, hall, hadded⟩ := hall
    refine ⟨nodeFieldOfRoot :: added, ?_, added, rfl, hadded⟩
    rw [hall, hfields, List.append_assoc, List.singleton_append]
  | false => exact ends_pure ⟨[], by rw [List.append_nil], rfl⟩

theorem ends_rootFields (t : SourceType) (own : List ObjectField × List String) :
    Ends (rootParts ts map suffixes t (t.name = ts.queryType) own)
      (fun parts => ∃ generated, parts = (own.1 ++ generated, own.2) ∧ RootFields ts t generated)
      (fun _ => True) := by
  refine (ends_rootParts_of ends_keyFields t _ own).imp_returns ?_
  rintro parts ⟨generated, hparts, hgenerated⟩
  simp only [decide_eq_true_eq] at hgenerated
  exact ⟨generated, hparts, hgenerated⟩

theorem ends_finishObject (t : SourceType) (parts : List ObjectField × List String) :
    Ends (finishObject t parts)
      (fun type => type = .object ⟨t.name, t.description, parts.1.map settled, parts.2⟩)
      (fun _ => True) := by
  rw [finishObject]
  refine (ends_log _ _ _).bind fun _ _ => ?_
  refine (ends_mk (P := fun _ => True) (fun _ _ => trivial) fun _ _ => trivial).bind fun _ _ => ?_
  refine (ends_mk (P := fun _ => True) (fun _ _ => trivial) fun _ _ => trivial).bind fun _ _ => ?_
  exact ends_pure rfl

/-- Where the declared fields of a type take their values from. -/
def declaredSource (ts : TypeSystem) (t : SourceType) : FieldSource :=
  if ts.isPrimary t then .document else .parentValue

/-- The `id` of a primary type, by its first key; there is none for another type. -/
def idFields (ts : TypeSystem) (t : SourceType) (firstKey : Option KeyProjection) :
    List ObjectField :=
  if ts.isPrimary t then [idFieldOf firstKey] else []

theorem fields_of_ownParts {t : SourceType} {implements : List String}
    {declared : List FieldDeclaration} (hkind : t.kind = .object implements declared)
    {firstKey : Option KeyProjection} {own : List ObjectField × List String}
    (h : ownParts ts map t firstKey = .ok own) :
    ∃ taken, own.1 = taken ++ idFields ts t firstKey ∧ List.Forall₂
      (fun f field => f.TakenOver (declaredSource ts t) (settled field)) t.fields taken := by
  rw [ownParts] at h
  simp only [hkind] at h
  obtain ⟨taken, htaken, h⟩ := Outcome.bind_eq_ok.1 h
  obtain ⟨interfaces, -, h⟩ := Outcome.bind_eq_ok.1 h
  refine ⟨taken, ?_, (Outcome.forall₂_of_mapM htaken).imp fun f field hfield => ?_⟩
  · rw [idFields]
    split at h
    · next hprimary =>
      obtain ⟨withId, hwithId, h⟩ := Outcome.bind_eq_ok.1 h
      obtain rfl := Except.ok.inj h
      rw [if_pos hprimary]
      exact (added_eq_ok (idFieldOf firstKey) hwithId).1
    · next hprimary =>
      obtain rfl := Except.ok.inj h
      rw [if_neg hprimary, List.append_nil]
  · obtain ⟨config, hconfig, hfield⟩ := Outcome.bind_eq_ok.1 hfield
    obtain rfl := Except.ok.inj hfield
    exact TypeMap.takenOver_of_remapField hconfig _

/-- What an object is assembled from. -/
structure AssembledFrom (ts : TypeSystem) (t : SourceType) (o : ObjectType) : Prop where
  name : o.name = t.name
  description : o.description = t.description
  /-- The declared fields come first, then the `id`, then the fields of the query root. -/
  fields : ∃ taken firstKey generated,
    o.fields = taken ++ idFields ts t firstKey ++ generated ∧
    List.Forall₂ (FieldDeclaration.TakenOver (declaredSource ts t)) t.fields taken ∧
    objectDefinition ts t = .ok (.object t firstKey (t.name = ts.queryType)) ∧
    RootFields ts t generated
  interfaces : o.interfaces = ts.interfacesOf t

/-- What is known of an evaluated type. -/
structure EvaluatedFrom (ts : TypeSystem) (t : SourceType) (type : SchemaType) : Prop where
  name : type.name = t.name
  kind : type.kind = t.kind.tag
  object : ∀ o, type = .object o → AssembledFrom ts t o

theorem ends_defineObject_assembled {t : SourceType} {implements : List String}
    {declared : List FieldDeclaration} (hkind : t.kind = .object implements declared)
    {firstKey : Option KeyProjection}
    (hd : objectDefinition ts t = .ok (.object t firstKey (t.name = ts.queryType))) :
    Ends (defineObject ts map suffixes t firstKey (t.name = ts.queryType))
      (fun type => ∃ o, type = .object o ∧ AssembledFrom ts t o) (fun _ => True) := by
  rw [defineObject_eq]
  refine (ends_lift (P := fun own => ownParts ts map t firstKey = .ok own) (fun _ h => h)
    fun _ _ => trivial).bind fun own hown => ?_
  refine (ends_rootFields t own).bind fun parts ⟨generated, hparts, hgenerated⟩ => ?_
  refine (ends_finishObject t parts).imp_returns fun type htype => ⟨_, htype, rfl, rfl, ?_, ?_⟩
  · obtain ⟨taken, hown, htaken⟩ := fields_of_ownParts hkind hown
    refine ⟨taken.map settled, firstKey, generated.map settled, ?_,
      List.forall₂_map_right_iff.2 htaken, hd, hgenerated.settled⟩
    rw [hparts, hown, List.map_append, List.map_append]
    -- The `id` has no arguments which could be lost.
    have hid : (idFields ts t firstKey).map settled = idFields ts t firstKey := by
      rw [idFields]
      split <;> rfl
    rw [hid]
  · rw [hparts]
    exact (ownParts_eq_ok hkind hown).2

/-- Evaluating the definition of a type. -/
theorem ends_assembled {t : SourceType} {d : Definition} (hd : definitionOf ts t = .ok d) :
    Ends (define ts map suffixes d) (EvaluatedFrom ts t) (fun _ => True) := by
  obtain ⟨implements, declared, hkind, hd⟩ | ⟨hobject, rfl⟩ := definitionOf_eq_ok hd
  · obtain ⟨firstKey, rfl, -⟩ := objectDefinition_eq_ok hd
    refine (ends_defineObject_assembled hkind hd).imp_returns ?_
    rintro _ ⟨o, rfl, ho⟩
    refine ⟨ho.name, by rw [hkind]; rfl, fun o' heq => ?_⟩
    cases heq
    exact ho
  · refine ends_mk (fun type htype => ?_) fun _ _ => trivial
    have hdefined : DefinedFrom ts t type := definedFrom_of_defineCopied hobject htype
    refine ⟨hdefined.name, hdefined.kind, ?_⟩
    -- A type which is taken over is no object.
    rintro o rfl
    rw [SourceType.isObject_iff.2 hdefined.kind.symm] at hobject
    cases hobject

/-- Every evaluated type comes from one which the schema defines, and whatever its definition gives
    is what is known of it. -/
theorem exists_definedBy {T : SourceType → SchemaType → Prop}
    (h : (Schema.typesOf ts suffixes).1 = .ok types)
    (hT : ∀ (map : Assembly) (t : SourceType) (d : Definition), definitionOf ts t = .ok d →
      Ends (define ts map suffixes d) (T t) (fun _ => True)) :
    ∃ (defined : List SchemaType) (inputs : List GeneratedInput),
      types = nodeType :: defined ++ inputs.map GeneratedInput.type ∧
      List.Forall₂ T (ts.types.filter SourceType.isDefined) defined := by
  rw [Schema.typesOf_fst] at h
  obtain ⟨map, hmap, h⟩ := Outcome.bind_eq_ok.1 h
  obtain ⟨defined, inputs, htypes, hdefined, -⟩ :=
    (ends_evaluate_of (Outcome.mapError_eq_ok.1 hmap) fun t _ _ d hd => hT map.begun t d hd).ok
      Generation.namesOnce_empty h
  exact ⟨defined, inputs, htypes, hdefined⟩

theorem exists_evaluatedFrom (h : (Schema.typesOf ts suffixes).1 = .ok types) :
    ∃ (defined : List SchemaType) (inputs : List GeneratedInput),
      types = nodeType :: defined ++ inputs.map GeneratedInput.type ∧
      List.Forall₂ (EvaluatedFrom ts) (ts.types.filter SourceType.isDefined) defined :=
  exists_definedBy h fun _ _ _ => ends_assembled

end Assembly

/-- The types which the schema of a document defines are those which it declares, in the order in
    which their names first occur, without built-in scalars and names left to introspection. -/
theorem TypeSystem.names_filter_isDefined {sdl : String} {ts : TypeSystem} {ds : List Declaration}
    (hread : Declaration.readAll sdl = .ok ds) (hts : TypeSystem.load sdl = .ok ts) :
    (ts.types.filter SourceType.isDefined).map (·.name) =
      (((Declaration.typesIn ds).map (·.name)).filter fun name =>
        name ∉ builtInScalars).eraseDups.filter fun name => !isReserved name := by
  obtain ⟨declared, htypes, hnames, hnew⟩ := types_of_load hread hts
  have hbuiltIns : (builtInScalars.map SourceType.builtIn).filter SourceType.isDefined = [] := by
    decide
  have hdeclared : declared.filter SourceType.isDefined =
      declared.filter fun t => !isReserved t.name := by
    refine List.filter_congr fun t ht => ?_
    have hbuiltIn : t.isBuiltIn = false := by
      rw [Bool.eq_false_iff, Ne, isBuiltIn_iff_of_load hts (htypes ▸ List.mem_append_right _ ht)]
      exact hnew t ht
    rw [SourceType.isDefined, hbuiltIn, Bool.not_false, Bool.and_true]
  rw [htypes, List.filter_append, hbuiltIns, List.nil_append, hdeclared, ← hnames, List.filter_map]
  rfl

namespace Schema

open Assembly

/-- The evaluated types of a document are the interface of global ids, the types it declares, in
    their order, and those generated for the query fields. Objects have the declared fields, read
    from the document of the entity or from the parent, the `id` of a primary type and the fields of
    the query root, and the declared interfaces and the one of a primary type. -/
theorem assembled_of_typesOf {sdl : String} {ts : TypeSystem} {suffixes : Suffixes}
    {types : List SchemaType} (hts : TypeSystem.load sdl = .ok ts)
    (htypes : (typesOf ts suffixes).1 = .ok types) :
    ∃ (ds : List Declaration) (defined : List SchemaType) (inputs : List GeneratedInput),
      Declaration.readAll sdl = .ok ds ∧
      types = nodeType :: defined ++ inputs.map GeneratedInput.type ∧
      defined.map SchemaType.name =
        (((Declaration.typesIn ds).map (·.name)).filter fun name =>
          name ∉ builtInScalars).eraseDups.filter (fun name => !isReserved name) ∧
      List.Forall₂ (EvaluatedFrom ts) (ts.types.filter SourceType.isDefined) defined := by
  obtain ⟨ds, hread⟩ := TypeSystem.exists_readAll_of_load hts
  obtain ⟨defined, inputs, hall, hdefined⟩ := exists_evaluatedFrom htypes
  refine ⟨ds, defined, inputs, hread, hall, ?_, hdefined⟩
  rw [← TypeSystem.names_filter_isDefined hread hts]
  exact map_eq_of_forall₂ hdefined fun _ _ h => h.name

/-- A query root with a name of its own, a type whose key comes with an extension, and a type which
    is left to introspection. Of the two arguments of `f`, which have one name, the first one is
    lost. -/
theorem assembled_of_typesOf_extended :
    let sdl := "scalar Int schema \x7b query: Root \x7d enum __E \x7b A \x7d
      type V \x7b f(a: Int, a: String): Int \x7d type T implements I \x7b c: Int \x7d
      type Root \x7b v: V \x7d interface I \x7b c: Int \x7d extend type T @key(fields: \"c\")"
    ∃ ts types, TypeSystem.load sdl = .ok ts ∧ (typesOf ts .counting).1 = .ok types ∧
      types.map (fun t => (t.name, t.fields.map (·.name), t.interfaces)) =
        [("Node", ["id"], []), ("V", ["f"], []), ("T", ["c", "id"], ["I", "Node"]),
          ("Root", ["v", "id", "node", "tByC"], ["Node"]), ("I", ["c"], [])] ∧
      (types.flatMap fun t => (t.field? "f").toList.flatMap fun f =>
        f.arguments.map fun a => (a.name, a.type.text)) = [("a", "String")] ∧
      ∃ (ds : List Declaration) (defined : List SchemaType) (inputs : List GeneratedInput),
        Declaration.readAll sdl = .ok ds ∧
        types = nodeType :: defined ++ inputs.map GeneratedInput.type ∧
        List.Forall₂ (EvaluatedFrom ts) (ts.types.filter SourceType.isDefined) defined := by
  intro sdl
  have hfacts : ∃ ts ∈ (TypeSystem.load sdl).toOption, ∃ types ∈ (typesOf ts .counting).1.toOption,
      types.map (fun t => (t.name, t.fields.map (·.name), t.interfaces)) =
        [("Node", ["id"], []), ("V", ["f"], []), ("T", ["c", "id"], ["I", "Node"]),
          ("Root", ["v", "id", "node", "tByC"], ["Node"]), ("I", ["c"], [])] ∧
      (types.flatMap fun t => (t.field? "f").toList.flatMap fun f =>
        f.arguments.map fun a => (a.name, a.type.text)) = [("a", "String")] := by
    decide +kernel
  obtain ⟨ts, hts, types, htypes, hnames, harguments⟩ := hfacts
  rw [Option.mem_def, Outcome.toOption_eq_some] at hts htypes
  obtain ⟨ds, defined, inputs, hread, hall, -, hdefined⟩ := assembled_of_typesOf hts htypes
  exact ⟨ts, types, hts, htypes, hnames, harguments, ds, defined, inputs, hread, hall, hdefined⟩

end Schema

end EntityGraph
