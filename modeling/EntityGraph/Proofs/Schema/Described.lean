import Mathlib
import EntityGraph.Proofs.Schema.Assembled
import EntityGraph.Proofs.Schema.References
import EntityGraph.Proofs.TypeSystem.Described

/-!
# Descriptions of evaluated types

Descriptions go with what they describe: a type which is evaluated retells the description and the
parts of its source (`SchemaType.Retells`), and what is generated has no description, so nothing is
described which was not described in the document. Two things do get lost. The values of an enum are
kept by their names alone, and of the arguments of one name in a field only the last one is kept.

* `SchemaType.DescribedBy`: what the declarations of a type say about its elements;
* `Schema.described_of_typesOf`: all evaluated types of a document are described by it.
-/

namespace EntityGraph

/-! ### Elements of evaluated types -/

namespace SchemaType

/-- The values of an enum. -/
def values : SchemaType → List String
  | .enum t => t.values
  | _ => []

/-- The type has the element, with this description or none. Values of enums never have one. -/
def Describes (t : SchemaType) (text : Option String) : TypeElement → Prop
  | .type => t.description = text
  | .field name => ∃ f ∈ t.fields, f.name = name ∧ f.description = text
  | .argument field name => ∃ f ∈ t.fields, f.name = field ∧
      ∃ a ∈ f.arguments, a.name = name ∧ a.description = text
  | .inputField name => ∃ f ∈ t.inputFields, f.name = name ∧ f.description = text
  | .enumValue name => name ∈ t.values ∧ text = none

end SchemaType

/-- What the declaration says about the element is kept: the element is no value of an enum with a
    description, and no argument of a field which names an argument twice. -/
def TypeDeclaration.Keeps (d : TypeDeclaration) (text : Option String) : TypeElement → Prop
  | .argument field _ => ∀ f ∈ d.body.parts.fields, f.name = field →
      (f.arguments.map (·.name)).Nodup
  | .enumValue _ => text = none
  | _ => True

/-- The elements of the type are described as the declarations say. -/
structure SchemaType.DescribedBy (t : SchemaType) (ds : List TypeDeclaration) : Prop where
  once : ∀ e text text', t.Describes text e → t.Describes text' e → text = text'
  kept : ∀ d ∈ ds, ∀ e text, d.Describes text e → d.Keeps text e → t.Describes text e
  /-- A value of an enum is there, but its description is not. -/
  values : ∀ d ∈ ds, ∀ v text, d.Describes text (.enumValue v) → t.Describes none (.enumValue v)
  written : ∀ e text, t.Describes (some text) e → ∃ d ∈ ds, d.Describes (some text) e

/-! ### Retelling -/

/-- The field and its arguments are described as they are declared. -/
structure FieldConfig.Retells (config : FieldConfig) (f : FieldDeclaration) : Prop where
  name : config.name = f.name
  description : config.description = f.description
  arguments : config.arguments = lastByName (·.name) f.arguments

/-- Neither the field nor one of its arguments has a description. -/
structure FieldConfig.IsSilent (config : FieldConfig) : Prop where
  description : config.description = none
  arguments : ∀ a ∈ config.arguments, a.description = none

/-- The type has the description and the parts, and nothing with a description behind them. -/
structure SchemaType.Retells (t : SchemaType) (description : Option String) (parts : TypeParts) :
    Prop where
  description : t.description = description
  fields : ∃ taken generated, t.fields = taken ++ generated ∧
    List.Forall₂ (fun f (config : FieldConfig) => config.Retells f) parts.fields taken ∧
    ∀ config ∈ generated, config.IsSilent
  inputFields : t.inputFields = parts.inputFields
  values : t.values = lastByName id parts.values

theorem SchemaType.NamesOnce.nodup {t : SchemaType} (h : t.NamesOnce) :
    (t.fields.map (·.name)).Nodup ∧ (t.inputFields.map (·.name)).Nodup := by
  have hfields := h.fields
  cases t with
  | input => exact ⟨.nil, hfields⟩
  | _ => exact ⟨hfields, .nil⟩

theorem mem_lastByName_id {names : List String} {n : String} (h : n ∈ names) :
    n ∈ lastByName id names := by
  have hlast : (names.filter fun other => other = n).getLast? ≠ none := by
    rw [Ne, List.getLast?_eq_none_iff, List.filter_eq_nil_iff]
    exact fun hnone => hnone n h (decide_eq_true rfl)
  obtain ⟨found, hfound⟩ := Option.ne_none_iff_exists'.1 hlast
  have hfind := (@find?_lastByName String id names n).trans hfound
  obtain rfl : found = n := by simpa using List.find?_some hfind
  exact List.mem_of_find?_eq_some hfind

namespace SchemaType.Retells

variable {t : SchemaType} {description : Option String} {ds : List TypeDeclaration}

/-- No element is there twice. -/
theorem once {parts : TypeParts} (h : t.Retells description parts) (honce : t.NamesOnce)
    (e : TypeElement) (text text' : Option String) (htext : t.Describes text e)
    (htext' : t.Describes text' e) : text = text' := by
  obtain ⟨hfields, hinputFields⟩ := honce.nodup
  cases e with
  | type => exact htext.symm.trans htext'
  | field =>
    obtain ⟨f, hf, rfl, rfl⟩ := htext
    obtain ⟨f', hf', hname, rfl⟩ := htext'
    rw [List.inj_on_of_nodup_map hfields hf' hf hname]
  | argument =>
    obtain ⟨f, hf, rfl, a, ha, rfl, rfl⟩ := htext
    obtain ⟨f', hf', hname, a', ha', hsame, rfl⟩ := htext'
    obtain rfl := List.inj_on_of_nodup_map hfields hf' hf hname
    -- Arguments of a declared field are kept by their names, those of a generated one are silent.
    obtain ⟨taken, generated, hall, htaken, hgenerated⟩ := h.fields
    rcases List.mem_append.1 (hall ▸ hf) with hf | hf
    · obtain ⟨source, -, hsource⟩ := exists_of_mem_forall₂ htaken.flip hf
      have hnodup : (f'.arguments.map (·.name)).Nodup := hsource.arguments ▸ nodup_lastByName _
      rw [List.inj_on_of_nodup_map hnodup ha' ha hsame]
    · have hsilent := (hgenerated _ hf).arguments
      rw [hsilent a ha, hsilent a' ha']
  | inputField =>
    obtain ⟨f, hf, rfl, rfl⟩ := htext
    obtain ⟨f', hf', hname, rfl⟩ := htext'
    rw [List.inj_on_of_nodup_map hinputFields hf' hf hname]
  | enumValue => exact htext.2.trans htext'.2.symm

/-- The field for a declared one. -/
theorem exists_of_mem_fields (h : t.Retells description (.ofDeclarations ds))
    {d : TypeDeclaration} (hd : d ∈ ds) {f : FieldDeclaration} (hf : f ∈ d.body.parts.fields) :
    ∃ config ∈ t.fields, config.Retells f := by
  obtain ⟨taken, generated, hall, htaken, -⟩ := h.fields
  obtain ⟨config, hconfig, hsource⟩ :=
    exists_of_mem_forall₂ htaken (List.mem_flatMap.2 ⟨d, hd, hf⟩)
  exact ⟨config, hall ▸ List.mem_append_left _ hconfig, hsource⟩

theorem mem_values (h : t.Retells description (.ofDeclarations ds)) {d : TypeDeclaration}
    (hd : d ∈ ds) {v : String} {text : Option String} (hv : d.Describes text (.enumValue v)) :
    v ∈ t.values := by
  obtain ⟨value, hvalue, rfl, -⟩ := hv
  have hvalues : d.body.parts.values = d.body.enumValues.map (·.name) := by
    cases d.body <;> rfl
  rw [h.values]
  exact mem_lastByName_id (List.mem_flatMap.2 ⟨d, hd, hvalues ▸ List.mem_map_of_mem hvalue⟩)

theorem kept (h : t.Retells description (.ofDeclarations ds))
    (hdescription : TypeSystem.DescribedAs description ds) {d : TypeDeclaration} (hd : d ∈ ds)
    (e : TypeElement) (text : Option String) (htext : d.Describes text e)
    (hkeeps : d.Keeps text e) : t.Describes text e := by
  cases e with
  | type =>
    obtain ⟨hdefinition, rfl⟩ := htext
    exact h.description.trans (hdescription.kept d hd hdefinition)
  | field =>
    obtain ⟨f, hf, rfl, rfl⟩ := htext
    obtain ⟨config, hconfig, hsource⟩ := h.exists_of_mem_fields hd hf
    exact ⟨config, hconfig, hsource.name, hsource.description⟩
  | argument =>
    obtain ⟨f, hf, rfl, a, ha, rfl, rfl⟩ := htext
    obtain ⟨config, hconfig, hsource⟩ := h.exists_of_mem_fields hd hf
    -- No argument is replaced by another one of its name.
    refine ⟨config, hconfig, hsource.name, a, ?_, rfl, rfl⟩
    rwa [hsource.arguments, lastByName_eq_self (hkeeps f hf rfl)]
  | inputField =>
    obtain ⟨f, hf, rfl, rfl⟩ := htext
    exact ⟨f, h.inputFields ▸ List.mem_flatMap.2 ⟨d, hd, hf⟩, rfl, rfl⟩
  | enumValue => exact ⟨h.mem_values hd htext, hkeeps⟩

/-- Whatever has a description was declared with it. -/
theorem written (h : t.Retells description (.ofDeclarations ds))
    (hdescription : TypeSystem.DescribedAs description ds) (e : TypeElement) (text : String)
    (htext : t.Describes (some text) e) : ∃ d ∈ ds, d.Describes (some text) e := by
  obtain ⟨taken, generated, hall, htaken, hgenerated⟩ := h.fields
  -- The field a taken one stems from.
  have hsource {config : FieldConfig} (hconfig : config ∈ taken) :
      ∃ d ∈ ds, ∃ f ∈ d.body.parts.fields, config.Retells f := by
    obtain ⟨f, hf, hsource⟩ := exists_of_mem_forall₂ htaken.flip hconfig
    obtain ⟨d, hd, hf⟩ := List.mem_flatMap.1 hf
    exact ⟨d, hd, f, hf, hsource⟩
  cases e with
  | type => exact hdescription.written text (h.description.symm.trans htext)
  | field =>
    obtain ⟨config, hconfig, rfl, htext⟩ := htext
    rcases List.mem_append.1 (hall ▸ hconfig) with hconfig | hconfig
    · obtain ⟨d, hd, f, hf, hsame⟩ := hsource hconfig
      exact ⟨d, hd, f, hf, hsame.name.symm, hsame.description.symm.trans htext⟩
    · rw [(hgenerated config hconfig).description] at htext
      cases htext
  | argument =>
    obtain ⟨config, hconfig, rfl, a, ha, rfl, htext⟩ := htext
    rcases List.mem_append.1 (hall ▸ hconfig) with hconfig | hconfig
    · obtain ⟨d, hd, f, hf, hsame⟩ := hsource hconfig
      rw [hsame.arguments] at ha
      exact ⟨d, hd, f, hf, hsame.name.symm, a, Schema.mem_of_mem_lastByName ha, rfl, htext⟩
    · rw [(hgenerated config hconfig).arguments a ha] at htext
      cases htext
  | inputField =>
    obtain ⟨f, hf, rfl, htext⟩ := htext
    rw [h.inputFields] at hf
    obtain ⟨d, hd, hf⟩ := List.mem_flatMap.1 hf
    exact ⟨d, hd, f, hf, rfl, htext⟩
  | enumValue => cases htext.2

theorem describedBy (h : t.Retells description (.ofDeclarations ds)) (honce : t.NamesOnce)
    (hdescription : TypeSystem.DescribedAs description ds) : t.DescribedBy ds where
  once := h.once honce
  kept _ hd := h.kept hdescription hd
  values _ hd _ _ hv := ⟨h.mem_values hd hv, rfl⟩
  written := h.written hdescription

end SchemaType.Retells

/-! ### Evaluating -/

theorem FieldDeclaration.TakenOver.retells {source : FieldSource} {f : FieldDeclaration}
    {field : ObjectField} (h : f.TakenOver source field) : field.config.Retells f :=
  ⟨h.name, h.description, h.argumentsByName⟩

namespace Assembly

open Generating

variable {ts : TypeSystem} {map : Assembly} {suffixes : Suffixes}

theorem isSilent_settled {field : ObjectField} (h : field.config.IsSilent) :
    (settled field).config.IsSilent :=
  ⟨h.description, fun a ha => h.arguments a (Schema.mem_of_mem_lastByName ha)⟩

theorem isSilent_idFieldOf (key : Option KeyProjection) : (idFieldOf key).config.IsSilent :=
  ⟨rfl, nofun⟩

theorem isSilent_nodeFieldOfRoot : nodeFieldOfRoot.config.IsSilent :=
  ⟨rfl, fun a ha => by rw [List.mem_singleton.1 ha]; rfl⟩

theorem retells_of_defineCopied {t : SourceType} {type : SchemaType}
    (h : defineCopied map t = .ok type) : type.Retells t.description t.kind.parts := by
  obtain ⟨name, description, kind, keys, isBuiltIn⟩ := t
  -- All of these types but interfaces have no fields.
  have hnone : ∃ taken generated, ([] : List FieldConfig) = taken ++ generated ∧
      List.Forall₂ (fun f (config : FieldConfig) => config.Retells f) [] taken ∧
      ∀ config ∈ generated, config.IsSilent :=
    ⟨[], [], rfl, .nil, fun _ h => absurd h List.not_mem_nil⟩
  cases kind with
  | scalar =>
    obtain rfl := Except.ok.inj h
    exact ⟨rfl, hnone, rfl, rfl⟩
  | enum values =>
    obtain rfl := Except.ok.inj h
    exact ⟨rfl, hnone, rfl, rfl⟩
  | object => cases h
  | union members =>
    obtain ⟨found, -, h⟩ := Outcome.bind_eq_ok.1 h
    obtain rfl := Except.ok.inj h
    exact ⟨rfl, hnone, rfl, rfl⟩
  | inputObject fields =>
    obtain ⟨mapped, hmapped, h⟩ := Outcome.bind_eq_ok.1 h
    obtain rfl := Except.ok.inj h
    have hsame : mapped.map id = fields.map id :=
      map_eq_of_forall₂ (forall₂_of_mapUnique hmapped) fun _ _ h =>
        (TypeMap.remapInputValue_eq_ok h).1
    rw [List.map_id, List.map_id] at hsame
    exact ⟨rfl, hnone, hsame, rfl⟩
  | interface interfaces fields =>
    obtain ⟨mapped, hmapped, h⟩ := Outcome.bind_eq_ok.1 h
    obtain ⟨found, -, h⟩ := Outcome.bind_eq_ok.1 h
    obtain rfl := Except.ok.inj h
    refine ⟨rfl, ⟨mapped.map settleArguments, [], (List.append_nil _).symm, ?_,
      fun _ h => absurd h List.not_mem_nil⟩, rfl, rfl⟩
    refine List.forall₂_map_right_iff.2 ((forall₂_of_mapUnique hmapped).imp fun f config h => ?_)
    exact (TypeMap.takenOver_of_remapField h .parentValue).retells

theorem ends_silentKeyFields (fields : List ObjectField) :
    Ends (addKeyFields ts map suffixes fields)
      (fun fields' => ∃ added, fields' = fields ++ added ∧ ∀ f ∈ added, f.config.IsSilent)
      (fun _ => True) := by
  refine ((ends_addKeyFields fields).and_follows (follows_addKeyFields fields)).imp ?_
    fun _ _ => trivial
  rintro fields' ⟨-, shapes, inputs, -, added, hadded, rfl⟩
  refine ⟨added, rfl, (hadded.forall_mem (List.Subset.refl inputs) (B := fun _ => True) ?_).1⟩
  rintro shape - field part ⟨arguments, harguments, rfl⟩ -
  exact ⟨⟨rfl, harguments.descriptions⟩, fun _ _ => trivial⟩

/-- An object has its declared fields, and silent ones behind them. -/
theorem ends_defineObject_retold {t : SourceType} {implements : List String}
    {declared : List FieldDeclaration} (hkind : t.kind = .object implements declared)
    (firstKey : Option KeyProjection) (isRoot : Bool) :
    Ends (defineObject ts map suffixes t firstKey isRoot)
      (fun type => type.Retells t.description t.kind.parts) (fun _ => True) := by
  rw [defineObject_eq]
  refine (ends_lift (P := fun own => ownParts ts map t firstKey = .ok own) (fun _ h => h)
    fun _ _ => trivial).bind fun own hown => ?_
  obtain ⟨taken, hown, htaken⟩ := fields_of_ownParts hkind hown
  refine (ends_rootParts_of ends_silentKeyFields t isRoot own).bind
    fun parts ⟨generated, hparts, hgenerated⟩ => ?_
  refine (ends_finishObject t parts).imp_returns fun type htype => ?_
  -- What was not declared: the `id`, `node` and the query fields of keys.
  have hsilent : ∀ field ∈ idFields ts t firstKey ++ generated, field.config.IsSilent := by
    refine List.forall_mem_append.2 ⟨fun field hfield => ?_, fun field hfield => ?_⟩
    · rw [idFields] at hfield
      split at hfield
      · exact List.mem_singleton.1 hfield ▸ isSilent_idFieldOf firstKey
      · cases hfield
    · split at hgenerated
      · obtain ⟨keyFields, rfl, hkeyFields⟩ := hgenerated
        rcases List.mem_cons.1 hfield with rfl | hfield
        · exact isSilent_nodeFieldOfRoot
        · exact hkeyFields field hfield
      · rw [hgenerated] at hfield
        cases hfield
  subst htype
  refine ⟨rfl, ⟨(taken.map settled).map (·.config),
    ((idFields ts t firstKey ++ generated).map settled).map (·.config), ?_, ?_, ?_⟩, ?_, ?_⟩
  · change (parts.1.map settled).map (·.config) = _
    rw [hparts, hown, List.append_assoc, List.map_append, List.map_append]
  · have hfields : t.kind.parts.fields = t.fields := by
      rw [SourceType.fields, hkind]
      rfl
    rw [hfields, List.map_map, List.forall₂_map_right_iff]
    exact htaken.imp fun _ _ h => h.retells
  · intro config hconfig
    obtain ⟨_, hsettled, rfl⟩ := List.mem_map.1 hconfig
    obtain ⟨field, hfield, rfl⟩ := List.mem_map.1 hsettled
    exact isSilent_settled (hsilent field hfield)
  · rw [hkind]
    rfl
  · rw [hkind]
    rfl

/-- What an evaluated type tells again, naming everything once. -/
structure RetoldFrom (t : SourceType) (type : SchemaType) : Prop where
  name : type.name = t.name
  namesOnce : type.NamesOnce
  retells : type.Retells t.description t.kind.parts

theorem ends_retold {t : SourceType} {d : Definition} (hd : definitionOf ts t = .ok d) :
    Ends (define ts map suffixes d) (RetoldFrom t) (fun _ => True) := by
  have hretells : Ends (define ts map suffixes d)
      (fun type => type.Retells t.description t.kind.parts) (fun _ => True) := by
    obtain ⟨implements, declared, hkind, hd⟩ | ⟨hobject, rfl⟩ := definitionOf_eq_ok hd
    · obtain ⟨firstKey, rfl, -⟩ := objectDefinition_eq_ok hd
      exact ends_defineObject_retold hkind firstKey _
    · exact ends_mk (fun _ htype => retells_of_defineCopied htype) fun _ _ => trivial
  refine (hretells.and (ends_define hd)).imp_returns fun type ⟨hretells, hdefined⟩ => ?_
  exact ⟨hdefined.name, hdefined.namesOnce, hretells⟩

end Assembly

namespace Schema

open Assembly

/-- Every type a document declares is evaluated, and its elements have the descriptions which the
    document gives them, apart from values of enums and from arguments which are replaced by others
    of their name. What has no description in the document has none. -/
theorem described_of_typesOf {sdl : String} {ts : TypeSystem} {suffixes : Suffixes}
    {types : List SchemaType} (hts : TypeSystem.load sdl = .ok ts)
    (htypes : (typesOf ts suffixes).1 = .ok types) :
    ∃ (ds : List Declaration) (defined : List SchemaType) (inputs : List GeneratedInput),
      Declaration.readAll sdl = .ok ds ∧
      types = nodeType :: defined ++ inputs.map GeneratedInput.type ∧
      (∀ d ∈ Declaration.typesIn ds, d.name ∉ builtInScalars → isReserved d.name = false →
        ∃ t ∈ defined, t.name = d.name) ∧
      ∀ t ∈ defined, t.DescribedBy (Declaration.declarationsOf t.name ds) := by
  obtain ⟨ds, hread⟩ := TypeSystem.exists_readAll_of_load hts
  obtain ⟨defined, inputs, hall, hdefined⟩ := exists_definedBy htypes fun _ _ _ => ends_retold
  refine ⟨ds, defined, inputs, hread, hall, fun d hd hbuiltIn hreserved => ?_, fun t ht => ?_⟩
  · have hnames : defined.map SchemaType.name =
        (ts.types.filter SourceType.isDefined).map (·.name) :=
      map_eq_of_forall₂ hdefined fun _ _ h => h.name
    have hmem : d.name ∈ defined.map SchemaType.name := by
      rw [hnames, TypeSystem.names_filter_isDefined hread hts]
      simp [hreserved, hbuiltIn, List.mem_map_of_mem hd]
    exact List.mem_map.1 hmem
  · obtain ⟨source, hsource, hretold⟩ := exists_of_mem_forall₂ hdefined.flip ht
    obtain ⟨hsource, hisDefined⟩ := List.mem_filter.1 hsource
    have hbuiltIn : source.name ∉ builtInScalars := by
      rw [SourceType.isDefined, Bool.and_eq_true] at hisDefined
      rw [← TypeSystem.isBuiltIn_iff_of_load hts hsource]
      simpa using hisDefined.2
    have hcollects := TypeSystem.collects_of_load hread hts hsource hbuiltIn
    rw [hretold.name]
    exact (hcollects.parts ▸ hretold.retells).describedBy hretold.namesOnce
      (TypeSystem.described_of_load hread hts hsource hbuiltIn)

/-- Descriptions in all places, one of them in an extension. The one of the value `A` is lost. -/
theorem described_of_typesOf_everywhere :
    let sdl := "\"root\" type Query \x7b \"is e\" e: E f(\"is a\" a: Int, b: P): I \x7d
      \"values\" enum E \x7b \"first\" A B \x7d interface I \x7b \"is c\" c: Int \x7d
      input P \x7b \"is x\" x: Int \x7d extend type Query \x7b \"is g\" g: Int \x7d"
    ∃ ts types ds, TypeSystem.load sdl = .ok ts ∧ (typesOf ts .counting).1 = .ok types ∧
      Declaration.readAll sdl = .ok ds ∧
      types.map (fun t => (t.name, t.description)) = [("Node", none), ("Query", some "root"),
        ("E", some "values"), ("I", none), ("P", none)] ∧
      (types.flatMap fun t => t.fields.map fun f => (f.name, f.description)) =
        [("id", none), ("e", some "is e"), ("f", none), ("g", some "is g"), ("id", none),
          ("node", none), ("c", some "is c")] ∧
      (types.flatMap fun t => (t.fields.flatMap (·.arguments) ++ t.inputFields).map fun v =>
        (v.name, v.description)) =
        [("a", some "is a"), ("b", none), ("id", none), ("x", some "is x")] ∧
      ((Declaration.typesIn ds).flatMap fun d => d.body.enumValues.map fun v =>
        (v.name, v.description)) = [("A", some "first"), ("B", none)] ∧
      types.flatMap SchemaType.values = ["A", "B"] ∧
      ∃ (defined : List SchemaType) (inputs : List GeneratedInput),
        types = nodeType :: defined ++ inputs.map GeneratedInput.type ∧
        ∀ t ∈ defined, t.DescribedBy (Declaration.declarationsOf t.name ds) := by
  intro sdl
  have hread : ∃ ds ∈ (Declaration.readAll sdl).toOption,
      ((Declaration.typesIn ds).flatMap fun d => d.body.enumValues.map fun v =>
        (v.name, v.description)) = [("A", some "first"), ("B", none)] := by
    decide +kernel
  have hfacts : ∃ ts ∈ (TypeSystem.load sdl).toOption, ∃ types ∈ (typesOf ts .counting).1.toOption,
      types.map (fun t => (t.name, t.description)) = [("Node", none), ("Query", some "root"),
        ("E", some "values"), ("I", none), ("P", none)] ∧
      (types.flatMap fun t => t.fields.map fun f => (f.name, f.description)) =
        [("id", none), ("e", some "is e"), ("f", none), ("g", some "is g"), ("id", none),
          ("node", none), ("c", some "is c")] ∧
      (types.flatMap fun t => (t.fields.flatMap (·.arguments) ++ t.inputFields).map fun v =>
        (v.name, v.description)) =
        [("a", some "is a"), ("b", none), ("id", none), ("x", some "is x")] ∧
      types.flatMap SchemaType.values = ["A", "B"] := by
    decide +kernel
  obtain ⟨ds, hds, hdeclared⟩ := hread
  obtain ⟨ts, hts, types, htypes, hnames, hfields, harguments, hvalues⟩ := hfacts
  rw [Option.mem_def, Outcome.toOption_eq_some] at hds hts htypes
  obtain ⟨_, defined, inputs, hread, hall, -, hdefined⟩ := described_of_typesOf hts htypes
  obtain rfl := Except.ok.inj (hread.symm.trans hds)
  exact ⟨ts, types, _, hts, htypes, hds, hnames, hfields, harguments, hdeclared, hvalues, defined,
    inputs, hall, hdefined⟩

end Schema

end EntityGraph
