import Mathlib
import EntityGraph.Proofs.Schema.Keys
import EntityGraph.Proofs.Schema.Rearranged
import EntityGraph.Proofs.TypeSystem.Loaded

/-!
# References between types

An evaluated type names other types: its fields return them and take them as arguments, it
implements them or has them as members. Most names come out of the type map, which knows only what
was declared; the `id`, `node` and the query fields of keys are written down with names of their
own, and the arguments of query fields name types which were not there before. Still every name is
the one of a type which is provided, and of a kind which fits its place (`SchemaType.Closed`).

* `TypeSystem.Provides`: there is a type of a name and a kind;
* `Schema.closed_of_typesOf`: evaluated types name nothing else.
-/

namespace EntityGraph

namespace SchemaType

/-- The fields of an input. -/
def inputFields : SchemaType → List InputValue
  | .input t => t.fields
  | _ => []

/-- The members of a union. -/
def members : SchemaType → List String
  | .union t => t.members
  | _ => []

end SchemaType

/-- There is a type of this name and kind, the types generated for `inputs` included. -/
inductive TypeSystem.Provides (ts : TypeSystem) (inputs : List GeneratedInput) :
    String → Kind → Prop
  | builtIn {name : String} (h : name ∈ builtInScalars) : ts.Provides inputs name .scalar
  | node : ts.Provides inputs nodeInterface .interface
  | declared {t : SourceType} (ht : t ∈ ts.types) (hdefined : t.isDefined = true) :
      ts.Provides inputs t.name t.kind.tag
  | generated {input : GeneratedInput} (h : input ∈ inputs) :
      ts.Provides inputs input.name .inputObject

/-- Values of the type may be passed in. -/
def TypeSystem.Accepts (ts : TypeSystem) (inputs : List GeneratedInput) (type : TypeRef) : Prop :=
  ∃ kind, ts.Provides inputs type.core kind ∧ kind.isInput = true

theorem TypeSystem.accepts_iff {ts : TypeSystem} {inputs : List GeneratedInput} {type : TypeRef} :
    ts.Accepts inputs type ↔ ts.Provides inputs type.core .scalar ∨
      ts.Provides inputs type.core .enum ∨ ts.Provides inputs type.core .inputObject := by
  simp only [Accepts, Kind.isInput_iff, and_or_left, exists_or, exists_eq_right]

/-- What the field names is there and fits: it returns what may be returned, and its arguments are
    what may be passed in. -/
structure FieldConfig.Closed (ts : TypeSystem) (inputs : List GeneratedInput) (f : FieldConfig) :
    Prop where
  type : ts.Provides inputs f.type.core f.kind
  isOutput : f.kind.isOutput = true
  arguments : ∀ a ∈ f.arguments, ts.Accepts inputs a.type

theorem FieldConfig.closed_iff {ts : TypeSystem} {inputs : List GeneratedInput}
    {f : FieldConfig} :
    f.Closed ts inputs ↔ ts.Provides inputs f.type.core f.kind ∧
      (f.kind = .scalar ∨ f.kind = .object ∨ f.kind = .interface ∨ f.kind = .union ∨
        f.kind = .enum) ∧
      ∀ a ∈ f.arguments, ts.Provides inputs a.type.core .scalar ∨
        ts.Provides inputs a.type.core .enum ∨ ts.Provides inputs a.type.core .inputObject := by
  simp only [← Kind.isOutput_iff, ← TypeSystem.accepts_iff]
  exact ⟨fun h => ⟨h.type, h.isOutput, h.arguments⟩,
    fun ⟨htype, houtput, harguments⟩ => ⟨htype, houtput, harguments⟩⟩

/-- What the type names is there and fits. -/
structure SchemaType.Closed (ts : TypeSystem) (inputs : List GeneratedInput) (t : SchemaType) :
    Prop where
  fields : ∀ f ∈ t.fields, f.Closed ts inputs
  inputFields : ∀ f ∈ t.inputFields, ts.Accepts inputs f.type
  interfaces : ∀ i ∈ t.interfaces, ts.Provides inputs i .interface
  members : ∀ m ∈ t.members, ts.Provides inputs m .object

/-- What the generated type names is there and may be passed in. -/
def GeneratedInput.Closed (ts : TypeSystem) (inputs : List GeneratedInput)
    (input : GeneratedInput) : Prop :=
  ∀ f ∈ input.fields, ts.Accepts inputs f.type

/-- Whatever the type map knows is there. -/
def TypeMap.Known {δ : Type} (map : TypeMap δ) (ts : TypeSystem) (inputs : List GeneratedInput) :
    Prop :=
  ∀ name kind, map.kind? name = some kind → ts.Provides inputs name kind

variable {ts : TypeSystem} {inputs : List GeneratedInput}

/-- What holds of every part holds of all that is collected. -/
theorem Collected.forall_mem {α β : Type} {P : β → α → List GeneratedInput → Prop} {A : α → Prop}
    {B : GeneratedInput → Prop} {bs : List β} {as : List α} {generated : List GeneratedInput}
    (h : Collected P bs as generated) (hsub : generated ⊆ inputs)
    (hpart : ∀ b ∈ bs, ∀ a part, P b a part → part ⊆ inputs → A a ∧ ∀ input ∈ part, B input) :
    (∀ a ∈ as, A a) ∧ ∀ input ∈ generated, B input := by
  induction h with
  | nil => exact ⟨nofun, nofun⟩
  | cons ha _ ih =>
    obtain ⟨hfirst, hrest⟩ := List.append_subset.1 hsub
    obtain ⟨hA, hB⟩ := hpart _ List.mem_cons_self _ _ ha hfirst
    obtain ⟨hAs, hBs⟩ := ih hrest fun b hb => hpart b (List.mem_cons_of_mem _ hb)
    exact ⟨List.forall_mem_cons.2 ⟨hA, hAs⟩, List.forall_mem_append.2 ⟨hB, hBs⟩⟩

/-! ### References which are looked up -/

namespace TypeMap

variable {δ : Type} {map : TypeMap δ}

theorem Known.accepts (hknown : map.Known ts inputs) {v v' : InputValue}
    (h : map.remapInputValue v = .ok v') : ts.Accepts inputs v'.type := by
  obtain ⟨rfl, kind, hkind, hinput⟩ := remapInputValue_eq_ok h
  exact ⟨kind, hknown _ _ hkind, hinput⟩

theorem Known.closed (hknown : map.Known ts inputs) {f : FieldDeclaration} {config : FieldConfig}
    (h : map.remapField f = .ok config) : config.Closed ts inputs := by
  obtain ⟨kind, hkind, houtput, harguments, rfl⟩ := remapField_eq_ok h
  exact ⟨hknown _ _ hkind, houtput, fun a ha => hknown.accepts (harguments a ha)⟩

end TypeMap

namespace Assembly

variable {map : Assembly}

theorem provides_of_interfaceOf (hknown : map.Known ts inputs) {type interface found : String}
    (h : interfaceOf map type interface = .ok found) : ts.Provides inputs found .interface := by
  rw [interfaceOf] at h
  split at h
  · next hkind =>
    obtain rfl := Except.ok.inj h
    exact hknown _ _ hkind
  · cases h
  · cases h

theorem provides_of_memberOf (hknown : map.Known ts inputs) {union member found : String}
    (h : memberOf map union member = .ok found) : ts.Provides inputs found .object := by
  rw [memberOf] at h
  split at h
  · next hkind =>
    obtain rfl := Except.ok.inj h
    exact hknown _ _ hkind
  · cases h

/-- Every result is the one of an item. -/
theorem exists_of_mem_mapUnique {α β : Type} {name : β → String} {twice : String → BuildFailure}
    {f : α → Except BuildError β} {items : List α} {results : List β}
    (h : mapUnique name twice f items = .ok results) {b : β} (hb : b ∈ results) :
    ∃ a ∈ items, f a = .ok b :=
  exists_of_mem_forall₂ (forall₂_of_mapUnique h).flip hb

/-- A field with some of its arguments left out names no more than before. -/
theorem closed_settleArguments {f : FieldConfig} (h : f.Closed ts inputs) :
    (settleArguments f).Closed ts inputs :=
  ⟨h.type, h.isOutput, fun a ha => h.arguments a (Schema.mem_of_mem_lastByName ha)⟩

/-! ### Types which are taken over -/

theorem closed_of_defineCopied (hknown : map.Known ts inputs) {t : SourceType} {type : SchemaType}
    (h : defineCopied map t = .ok type) : type.Closed ts inputs := by
  obtain ⟨name, description, kind, keys, isBuiltIn⟩ := t
  cases kind with
  | scalar =>
    obtain rfl := Except.ok.inj h
    exact ⟨nofun, nofun, nofun, nofun⟩
  | enum values =>
    obtain rfl := Except.ok.inj h
    exact ⟨nofun, nofun, nofun, nofun⟩
  | object => cases h
  | union members =>
    obtain ⟨found, hfound, h⟩ := Outcome.bind_eq_ok.1 h
    obtain rfl := Except.ok.inj h
    refine ⟨nofun, nofun, nofun, fun m hm => ?_⟩
    obtain ⟨declared, -, hdeclared⟩ := Outcome.exists_of_mem_mapM (Outcome.mapError_eq_ok.1 hfound)
      (Schema.mem_of_mem_lastByName hm)
    exact provides_of_memberOf hknown hdeclared
  | inputObject fields =>
    obtain ⟨mapped, hmapped, h⟩ := Outcome.bind_eq_ok.1 h
    obtain rfl := Except.ok.inj h
    refine ⟨nofun, fun f hf => ?_, nofun, nofun⟩
    obtain ⟨declared, -, hdeclared⟩ := exists_of_mem_mapUnique hmapped hf
    exact hknown.accepts hdeclared
  | interface interfaces fields =>
    obtain ⟨mapped, hmapped, h⟩ := Outcome.bind_eq_ok.1 h
    obtain ⟨found, hfound, h⟩ := Outcome.bind_eq_ok.1 h
    obtain rfl := Except.ok.inj h
    refine ⟨fun f hf => ?_, nofun, fun i hi => ?_, nofun⟩
    · obtain ⟨config, hconfig, rfl⟩ := List.mem_map.1 hf
      obtain ⟨declared, -, hdeclared⟩ := exists_of_mem_mapUnique hmapped hconfig
      exact closed_settleArguments (hknown.closed hdeclared)
    · obtain ⟨declared, -, hdeclared⟩ := exists_of_mem_mapUnique hfound hi
      exact provides_of_interfaceOf hknown hdeclared

/-! ### Objects -/

theorem closed_idFieldOf (key : Option KeyProjection) : (idFieldOf key).config.Closed ts inputs :=
  ⟨.builtIn (show "ID" ∈ builtInScalars by decide), rfl, nofun⟩

theorem closed_nodeFieldOfRoot : nodeFieldOfRoot.config.Closed ts inputs := by
  refine ⟨.node, rfl, fun a ha => ?_⟩
  obtain rfl := List.mem_singleton.1 ha
  exact ⟨.scalar, .builtIn (by decide), rfl⟩

theorem closed_of_added {fields fields' : List ObjectField} {field : ObjectField} {e : BuildError}
    (hfield : field.config.Closed ts inputs)
    (h : (if ObjectField.declared fields field.name then .error e else .ok (fields ++ [field]) :
      Except BuildError (List ObjectField)) = .ok fields')
    (hfields : ∀ f ∈ fields, f.config.Closed ts inputs) :
    ∀ f ∈ fields', f.config.Closed ts inputs := by
  obtain ⟨rfl, -⟩ := added_eq_ok field h
  exact List.forall_mem_append.2 ⟨hfields, fun f hf => List.mem_singleton.1 hf ▸ hfield⟩

theorem closed_nodeType : nodeType.Closed ts inputs where
  fields f hf := by
    obtain rfl := List.mem_singleton.1 hf
    exact closed_idFieldOf none
  inputFields _ hf := nomatch hf
  interfaces _ hi := nomatch hi
  members _ hm := nomatch hm

/-- The declared fields and interfaces of an object name what is there, and so do its `id` and the
    interface of global ids. -/
theorem closed_of_ownParts (hknown : map.Known ts inputs) {t : SourceType}
    {firstKey : Option KeyProjection} {own : List ObjectField × List String}
    (h : ownParts ts map t firstKey = .ok own) :
    (∀ f ∈ own.1, f.config.Closed ts inputs) ∧
      ∀ i ∈ own.2, ts.Provides inputs i .interface := by
  rw [ownParts] at h
  obtain ⟨declared, hdeclared, h⟩ := Outcome.bind_eq_ok.1 h
  have hfields : ∀ f ∈ declared, f.config.Closed ts inputs := by
    intro f hf
    obtain ⟨source, -, hsource⟩ := Outcome.exists_of_mem_mapM hdeclared hf
    obtain ⟨config, hconfig, hsource⟩ := Outcome.bind_eq_ok.1 hsource
    rw [← Except.ok.inj hsource]
    exact hknown.closed hconfig
  obtain ⟨implemented, hinterfaces, h⟩ : ∃ implemented : List String,
      (∀ i ∈ implemented, ts.Provides inputs i .interface) ∧
      (if ts.isPrimary t = true then do
        return (← addIdField declared t.name firstKey, implemented ++ [nodeInterface])
      else return (declared, implemented)) = Except.ok own := by
    cases hkind : t.kind with
    | object interfaces _ =>
      simp only [hkind] at h
      obtain ⟨implemented, himplemented, h⟩ := Outcome.bind_eq_ok.1 h
      refine ⟨implemented, fun i hi => ?_, h⟩
      obtain ⟨interface, -, hinterface⟩ := Outcome.exists_of_mem_mapM himplemented hi
      exact provides_of_interfaceOf hknown hinterface
    | _ =>
      simp only [hkind] at h
      obtain ⟨implemented, hnone, h⟩ := Outcome.bind_eq_ok.1 h
      obtain rfl := Except.ok.inj hnone
      exact ⟨[], fun _ hi => absurd hi List.not_mem_nil, h⟩
  split at h
  · -- A primary type: its `id` and its interface come last.
    obtain ⟨withId, hwithId, h⟩ := Outcome.bind_eq_ok.1 h
    obtain rfl := Except.ok.inj h
    refine ⟨closed_of_added (closed_idFieldOf firstKey) hwithId hfields, ?_⟩
    exact List.forall_mem_append.2 ⟨hinterfaces, fun i hi => List.mem_singleton.1 hi ▸ .node⟩
  · obtain rfl := Except.ok.inj h
    exact ⟨hfields, hinterfaces⟩

theorem closed_object {name : String} {description : Option String} {fields : List ObjectField}
    {interfaces : List String} (hfields : ∀ f ∈ fields, f.config.Closed ts inputs)
    (hinterfaces : ∀ i ∈ interfaces, ts.Provides inputs i .interface) :
    (SchemaType.object ⟨name, description, fields, interfaces⟩).Closed ts inputs where
  fields f hf := by
    obtain ⟨field, hfield, rfl⟩ := List.mem_map.1 hf
    exact hfields field hfield
  inputFields _ hf := nomatch hf
  interfaces := hinterfaces
  members _ hm := nomatch hm

theorem closed_settled {fields : List ObjectField}
    (h : ∀ f ∈ fields, f.config.Closed ts inputs) :
    ∀ f ∈ fields.map settled, f.config.Closed ts inputs := by
  intro f hf
  obtain ⟨field, hfield, rfl⟩ := List.mem_map.1 hf
  exact closed_settleArguments (h field hfield)

/-! ### Query fields -/

section

open ArgumentShape

variable {δ : Type} {map : TypeMap δ} {generated : List GeneratedInput}

mutual

theorem accepts_of_shapeOf (hknown : map.Known ts inputs) : ∀ (s : Selection) {t : SourceType}
    {path : String} {shape : ArgumentShape} {argument : InputValue}
    {generated : List GeneratedInput}, shapeOf ts.get? map.kind? t path s = some shape →
    shape.Describes argument generated → generated ⊆ inputs →
    ts.Accepts inputs argument.type ∧ ∀ input ∈ generated, input.Closed ts inputs
  | .mk name children, t, path, shape, argument, generated, hshape, h, hsub => by
    rw [shapeOf] at hshape
    split at hshape
    · cases hshape
    split at hshape
    · -- A leaf has the type of its field, which is one that can be passed in.
      split at hshape
      · next hinput =>
        obtain rfl := Option.some.inj hshape
        rw [Describes] at h
        obtain ⟨rfl, rfl⟩ := h
        obtain ⟨kind, hkind, hinput⟩ := (Option.any_eq_true _ _).1 hinput
        exact ⟨⟨kind, hknown _ _ hkind, hinput⟩, nofun⟩
      · cases hshape
    · next c cs =>
      split at hshape
      · cases hshape
      · obtain ⟨fields, hfields, hshape⟩ := Option.bind_eq_some_iff.1 hshape
        split at hshape
        · obtain rfl := Option.some.inj hshape
          rw [Describes] at h
          obtain ⟨suffix, values, below, hvalues, rfl, rfl⟩ := h
          obtain ⟨hbelow, hown⟩ := List.append_subset.1 hsub
          obtain ⟨hfields, hclosed⟩ := accepts_of_shapesOf hknown (c :: cs) hfields hvalues hbelow
          -- The argument has the type which is generated last, with the arguments below as fields.
          refine ⟨⟨.inputObject, .generated (hown List.mem_cons_self), rfl⟩, ?_⟩
          exact List.forall_mem_append.2
            ⟨hclosed, fun input hinput => List.mem_singleton.1 hinput ▸ hfields⟩
        · cases hshape

/-- Arguments for selected fields have types which can be passed in, and so have the fields of the
    types which are generated for them. -/
theorem accepts_of_shapesOf (hknown : map.Known ts inputs) : ∀ (tree : List Selection)
    {t : SourceType} {path : String} {shapes : List ArgumentShape} {arguments : List InputValue}
    {generated : List GeneratedInput}, shapesOf ts.get? map.kind? t path tree = some shapes →
    AllDescribe shapes arguments generated → generated ⊆ inputs →
    (∀ a ∈ arguments, ts.Accepts inputs a.type) ∧ ∀ input ∈ generated, input.Closed ts inputs
  | [], t, path, shapes, arguments, generated, hshapes, h, _ => by
    obtain rfl := Option.some.inj hshapes
    rw [AllDescribe] at h
    obtain ⟨rfl, rfl⟩ := h
    exact ⟨nofun, nofun⟩
  | s :: rest, t, path, shapes, arguments, generated, hshapes, h, hsub => by
    rw [shapesOf] at hshapes
    obtain ⟨shape, hshape, hshapes⟩ := Option.bind_eq_some_iff.1 hshapes
    obtain ⟨others, hothers, hshapes⟩ := Option.bind_eq_some_iff.1 hshapes
    obtain rfl := Option.some.inj hshapes
    rw [AllDescribe] at h
    obtain ⟨first, arguments, below, more, hfirst, hrest, rfl, rfl⟩ := h
    obtain ⟨hbelow, hmore⟩ := List.append_subset.1 hsub
    obtain ⟨hargument, hclosed⟩ := accepts_of_shapeOf hknown s hshape hfirst hbelow
    obtain ⟨harguments, hallClosed⟩ := accepts_of_shapesOf hknown rest hothers hrest hmore
    exact ⟨List.forall_mem_cons.2 ⟨hargument, harguments⟩,
      List.forall_mem_append.2 ⟨hclosed, hallClosed⟩⟩

end

/-- The query field for a key names the type of the key and what its arguments name. -/
theorem closed_of_keyFieldShape (hknown : map.Known ts inputs) {k : String × KeyDeclaration}
    (hk : ts.Provides inputs k.1 .object) {shape : KeyFieldShape} {field : ObjectField}
    (hshape : keyFieldShape ts.get? map.kind? k = some shape) (h : shape.Describes field generated)
    (hsub : generated ⊆ inputs) :
    field.config.Closed ts inputs ∧ ∀ input ∈ generated, input.Closed ts inputs := by
  obtain ⟨shapes, hshapes, hshape⟩ := Option.bind_eq_some_iff.1 hshape
  obtain ⟨t, -, hshapes⟩ := Option.bind_eq_some_iff.1 hshapes
  obtain rfl := Option.some.inj hshape
  obtain ⟨arguments, harguments, rfl⟩ := h
  obtain ⟨haccepts, hclosed⟩ := accepts_of_shapesOf hknown _ hshapes harguments hsub
  exact ⟨⟨hk, rfl, haccepts⟩, hclosed⟩

/-- The query fields for keys name what is there, in whatever order they come. -/
theorem closed_of_keyFieldShapes (hknown : map.Known ts inputs)
    {keys : List (String × KeyDeclaration)} (hkeys : ∀ k ∈ keys, ts.Provides inputs k.1 .object)
    {taken : List String} {shapes shapes' : List KeyFieldShape} {added : List ObjectField}
    (hshapes : keyFieldShapes ts.get? map.kind? taken keys = some shapes)
    (hperm : shapes'.Perm shapes) (h : Collected KeyFieldShape.Describes shapes' added generated)
    (hsub : generated ⊆ inputs) :
    (∀ f ∈ added, f.config.Closed ts inputs) ∧ ∀ input ∈ generated, input.Closed ts inputs := by
  rw [keyFieldShapes] at hshapes
  split at hshapes
  · refine h.forall_mem hsub fun shape hshape field part hfield hpart => ?_
    obtain ⟨k, hk, hkey⟩ :=
      exists_of_mem_forall₂ (mapM_eq_some_iff.1 hshapes).flip (hperm.mem_iff.1 hshape)
    exact closed_of_keyFieldShape hknown (hkeys k hk) hkey hfield hpart
  · cases hshapes

end

/-! ### All types -/

/-- A defined object names what is there, whatever was generated for it. -/
theorem closed_of_objectOutline (hknown : map.Known ts inputs)
    (hkeys : ∀ k ∈ ts.queryKeys, ts.Provides inputs k.1 .object) {t : SourceType}
    {firstKey : Option KeyProjection} {isRoot : Bool} {o : TypeOutline} {type : SchemaType}
    {generated : List GeneratedInput} (ho : objectOutline ts map t firstKey isRoot = some o)
    (h : o.Describes type generated) (hsub : generated ⊆ inputs) :
    type.Closed ts inputs ∧ ∀ input ∈ generated, input.Closed ts inputs := by
  obtain ⟨own, hown, ho⟩ := Option.bind_eq_some_iff.1 ho
  obtain ⟨hfields, hinterfaces⟩ := closed_of_ownParts hknown (Outcome.toOption_eq_some.1 hown)
  split at ho
  · -- The query root: behind its own fields come `node` and those of the keys.
    obtain ⟨fields, hnode, ho⟩ := Option.bind_eq_some_iff.1 ho
    obtain ⟨keyFields, hkeyFields, ho⟩ := Option.bind_eq_some_iff.1 ho
    obtain ⟨shapes, hshapes, rfl⟩ := Option.map_eq_some_iff.1 hkeyFields
    split at ho
    · obtain rfl := Option.some.inj ho
      obtain ⟨shapes', added, hsame, hadded, rfl⟩ := h
      have hfields := closed_of_added closed_nodeFieldOfRoot (Outcome.toOption_eq_some.1 hnode) hfields
      obtain ⟨hadded, hclosed⟩ := closed_of_keyFieldShapes hknown hkeys hshapes
        (Multiset.coe_eq_coe.1 hsame) hadded hsub
      refine ⟨closed_object ?_ hinterfaces, hclosed⟩
      exact List.forall_mem_append.2 ⟨closed_settled hfields, closed_settled hadded⟩
    · cases ho
  · split at ho
    · obtain rfl := Option.some.inj ho
      obtain ⟨rfl, rfl⟩ := h
      exact ⟨closed_object (closed_settled hfields) hinterfaces, nofun⟩
    · cases ho

theorem closed_of_outline (hknown : map.Known ts inputs)
    (hkeys : ∀ k ∈ ts.queryKeys, ts.Provides inputs k.1 .object) {d : Definition} {o : TypeOutline}
    {type : SchemaType} {generated : List GeneratedInput} (ho : outline ts map d = some o)
    (h : o.Describes type generated) (hsub : generated ⊆ inputs) :
    type.Closed ts inputs ∧ ∀ input ∈ generated, input.Closed ts inputs := by
  cases d with
  | node =>
    obtain rfl := Option.some.inj ho
    obtain ⟨rfl, rfl⟩ := h
    exact ⟨closed_nodeType, nofun⟩
  | object t firstKey isRoot => exact closed_of_objectOutline hknown hkeys ho h hsub
  | copied t =>
    obtain ⟨_, hcopied, rfl⟩ := Option.map_eq_some_iff.1 ho
    obtain ⟨rfl, rfl⟩ := h
    exact ⟨closed_of_defineCopied hknown (Outcome.toOption_eq_some.1 hcopied), nofun⟩

theorem type_injective : Function.Injective GeneratedInput.type := by
  rintro ⟨name, fields⟩ ⟨name', fields'⟩ h
  cases h
  rfl

/-- There is one way to tell the generated types among those which were evaluated. -/
theorem Evaluated.eq_of_append {types defined defined' : List SchemaType}
    {inputs' : List GeneratedInput} (h : Evaluated ts types defined inputs)
    (hmap : (ofTypeSystem ts).1 = .ok map) (hlength : defined'.length = (definitions map).length)
    (htypes : types = defined' ++ inputs'.map GeneratedInput.type) :
    defined' = nodeType :: defined ∧ inputs' = inputs := by
  obtain ⟨ds, hds, hdefinitions⟩ := definitions_ofTypeSystem hmap
  have hsame : defined'.length = (nodeType :: defined).length := by
    rw [hlength, hdefinitions, List.length_cons, List.length_cons, ← hds.length_eq,
      h.defined.length_eq]
  obtain ⟨rfl, hinputs⟩ := List.append_inj (htypes.symm.trans h.types) hsame
  exact ⟨rfl, List.map_injective_iff.2 type_injective hinputs⟩

/-- What was evaluated is what was outlined. -/
theorem Evaluated.collected {types defined : List SchemaType} (h : Evaluated ts types defined inputs)
    (hmap : (ofTypeSystem ts).1 = .ok map) {outlines : Multiset TypeOutline}
    (houtlines : outlinesOf ts = some outlines) (houtlined : Outlined outlines types) :
    ∃ os, (∀ o ∈ os, ∃ d, outline ts map.begun d = some o) ∧
      Collected TypeOutline.Describes os (nodeType :: defined) inputs := by
  obtain ⟨map', hmap', houtlines⟩ := Option.bind_eq_some_iff.1 houtlines
  obtain rfl := Except.ok.inj (hmap.symm.trans (Outcome.toOption_eq_some.1 hmap'))
  obtain ⟨os', hos', rfl⟩ := Option.map_eq_some_iff.1 houtlines
  obtain ⟨os, defined', inputs', hsame, hcollected, htypes⟩ := houtlined
  have hos := mapM_eq_some_iff.1 hos'
  have hperm : os.Perm os' := Multiset.coe_eq_coe.1 hsame
  have hlength : defined'.length = os.length := by
    simpa using congrArg List.length (hcollected.map_eq (fun _ => ()) (fun _ => ())
      fun _ _ _ _ => rfl)
  obtain ⟨rfl, rfl⟩ := h.eq_of_append hmap
    (hlength.trans (hperm.length_eq.trans hos.length_eq.symm)) htypes
  refine ⟨os, fun o ho => ?_, hcollected⟩
  obtain ⟨d, -, hd⟩ := exists_of_mem_forall₂ hos.flip (hperm.mem_iff.1 ho)
  exact ⟨d, hd⟩

end Assembly

namespace Schema

open Assembly

variable {sdl : String}

/-- The type map of a document knows nothing but the types which are there. -/
theorem known_of_load (hts : TypeSystem.load sdl = .ok ts) {map : Assembly}
    (hmap : (ofTypeSystem ts).1 = .ok map) : map.begun.Known ts inputs := by
  intro name kind h
  rw [kind?_ofTypeSystem hmap] at h
  by_cases hnode : nodeInterface = name
  · rw [if_pos hnode, Option.some_or] at h
    rw [← Option.some.inj h, ← hnode]
    exact .node
  rw [if_neg hnode, Option.none_or] at h
  split at h
  · cases h
  · next hreserved =>
    obtain ⟨t, hget, rfl⟩ := Option.map_eq_some_iff.1 h
    have ht : t ∈ ts.types := List.mem_of_find?_eq_some hget
    obtain rfl := TypeSystem.name_of_get? hget
    cases hbuiltIn : t.isBuiltIn with
    | true =>
      rw [TypeSystem.scalar_of_load hts ht hbuiltIn]
      exact .builtIn ((TypeSystem.isBuiltIn_iff_of_load hts ht).1 hbuiltIn)
    | false =>
      refine .declared ht ?_
      rw [SourceType.isDefined, hbuiltIn]
      simpa using hreserved

/-- A key with a query field is the one of an object. -/
theorem provides_of_mem_queryKeys (hts : TypeSystem.load sdl = .ok ts)
    (hnames : ∀ t ∈ ts.types, isReserved t.name = false) {k : String × KeyDeclaration}
    (hk : k ∈ ts.queryKeys) : ts.Provides inputs k.1 .object := by
  obtain ⟨t, ht, hname, hprimary, -⟩ := TypeSystem.exists_of_mem_queryKeys hk
  have hobject := TypeSystem.isObject_of_isPrimary hprimary
  rw [← hname, ← SourceType.isObject_iff.1 hobject]
  refine .declared ht ?_
  rw [SourceType.isDefined, hnames t ht,
    TypeSystem.isBuiltIn_of_isObject (TypeSystem.scalar_of_load hts ht) hobject]
  rfl

/-- Nothing an evaluated type names is missing or out of place, if no type has a name which is left
    to introspection. The evaluated types are the interface of global ids, the types of the document,
    each of the name and the kind it was declared with, and those generated for the query fields. -/
theorem closed_of_typesOf {suffixes : Suffixes} {types : List SchemaType}
    (hts : TypeSystem.load sdl = .ok ts) (hnames : ∀ t ∈ ts.types, isReserved t.name = false)
    (htypes : (typesOf ts suffixes).1 = .ok types) :
    ∃ defined inputs, Evaluated ts types defined inputs ∧ ∀ t ∈ types, t.Closed ts inputs := by
  obtain ⟨map, defined, inputs, hmap, hevaluated⟩ := typesOf_eq_ok htypes
  obtain ⟨outlines, houtlines, houtlined⟩ := outlined_of_typesOf htypes
  obtain ⟨os, hos, hcollected⟩ := hevaluated.collected hmap houtlines houtlined
  have hknown : map.begun.Known ts inputs := known_of_load hts hmap
  obtain ⟨hdefined, hgenerated⟩ := hcollected.forall_mem (List.Subset.refl inputs)
    (A := fun t => t.Closed ts inputs) (B := fun input => input.Closed ts inputs)
    fun o ho type part htype hpart => by
      obtain ⟨d, hd⟩ := hos o ho
      exact closed_of_outline hknown (fun k hk => provides_of_mem_queryKeys hts hnames hk) hd htype
        hpart
  refine ⟨defined, inputs, hevaluated, fun t ht => ?_⟩
  rw [hevaluated.types] at ht
  rcases List.mem_append.1 ht with ht | ht
  · exact hdefined t ht
  · obtain ⟨input, hinput, rfl⟩ := List.mem_map.1 ht
    exact ⟨nofun, hgenerated input hinput, nofun, nofun⟩

/-- Types of all kinds, one of them with a key below whose outermost layer there is another type. -/
theorem closed_of_typesOf_nested :
    let sdl := "type Query \x7b t(f: F): [T!] u: U \x7d input F \x7b e: E f: F \x7d enum E \x7b A \x7d
      interface I \x7b c: Int \x7d union U = T | B type B \x7b c: Int \x7d
      type T implements I @key(fields: \"b \x7b c \x7d\") \x7b c: Int b: B! \x7d"
    ∃ ts types, TypeSystem.load sdl = .ok ts ∧ (∀ t ∈ ts.types, isReserved t.name = false) ∧
      (typesOf ts .counting).1 = .ok types ∧
      types.map SchemaType.name = ["Node", "Query", "F", "E", "I", "U", "B", "T", "TBInput0"] ∧
      ∃ defined inputs, Evaluated ts types defined inputs ∧ ∀ t ∈ types, t.Closed ts inputs := by
  intro sdl
  have hfacts : ∃ ts ∈ (TypeSystem.load sdl).toOption, (∀ t ∈ ts.types, isReserved t.name = false) ∧
      ∃ types ∈ (typesOf ts .counting).1.toOption, types.map SchemaType.name =
        ["Node", "Query", "F", "E", "I", "U", "B", "T", "TBInput0"] := by
    decide +kernel
  obtain ⟨ts, hts, hnames, types, htypes, htypeNames⟩ := hfacts
  rw [Option.mem_def, Outcome.toOption_eq_some] at hts htypes
  exact ⟨ts, types, hts, hnames, htypes, htypeNames, closed_of_typesOf hts hnames htypes⟩

end Schema

end EntityGraph
