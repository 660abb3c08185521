import Mathlib
import EntityGraph.Proofs.QueryByKey
import EntityGraph.Proofs.Schema.Declaring

/-!
# Defining types

Evaluating a definition either gives a type of the kind and the name of its source, or an error,
or it gives a type two things of one name. The last happens only if the source names something
twice (`SourceType.NamesOnce`), or if a key does so below its outermost layer; and every type
which comes out names its fields and its interfaces once (`Assembly.ends_define`).
-/

namespace EntityGraph

/-! ### Names -/

namespace SourceType

/-- The names of the fields of a type, also those of an input. -/
def fieldNames (t : SourceType) : List String :=
  match t.kind with
  | .object _ fields | .interface _ fields => fields.map (·.name)
  | .inputObject fields => fields.map (·.name)
  | _ => []

/-- The interfaces a type declares to implement. -/
def implemented (t : SourceType) : List String :=
  match t.kind with
  | .object interfaces _ | .interface interfaces _ => interfaces
  | _ => []

end SourceType

/-- The interfaces a type is given: those it declares, and the one of global ids with its `id`. -/
def TypeSystem.interfacesOf (ts : TypeSystem) (t : SourceType) : List String :=
  t.implemented ++ if ts.isPrimary t then [nodeInterface] else []

theorem TypeSystem.interfacesOf_of_not_isObject {ts : TypeSystem} {t : SourceType}
    (h : t.isObject = false) : ts.interfacesOf t = t.implemented := by
  rw [interfacesOf, isPrimary, h]
  exact List.append_nil _

/-- No key with a query field selects a field twice below its outermost layer. -/
def TypeSystem.KeysOnce (ts : TypeSystem) : Prop :=
  ∀ k ∈ ts.queryKeys, Selection.AllBelow SelectionTree.EachOnce k.2.selection

/-- A type names no field and no interface twice. -/
structure SourceType.NamesOnce (ts : TypeSystem) (t : SourceType) : Prop where
  fields : t.fieldNames.Nodup
  interfaces : (ts.interfacesOf t).Nodup

namespace SchemaType

/-- The names of the fields of a type, also those of an input. -/
def fieldNames (t : SchemaType) : List String :=
  match t with
  | .input t => t.fields.map (·.name)
  | t => t.fields.map (·.name)

/-- A type has no two fields and no two interfaces of one name. -/
structure NamesOnce (t : SchemaType) : Prop where
  fields : t.fieldNames.Nodup
  interfaces : t.interfaces.Nodup

theorem fieldNames_object (o : ObjectType) :
    (object o).fieldNames = o.fields.map ObjectField.name := by
  simp only [fieldNames, fields, List.map_map]
  rfl

end SchemaType

namespace Assembly

variable {ts : TypeSystem} {map : Assembly} {suffixes : Suffixes}

/-! ### Parts of types -/

theorem name_of_remapField {f : FieldDeclaration} {config : FieldConfig}
    (h : map.remapField f = .ok config) : config.name = f.name := by
  obtain ⟨kind, -, -, -, rfl⟩ := TypeMap.remapField_eq_ok h
  rfl

theorem name_of_remapInputValue {v v' : InputValue} (h : map.remapInputValue v = .ok v') :
    v'.name = v.name := by
  rw [(TypeMap.remapInputValue_eq_ok h).1]

theorem eq_of_interfaceOf {type interface found : String}
    (h : interfaceOf map type interface = .ok found) : found = interface := by
  rw [interfaceOf] at h
  split at h
  · exact (Except.ok.inj h).symm
  · cases h
  · cases h

/-- Fields of distinct names are let through. -/
theorem uniqueFields_eq_ok {type : String} {names : List String} :
    uniqueFields type names = .ok () ↔ names.Nodup := by
  rw [uniqueFields, ← firstRepeated?_eq_none]
  cases firstRepeated? names <;> simp

theorem uniqueInterfaces_eq_ok {type : String} {names : List String} :
    uniqueInterfaces type names = .ok () ↔ names.Nodup := by
  rw [uniqueInterfaces, ← firstRepeated?_eq_none]
  cases firstRepeated? names <;> simp

theorem isError_of_raise {α : Type} {e : Except BuildError α} {failure : BuildFailure}
    (h : raise e = .error failure) : failure.IsError := by
  cases e with
  | error fault => exact ⟨fault, (Except.error.inj h).symm⟩
  | ok a => cases h

section

variable {α β : Type} {name : β → String} {named : α → String} {twice : String → BuildFailure}
  {f : α → Except BuildError β}

/-- Maps one more item, refusing it if there is one of its name. -/
def addUnique (name : β → String) (twice : String → BuildFailure) (f : α → Except BuildError β)
    (acc : List β) (item : α) : Step (List β) := do
  let mapped ← raise (f item)
  if acc.any fun other => name other = name mapped then throw (twice (name mapped))
  return acc ++ [mapped]

theorem mapUnique_eq (items : List α) :
    mapUnique name twice f items = items.foldlM (addUnique name twice f) [] := rfl

theorem addUnique_eq_ok {acc acc' : List β} {item : α}
    (h : addUnique name twice f acc item = .ok acc') :
    ∃ mapped, f item = .ok mapped ∧ name mapped ∉ acc.map name ∧ acc' = acc ++ [mapped] := by
  obtain ⟨mapped, hmapped, h⟩ := Outcome.bind_eq_ok.1 h
  simp only at h
  split at h
  · obtain ⟨_, h, -⟩ := Outcome.bind_eq_ok.1 h
    cases h
  · next hnew =>
    refine ⟨mapped, Outcome.mapError_eq_ok.1 hmapped, ?_, (Except.ok.inj h).symm⟩
    simpa using hnew

theorem addUnique_eq_error {acc : List β} {item : α} {failure : BuildFailure}
    (h : addUnique name twice f acc item = .error failure) :
    failure.IsError ∨ ∃ mapped, f item = .ok mapped ∧ name mapped ∈ acc.map name := by
  rcases Outcome.bind_eq_error.1 h with h | ⟨mapped, hmapped, h⟩
  · exact .inl (isError_of_raise h)
  · simp only at h
    split at h
    · next hold =>
      exact .inr ⟨mapped, Outcome.mapError_eq_ok.1 hmapped, by simpa using hold⟩
    · cases h

/-- Every item is mapped, and no two results have one name unless two had so from the start. -/
theorem foldlM_addUnique_eq_ok {items : List α} {acc results : List β}
    (h : items.foldlM (addUnique name twice f) acc = .ok results) :
    (∃ mapped, results = acc ++ mapped ∧ List.Forall₂ (fun a b => f a = .ok b) items mapped) ∧
      ((acc.map name).Nodup → (results.map name).Nodup) := by
  induction items generalizing acc with
  | nil =>
    obtain rfl := Except.ok.inj h
    exact ⟨⟨[], (List.append_nil _).symm, .nil⟩, fun h => h⟩
  | cons item rest ih =>
    rw [List.foldlM_cons] at h
    obtain ⟨acc', hacc', h⟩ := Outcome.bind_eq_ok.1 h
    obtain ⟨mapped, hmapped, hnew, rfl⟩ := addUnique_eq_ok hacc'
    obtain ⟨⟨more, hresults, hmore⟩, hnodup⟩ := ih h
    refine ⟨⟨mapped :: more, by rw [hresults, ← List.append_cons], .cons hmapped hmore⟩,
      fun hacc => hnodup ?_⟩
    rw [List.map_append, List.map_singleton, ← List.concat_eq_append]
    exact hacc.concat hnew

/-- Items of distinct names are refused for an error only. -/
theorem foldlM_addUnique_eq_error (hname : ∀ ⦃a b⦄, f a = .ok b → name b = named a)
    {items : List α} {acc : List β} {failure : BuildFailure}
    (h : items.foldlM (addUnique name twice f) acc = .error failure)
    (hnodup : (acc.map name ++ items.map named).Nodup) : failure.IsError := by
  induction items generalizing acc with
  | nil => cases h
  | cons item rest ih =>
    rw [List.foldlM_cons] at h
    rcases Outcome.bind_eq_error.1 h with h | ⟨acc', hacc', h⟩
    · rcases addUnique_eq_error h with h | ⟨mapped, hmapped, hold⟩
      · exact h
      · rw [hname hmapped] at hold
        exact absurd List.mem_cons_self (List.disjoint_of_nodup_append hnodup hold)
    · obtain ⟨mapped, hmapped, hnew, rfl⟩ := addUnique_eq_ok hacc'
      refine ih h ?_
      rw [List.map_append, List.map_singleton, hname hmapped, List.append_assoc]
      exact hnodup

theorem forall₂_of_mapUnique {items : List α} {results : List β}
    (h : mapUnique name twice f items = .ok results) :
    List.Forall₂ (fun a b => f a = .ok b) items results := by
  rw [mapUnique_eq] at h
  obtain ⟨⟨mapped, rfl, hmapped⟩, -⟩ := foldlM_addUnique_eq_ok h
  exact hmapped

theorem mapUnique_eq_ok (hname : ∀ ⦃a b⦄, f a = .ok b → name b = named a) {items : List α}
    {results : List β} (h : mapUnique name twice f items = .ok results) :
    results.map name = items.map named ∧ (items.map named).Nodup := by
  have hnames : results.map name = items.map named :=
    map_eq_of_forall₂ (forall₂_of_mapUnique h) fun _ _ => @hname _ _
  rw [mapUnique_eq] at h
  exact ⟨hnames, hnames ▸ (foldlM_addUnique_eq_ok h).2 List.nodup_nil⟩

theorem mapUnique_eq_error (hname : ∀ ⦃a b⦄, f a = .ok b → name b = named a) {items : List α}
    {failure : BuildFailure} (h : mapUnique name twice f items = .error failure)
    (hnodup : (items.map named).Nodup) : failure.IsError := by
  rw [mapUnique_eq] at h
  exact foldlM_addUnique_eq_error hname h hnodup

end

/-! ### Types -/

open Generating

/-- A field is added unless there is one of its name. -/
theorem added_eq_ok {fields fields' : List ObjectField} (field : ObjectField) {e : BuildError}
    (h : (if ObjectField.declared fields field.name then .error e else .ok (fields ++ [field]) :
      Except BuildError (List ObjectField)) = .ok fields') :
    fields' = fields ++ [field] ∧ ¬ ObjectField.declared fields field.name = true := by
  split at h
  · cases h
  · next hnew => exact ⟨(Except.ok.inj h).symm, hnew⟩

theorem nodup_of_added {fields fields' : List ObjectField} (field : ObjectField) {e : BuildError}
    (h : (if ObjectField.declared fields field.name then .error e else .ok (fields ++ [field]) :
      Except BuildError (List ObjectField)) = .ok fields') :
    (fields'.map ObjectField.name).Nodup ↔ (fields.map ObjectField.name).Nodup := by
  obtain ⟨rfl, hnew⟩ := added_eq_ok field h
  exact ObjectField.nodup_concat hnew

theorem nodup_addIdField {fields fields' : List ObjectField} {type : String}
    {key : Option KeyProjection} (h : addIdField fields type key = .ok fields') :
    (fields'.map ObjectField.name).Nodup ↔ (fields.map ObjectField.name).Nodup :=
  nodup_of_added (idFieldOf key) h

theorem nodup_addNodeField {fields fields' : List ObjectField} {type : String}
    (h : addNodeField fields type = .ok fields') :
    (fields'.map ObjectField.name).Nodup ↔ (fields.map ObjectField.name).Nodup :=
  nodup_of_added nodeFieldOfRoot h

/-- The declared fields and interfaces of an object, with those of a primary type. -/
def ownParts (ts : TypeSystem) (map : Assembly) (t : SourceType) (firstKey : Option KeyProjection) :
    Except BuildError (List ObjectField × List String) := do
  let declared ← t.fields.mapM fun f => do
    return (⟨← map.remapField f, if ts.isPrimary t then .document else .parentValue⟩ : ObjectField)
  let implemented ← match t.kind with
    | .object interfaces _ => interfaces.mapM (interfaceOf map t.name)
    | _ => pure []
  if ts.isPrimary t then
    return (← addIdField declared t.name firstKey, implemented ++ [nodeInterface])
  else return (declared, implemented)

/-- The parts of an object with those of the query root. -/
def rootParts (ts : TypeSystem) (map : Assembly) (suffixes : Suffixes) (t : SourceType)
    (isRoot : Bool) (own : List ObjectField × List String) :
    Generating (List ObjectField × List String) := do
  let fields ←
    if isRoot then do
      let fields ← Generating.lift (addNodeField own.1 t.name)
      addKeyFields ts map suffixes fields
    else pure own.1
  return (fields, own.2)

theorem objectParts_eq (t : SourceType) (firstKey : Option KeyProjection) (isRoot : Bool) :
    objectParts ts map suffixes t firstKey isRoot =
      lift (ownParts ts map t firstKey) >>= rootParts ts map suffixes t isRoot := by
  rw [objectParts, ownParts, lift_bind, bind_assoc]
  refine congrArg _ (funext fun declared => ?_)
  -- What comes behind the interfaces.
  have hrest (interfaces : List String) :
      (if ts.isPrimary t then do
        let withId ← lift (addIdField declared t.name firstKey)
        rootParts ts map suffixes t isRoot (withId, interfaces ++ [nodeInterface])
      else rootParts ts map suffixes t isRoot (declared, interfaces)) =
      lift (if ts.isPrimary t then do
          return (← addIdField declared t.name firstKey, interfaces ++ [nodeInterface])
        else return (declared, interfaces)) >>= rootParts ts map suffixes t isRoot := by
    split
    · rw [lift_bind, bind_assoc]
      rfl
    · rfl
  cases hkind : t.kind with
  | object interfaces fields =>
    simp only
    rw [lift_bind, bind_assoc]
    refine congrArg _ (funext fun implemented => ?_)
    refine Eq.trans ?_ (hrest implemented)
    split
    · rfl
    · rfl
  | _ => exact hrest []

/-- The own fields of an object have distinct names if those of its source have; its interfaces are
    the ones its source has in the type system. -/
theorem ownParts_eq_ok {t : SourceType} {implements : List String}
    {declared : List FieldDeclaration} (hkind : t.kind = .object implements declared)
    {firstKey : Option KeyProjection} {own : List ObjectField × List String}
    (h : ownParts ts map t firstKey = .ok own) :
    ((own.1.map ObjectField.name).Nodup ↔ t.fieldNames.Nodup) ∧ own.2 = ts.interfacesOf t := by
  have hfieldNames : t.fieldNames = t.fields.map (·.name) := by
    rw [SourceType.fieldNames, SourceType.fields, hkind]
  have himplemented : t.implemented = implements := by
    rw [SourceType.implemented, hkind]
  rw [ownParts] at h
  simp only [hkind] at h
  -- Resolving leaves the names of the declared fields and interfaces as they are.
  obtain ⟨fields, hfields, hrest⟩ := Outcome.bind_eq_ok.1 h
  have hfields : fields.map ObjectField.name = t.fields.map (·.name) := by
    refine Outcome.map_eq_of_mapM_eq_ok _ _ (fun h => ?_) hfields
    obtain ⟨config, hconfig, h⟩ := Outcome.bind_eq_ok.1 h
    rw [← Except.ok.inj h]
    exact name_of_remapField hconfig
  obtain ⟨interfaces, hinterfaces, hparts⟩ := Outcome.bind_eq_ok.1 hrest
  obtain rfl : interfaces = implements := by
    simpa using Outcome.map_eq_of_mapM_eq_ok id id eq_of_interfaceOf hinterfaces
  rw [hfieldNames, ← hfields, TypeSystem.interfacesOf, himplemented]
  by_cases hprimary : ts.isPrimary t = true
  · rw [if_pos hprimary] at hparts ⊢
    obtain ⟨withId, hwithId, hparts⟩ := Outcome.bind_eq_ok.1 hparts
    obtain rfl := Except.ok.inj hparts
    exact ⟨nodup_addIdField hwithId, rfl⟩
  · rw [if_neg hprimary] at hparts ⊢
    obtain rfl := Except.ok.inj hparts
    exact ⟨Iff.rfl, (List.append_nil _).symm⟩

theorem ends_rootParts (t : SourceType) (isRoot : Bool) (own : List ObjectField × List String) :
    Ends (rootParts ts map suffixes t isRoot own)
      (fun parts => ((parts.1.map ObjectField.name).Nodup ↔
          (own.1.map ObjectField.name).Nodup) ∧ parts.2 = own.2 ∧
        (isRoot = true → ∀ k ∈ ts.queryKeys, k.2.Walkable ts k.1))
      (fun failure => ts.KeysOnce → failure.IsError) := by
  rw [rootParts]
  cases isRoot with
  | true =>
    refine (ends_lift (fun _ h => nodup_addNodeField h)
      fun _ _ _ => BuildFailure.isError_error _).bind fun withNode hnode => ?_
    refine (ends_addKeyFields withNode).bind fun all ⟨hall, hkeys⟩ => ?_
    exact ends_pure ⟨hall.trans hnode, rfl, fun _ => hkeys⟩
  | false =>
    exact ends_pure ⟨Iff.rfl, rfl, fun h => nomatch h⟩

theorem ends_objectParts {t : SourceType} {implements : List String}
    {declared : List FieldDeclaration} (hkind : t.kind = .object implements declared)
    (firstKey : Option KeyProjection) (isRoot : Bool) :
    Ends (objectParts ts map suffixes t firstKey isRoot)
      (fun parts => ((parts.1.map ObjectField.name).Nodup ↔ t.fieldNames.Nodup) ∧
        parts.2 = ts.interfacesOf t ∧
        (isRoot = true → ∀ k ∈ ts.queryKeys, k.2.Walkable ts k.1))
      (fun failure => ts.KeysOnce → failure.IsError) := by
  rw [objectParts_eq]
  refine (ends_lift (fun _ h => ownParts_eq_ok hkind h)
    fun _ _ _ => BuildFailure.isError_error _).bind fun own ⟨hfields, hinterfaces⟩ => ?_
  exact (ends_rootParts t isRoot own).imp_returns
    fun _ ⟨hnames, hown, hkeys⟩ => ⟨hnames.trans hfields, hown.trans hinterfaces, hkeys⟩

/-- What a type which was defined tells about its source. -/
structure DefinedFrom (ts : TypeSystem) (t : SourceType) (type : SchemaType) : Prop where
  name : type.name = t.name
  kind : type.kind = t.kind.tag
  source : t.NamesOnce ts
  namesOnce : type.NamesOnce
  /-- Defining the query root walks along all keys with a query field. -/
  keys : t.isObject = true → t.name = ts.queryType → ∀ k ∈ ts.queryKeys, k.2.Walkable ts k.1

theorem ends_defineObject {t : SourceType} {implements : List String}
    {declared : List FieldDeclaration} (hkind : t.kind = .object implements declared)
    (firstKey : Option KeyProjection) :
    Ends (defineObject ts map suffixes t firstKey (t.name = ts.queryType)) (DefinedFrom ts t)
      (fun failure => t.NamesOnce ts → ts.KeysOnce → failure.IsError) := by
  rw [defineObject]
  refine ((ends_objectParts hkind firstKey (t.name = ts.queryType)).imp_fails
    fun _ h _ hkeys => h hkeys).bind fun ⟨fields, interfaces⟩ ⟨hfields, hinterfaces, hkeys⟩ => ?_
  obtain rfl : interfaces = ts.interfacesOf t := hinterfaces
  refine (ends_log _ _ _).bind fun _ _ => ?_
  -- From here on a failure is one of the two checks, which are passed if the source names
  -- everything once.
  refine (ends_mk (P := fun _ => t.fieldNames.Nodup) (fun _ h => ?_) fun failure h hnames _ =>
    ?_).bind fun _ hfieldNames => ?_
  · exact hfields.1 (uniqueFields_eq_ok.1 h)
  · rw [uniqueFields_eq_ok.2 (hfields.2 hnames.fields)] at h
    cases h
  refine (ends_mk (P := fun _ => (ts.interfacesOf t).Nodup) (fun _ h =>
    uniqueInterfaces_eq_ok.1 h) fun failure h hnames _ => ?_).bind fun _ hinterfaces => ?_
  · rw [uniqueInterfaces_eq_ok.2 hnames.interfaces] at h
    cases h
  refine ends_pure ⟨rfl, ?_, ⟨hfieldNames, hinterfaces⟩, ⟨?_, hinterfaces⟩, fun _ hroot =>
    hkeys (decide_eq_true hroot)⟩
  · rw [hkind]
    rfl
  · rw [SchemaType.fieldNames_object, List.map_map]
    exact hfields.2 hfieldNames

/-- A type which is taken over has the fields and interfaces of its source. -/
theorem definedFrom_of_defineCopied {t : SourceType} {type : SchemaType}
    (hobject : t.isObject = false) (h : defineCopied map t = .ok type) :
    DefinedFrom ts t type := by
  have hsource (hfields : t.fieldNames.Nodup) (hinterfaces : t.implemented.Nodup) :
      t.NamesOnce ts := ⟨hfields, TypeSystem.interfacesOf_of_not_isObject hobject ▸ hinterfaces⟩
  have hkeys (hprimary : t.isObject = true) : ∀ P : Prop, P :=
    absurd (hobject.symm.trans hprimary) Bool.false_ne_true
  obtain ⟨name, description, kind, keys, isBuiltIn⟩ := t
  cases kind with
  | scalar =>
    obtain rfl := Except.ok.inj h
    exact ⟨rfl, rfl, hsource .nil .nil, ⟨.nil, .nil⟩, fun h => hkeys h _⟩
  | enum values =>
    obtain rfl := Except.ok.inj h
    exact ⟨rfl, rfl, hsource .nil .nil, ⟨.nil, .nil⟩, fun h => hkeys h _⟩
  | union members =>
    obtain ⟨members, -, h⟩ := Outcome.bind_eq_ok.1 h
    obtain rfl := Except.ok.inj h
    exact ⟨rfl, rfl, hsource .nil .nil, ⟨.nil, .nil⟩, fun h => hkeys h _⟩
  | object => cases hobject
  | inputObject fields =>
    obtain ⟨mapped, hmapped, h⟩ := Outcome.bind_eq_ok.1 h
    obtain rfl := Except.ok.inj h
    obtain ⟨hnames, hnodup⟩ := mapUnique_eq_ok
      (fun _ _ h => name_of_remapInputValue h) hmapped
    exact ⟨rfl, rfl, hsource hnodup .nil, ⟨(congrArg List.Nodup hnames).mpr hnodup, .nil⟩,
      fun h => hkeys h _⟩
  | interface interfaces fields =>
    obtain ⟨mapped, hmapped, h⟩ := Outcome.bind_eq_ok.1 h
    obtain ⟨found, hfound, h⟩ := Outcome.bind_eq_ok.1 h
    obtain rfl := Except.ok.inj h
    obtain ⟨hnames, hnodup⟩ := mapUnique_eq_ok
      (fun _ _ h => name_of_remapField h) hmapped
    obtain ⟨hfoundNames, hfoundNodup⟩ := mapUnique_eq_ok
      (fun _ _ h => eq_of_interfaceOf h) hfound
    obtain rfl : found = interfaces := by simpa using hfoundNames
    rw [List.map_id'] at hfoundNodup
    refine ⟨rfl, rfl, hsource hnodup hfoundNodup, ⟨?_, hfoundNodup⟩, fun h => hkeys h _⟩
    simp only [SchemaType.fieldNames, SchemaType.fields, List.map_map]
    exact (congrArg List.Nodup hnames).mpr hnodup

/-- A type which names everything once is taken over, or refused for an error. -/
theorem isError_of_defineCopied {t : SourceType} {failure : BuildFailure}
    (hnames : t.NamesOnce ts) (hobject : t.isObject = false)
    (h : defineCopied map t = .error failure) : failure.IsError := by
  have hinterfaces : t.implemented.Nodup :=
    TypeSystem.interfacesOf_of_not_isObject hobject ▸ hnames.interfaces
  have hfields := hnames.fields
  obtain ⟨name, description, kind, keys, isBuiltIn⟩ := t
  cases kind with
  | scalar => cases h
  | enum values => cases h
  | union members =>
    rcases Outcome.bind_eq_error.1 h with h | ⟨_, _, h⟩
    · exact isError_of_raise h
    · cases h
  | object => cases hobject
  | inputObject fields =>
    rcases Outcome.bind_eq_error.1 h with h | ⟨_, _, h⟩
    · refine mapUnique_eq_error (fun _ _ h => name_of_remapInputValue h) h ?_
      exact hfields
    · cases h
  | interface interfaces fields =>
    rcases Outcome.bind_eq_error.1 h with h | ⟨_, _, h⟩
    · refine mapUnique_eq_error (fun _ _ h => name_of_remapField h) h ?_
      exact hfields
    rcases Outcome.bind_eq_error.1 h with h | ⟨_, _, h⟩
    · refine mapUnique_eq_error (fun _ _ h => eq_of_interfaceOf h) h ?_
      rwa [List.map_id']
    · cases h

/-- Evaluating the definition of a type. -/
theorem ends_define {t : SourceType} {d : Definition} (hd : definitionOf ts t = .ok d) :
    Ends (define ts map suffixes d) (DefinedFrom ts t)
      (fun failure => t.NamesOnce ts → ts.KeysOnce → failure.IsError) := by
  obtain ⟨implements, declared, hkind, hd⟩ | ⟨hobject, rfl⟩ := definitionOf_eq_ok hd
  · obtain ⟨firstKey, rfl, -⟩ := objectDefinition_eq_ok hd
    exact ends_defineObject hkind firstKey
  · exact ends_mk (fun _ h => definedFrom_of_defineCopied hobject h)
      fun _ h hnames _ => isError_of_defineCopied hnames hobject h

end Assembly

end EntityGraph
