import Mathlib
import EntityGraph.Proofs.Schema.Outline
import EntityGraph.Proofs.TypeSystem.Rearranged

/-!
# Rearranged schemas

Types are defined once all of them are declared, so a definition may refer to types which are
declared behind it. Whatever it asks of the type map is answered by the kinds of the declared types,
and these do not depend on the order of declaration (`TypeSystem.Rearranged.kind?`). So rearranged
type systems have the same outlines (`TypeSystem.Rearranged.outlinesOf`), and what differs between
the evaluated types of two rearranged documents is what outlines leave open: the order of the types,
the order of the query fields, and the suffixes of the types generated for them
(`Schema.typesOf_of_rearranged`).
-/

namespace EntityGraph

/-! ### Type maps which know the same kinds -/

namespace TypeMap

variable {δ : Type} {map map' : TypeMap δ}

theorem kind?_concat (map : TypeMap δ) (slot : TypeSlot δ) (name : String) :
    kind? (map ++ [slot]) name =
      (map.kind? name).or (if slot.name = name then some slot.kind else none) := by
  rw [kind?, kind?, List.find?_append]
  by_cases h : slot.name = name <;> cases map.find? _ <;> simp [h]

theorem kind?_begun (name : String) : map.begun.kind? name = map.kind? name := by
  rw [kind?, kind?, begun, List.find?_map, Option.map_map]
  rfl

theorem remapType_congr (h : map.kind? = map'.kind?) : map.remapType = map'.remapType := by
  funext type
  rw [remapType_eq, remapType_eq, contains, contains, h]

theorem coreKind_congr (h : map.kind? = map'.kind?) : map.coreKind = map'.coreKind := by
  funext type
  rw [coreKind, coreKind, h]

theorem remapInputValue_congr (h : map.kind? = map'.kind?) :
    map.remapInputValue = map'.remapInputValue := by
  funext value
  rw [remapInputValue, remapInputValue, remapType_congr h, coreKind_congr h]

theorem remapField_congr (h : map.kind? = map'.kind?) : map.remapField = map'.remapField := by
  funext field
  rw [remapField, remapField, remapType_congr h, coreKind_congr h, remapInputValue_congr h]

end TypeMap

namespace Assembly

variable {ts ts' : TypeSystem} {map map' : Assembly}

theorem interfaceOf_congr (h : map.kind? = map'.kind?) : interfaceOf map = interfaceOf map' := by
  funext type interface
  rw [interfaceOf, interfaceOf, h]

theorem memberOf_congr (h : map.kind? = map'.kind?) : memberOf map = memberOf map' := by
  funext union member
  rw [memberOf, memberOf, h]

theorem defineCopied_congr (h : map.kind? = map'.kind?) :
    defineCopied map = defineCopied map' := by
  funext t
  rw [defineCopied, defineCopied, TypeMap.remapInputValue_congr h, TypeMap.remapField_congr h,
    interfaceOf_congr h, memberOf_congr h]

/-! ### Declaring -/

/-- The type can be declared. -/
def Declarable (ts : TypeSystem) (t : SourceType) : Prop :=
  isReserved t.name = true ∨ t.name ≠ nodeInterface ∧
    (t.isBuiltIn = true ∨ ∃ d, definitionOf ts t = .ok d)

theorem exists_declareType_iff {t : SourceType} :
    (∃ declared, declareType ts map t = .ok declared) ↔ Declarable ts t := by
  rw [declareType_eq, Declarable]
  by_cases hreserved : isReserved t.name = true
  · simp [hreserved]
  · by_cases hnode : t.name = nodeInterface
    · rw [hnode] at hreserved
      simp [hreserved, hnode]
    · by_cases hbuiltIn : t.isBuiltIn = true
      · simp [hreserved, hnode, hbuiltIn]
      · cases definitionOf ts t <;> simp [hreserved, hnode, hbuiltIn, Except.map]

/-- Types can be declared together if each of them can be. -/
theorem exists_declareAll_iff {types : List SourceType} :
    (∃ map', (declareAll ts map types).1 = .ok map') ↔ ∀ t ∈ types, Declarable ts t := by
  induction types generalizing map with
  | nil => exact iff_of_true ⟨map, rfl⟩ fun _ h => absurd h List.not_mem_nil
  | cons t rest ih =>
    have hfirst : (∃ declared, declareType ts map t = .ok declared) ↔ Declarable ts t :=
      exists_declareType_iff
    rw [List.forall_mem_cons, ← hfirst]
    cases hdeclare : declareType ts map t with
    | error e =>
      rw [declareAll, hdeclare]
      refine iff_of_false ?_ ?_
      · rintro ⟨_, h⟩
        cases h
      · rintro ⟨⟨_, h⟩, -⟩
        cases h
    | ok declared =>
      obtain ⟨next, records⟩ := declared
      rw [declareAll_cons hdeclare, ih]
      exact ⟨fun h => ⟨⟨_, rfl⟩, h⟩, And.right⟩

/-- Declaring a type makes its kind known, unless it is left to introspection. -/
theorem kind?_declareType {t : SourceType} {records : List LogRecord}
    (h : declareType ts map t = .ok (map', records)) (name : String) :
    map'.kind? name = (map.kind? name).or
      (if t.name = name ∧ isReserved name = false then some t.kind.tag else none) := by
  rw [declareType_eq] at h
  split at h
  · next hreserved =>
    cases h
    rw [if_neg ?_, Option.or_none]
    rintro ⟨rfl, hnot⟩
    rw [hreserved] at hnot
    cases hnot
  · next hreserved =>
    -- The type is declared, with a definition or without.
    have hslot (slot : TypeSlot Definition) (hname : slot.name = t.name)
        (hkind : slot.kind = t.kind.tag) : TypeMap.kind? (map ++ [slot]) name =
          (map.kind? name).or
            (if t.name = name ∧ isReserved name = false then some t.kind.tag else none) := by
      rw [TypeMap.kind?_concat, hname, hkind]
      by_cases heq : t.name = name
      · subst heq
        simp [hreserved]
      · simp [heq]
    split at h
    · cases h
    · split at h
      · cases h
        exact hslot _ rfl rfl
      · obtain ⟨d, -, h⟩ := Outcome.map_eq_ok.1 h
        cases h
        exact hslot _ rfl rfl

theorem kind?_declareAll {types : List SourceType} (h : (declareAll ts map types).1 = .ok map')
    (name : String) :
    map'.kind? name = (map.kind? name).or (if isReserved name then none
      else (types.find? fun t => t.name = name).map (·.kind.tag)) := by
  induction types generalizing map with
  | nil =>
    obtain rfl := Except.ok.inj h
    simp
  | cons t rest ih =>
    cases hdeclare : declareType ts map t with
    | error e =>
      rw [declareAll, hdeclare] at h
      cases h
    | ok declared =>
      obtain ⟨next, records⟩ := declared
      rw [declareAll_cons hdeclare] at h
      -- Behind what was known, the first type of the name is this one or one of the others.
      rw [ih h, kind?_declareType hdeclare, Option.or_assoc]
      congr 1
      by_cases heq : t.name = name <;> by_cases hreserved : isReserved name = true <;>
        simp [heq, hreserved]

/-- The kinds a type map of a type system knows. -/
theorem kind?_ofTypeSystem (h : (ofTypeSystem ts).1 = .ok map) (name : String) :
    map.begun.kind? name = (if nodeInterface = name then some .interface else none).or
      (if isReserved name then none else (ts.get? name).map (·.kind.tag)) := by
  rw [TypeMap.kind?_begun]
  refine (kind?_declareAll h name).trans (congrArg (Option.or · _) ?_)
  exact TypeMap.kind?_concat [] ⟨nodeInterface, .interface, some Definition.node⟩ name

end Assembly

namespace TypeSystem.Rearranged

open Assembly

variable {ts ts' : TypeSystem} {map map' : Assembly}

theorem definitionOf (h : ts.Rearranged ts') : definitionOf ts = Assembly.definitionOf ts' := by
  funext t
  simp only [Assembly.definitionOf, objectDefinition, h.keysOf?, h.ofSelection, h.queryType]

theorem declarable (h : ts.Rearranged ts') : Declarable ts = Declarable ts' := by
  funext t
  rw [Declarable, Declarable, h.definitionOf]

/-- The types of one type system can be declared if those of the other can be. -/
theorem exists_ofTypeSystem_iff (h : ts.Rearranged ts') :
    (∃ map, (ofTypeSystem ts).1 = .ok map) ↔ ∃ map', (ofTypeSystem ts').1 = .ok map' := by
  rw [ofTypeSystem, ofTypeSystem, exists_declareAll_iff, exists_declareAll_iff, h.declarable]
  exact forall_congr' fun t => by rw [h.types.mem_iff]

theorem kind? (h : ts.Rearranged ts') (hmap : (ofTypeSystem ts).1 = .ok map)
    (hmap' : (ofTypeSystem ts').1 = .ok map') : map.begun.kind? = map'.begun.kind? := by
  funext name
  rw [kind?_ofTypeSystem hmap, kind?_ofTypeSystem hmap', h.get?]

/-- The definitions are the same, in the order of their types. -/
theorem definitions (h : ts.Rearranged ts') (hmap : (ofTypeSystem ts).1 = .ok map)
    (hmap' : (ofTypeSystem ts').1 = .ok map') : (definitions map).Perm (definitions map') := by
  have hdefined {ts : TypeSystem} {ds : List Definition}
      (hds : List.Forall₂ (fun t d => Assembly.definitionOf ts t = .ok d)
        (ts.types.filter SourceType.isDefined) ds) :
      (ts.types.filter SourceType.isDefined).mapM
        (fun t => (Assembly.definitionOf ts t).toOption) = some ds := by
    simpa only [mapM_eq_some_iff, Outcome.toOption_eq_some] using hds
  obtain ⟨ds, hds, hall⟩ := definitions_ofTypeSystem hmap
  obtain ⟨ds', hds', hall'⟩ := definitions_ofTypeSystem hmap'
  have hperm := ofList_mapM_perm (f := fun t => (Assembly.definitionOf ts' t).toOption)
    (h.types.filter SourceType.isDefined)
  have hds := hdefined hds
  rw [h.definitionOf] at hds
  rw [hds, hdefined hds'] at hperm
  rw [hall, hall']
  exact (Multiset.coe_eq_coe.1 (Option.some.inj hperm)).cons _

theorem ownParts (h : ts.Rearranged ts') (hkinds : map.kind? = map'.kind?) :
    ownParts ts map = Assembly.ownParts ts' map' := by
  funext t firstKey
  simp only [Assembly.ownParts, h.isPrimary, TypeMap.remapField_congr hkinds,
    interfaceOf_congr hkinds]

/-- A definition has the same outline, the order of the query fields apart. -/
theorem outline (h : ts.Rearranged ts') (hkinds : map.kind? = map'.kind?) :
    outline ts map = Assembly.outline ts' map' := by
  funext d
  cases d with
  | node => rfl
  | object t firstKey isRoot =>
    simp only [Assembly.outline, objectOutline, h.ownParts hkinds, h.get?, hkinds,
      keyFieldShapes_perm _ _ _ h.queryKeys]
  | copied t => rw [Assembly.outline, Assembly.outline, defineCopied_congr hkinds]

/-- Rearranged type systems have the same outlines. -/
theorem outlinesOf (h : ts.Rearranged ts') : outlinesOf ts = Assembly.outlinesOf ts' := by
  have hiff := h.exists_ofTypeSystem_iff
  rw [Assembly.outlinesOf, Assembly.outlinesOf]
  cases hmap : (ofTypeSystem ts).1 with
  | error e =>
    cases hmap' : (ofTypeSystem ts').1 with
    | error e' => rfl
    | ok map' =>
      obtain ⟨map, hmap''⟩ := hiff.2 ⟨map', hmap'⟩
      cases hmap.symm.trans hmap''
  | ok map =>
    obtain ⟨map', hmap'⟩ := hiff.1 ⟨map, hmap⟩
    rw [hmap']
    change ((Assembly.definitions map).mapM (Assembly.outline ts map.begun)).map Multiset.ofList =
      ((Assembly.definitions map').mapM (Assembly.outline ts' map'.begun)).map Multiset.ofList
    rw [h.outline (h.kind? hmap hmap')]
    exact ofList_mapM_perm (h.definitions hmap hmap')

end TypeSystem.Rearranged

/-! ### Types of the same outlines -/

/-- Both objects are the query root, with the same fields in front of the query fields, and with
    query fields of the same shapes in any order, for which these input types are generated. -/
structure ObjectType.Rearranged (root root' : ObjectType) (inputs inputs' : List GeneratedInput) :
    Prop where
  name : root.name = root'.name
  description : root.description = root'.description
  fields : ∃ fields added added' shapes shapes', shapes.Perm shapes' ∧
    Collected KeyFieldShape.Describes shapes added inputs ∧
    Collected KeyFieldShape.Describes shapes' added' inputs' ∧
    root.fields = fields ++ added.map Assembly.settled ∧
    root'.fields = fields ++ added'.map Assembly.settled
  interfaces : root.interfaces = root'.interfaces

/-- Both lists hold the same types in any order, but for the query root and the input types which
    are generated for it. A root which is left to introspection is in neither. -/
inductive SchemaType.Rearranged (queryType : String) (types types' : List SchemaType) : Prop
  | withoutRoot (same : types.Perm types')
  | withRoot {root root' : ObjectType} {inputs inputs' : List GeneratedInput}
      (others : List SchemaType) (name : root.name = queryType)
      (roots : root.Rearranged root' inputs inputs')
      (left : types.Perm (.object root :: others ++ inputs.map Assembly.GeneratedInput.type))
      (right : types'.Perm (.object root' :: others ++ inputs'.map Assembly.GeneratedInput.type))

namespace TypeOutline

/-- The type, if it is told by its outline. -/
def plain? : TypeOutline → Option SchemaType
  | .plain t => some t
  | .root _ => none

def root? : TypeOutline → Option RootOutline
  | .plain _ => none
  | .root r => some r

variable {os : List TypeOutline} {defined : List SchemaType} {inputs : List GeneratedInput}

/-- Without a root the types are those which are told. -/
theorem eq_of_collected (h : Collected Describes os defined inputs)
    (hroot : os.filterMap root? = []) : defined = os.filterMap plain? ∧ inputs = [] := by
  induction h with
  | nil => exact ⟨rfl, rfl⟩
  | @cons outline _ _ _ _ _ houtline _ ih =>
    cases outline with
    | plain t =>
      obtain ⟨rfl, rfl⟩ := houtline
      obtain ⟨rfl, rfl⟩ := ih hroot
      exact ⟨rfl, rfl⟩
    | root r => cases hroot

/-- With a single root the types are this one and those which are told, and all input types are
    generated for the root. -/
theorem perm_of_collected (h : Collected Describes os defined inputs) {r : RootOutline}
    (hroot : os.filterMap root? = [r]) :
    ∃ type, (root r).Describes type inputs ∧ defined.Perm (type :: os.filterMap plain?) := by
  induction h with
  | nil => cases hroot
  | @cons outline _ type _ _ _ houtline hrest ih =>
    cases outline with
    | plain t =>
      obtain ⟨rfl, rfl⟩ := houtline
      obtain ⟨found, hfound, hperm⟩ := ih hroot
      exact ⟨found, hfound, (hperm.cons type).trans (.swap ..)⟩
    | root other =>
      obtain ⟨rfl, hnone⟩ := List.cons.inj hroot
      obtain ⟨rfl, rfl⟩ := eq_of_collected hrest hnone
      rw [List.append_nil]
      exact ⟨type, houtline, .refl _⟩

/-- Two types of one outline are the query root. -/
theorem rearranged_of_describes {r : RootOutline} {type type' : SchemaType}
    {inputs inputs' : List GeneratedInput} (h : (root r).Describes type inputs)
    (h' : (root r).Describes type' inputs') :
    ∃ o o', type = .object o ∧ type' = .object o' ∧ o.name = r.name ∧
      o.Rearranged o' inputs inputs' := by
  obtain ⟨shapes, added, hshapes, hadded, rfl⟩ := h
  obtain ⟨shapes', added', hshapes', hadded', rfl⟩ := h'
  have hperm := Multiset.coe_eq_coe.1 (hshapes.trans hshapes'.symm)
  exact ⟨_, _, rfl, rfl, rfl, rfl, rfl,
    ⟨r.fields, added, added', shapes, shapes', hperm, hadded, hadded', rfl, rfl⟩, rfl⟩

end TypeOutline

namespace Assembly

open TypeOutline

variable {ts : TypeSystem} {map : Assembly}

/-- Only the object of the name of the query root has the outline of a root. -/
theorem name_of_outline {t : SourceType} {d : Definition} {r : RootOutline}
    (hd : definitionOf ts t = .ok d) (h : outline ts map d = some (.root r)) :
    r.name = t.name ∧ r.name = ts.queryType := by
  by_cases hobject : t.isObject = true
  · rw [definitionOf_of_isObject hobject] at hd
    obtain ⟨firstKey, rfl, -⟩ := objectDefinition_eq_ok hd
    obtain ⟨own, -, h⟩ := Option.bind_eq_some_iff.1 h
    split at h
    · next hroot =>
      obtain ⟨fields, -, h⟩ := Option.bind_eq_some_iff.1 h
      obtain ⟨keyFields, -, h⟩ := Option.bind_eq_some_iff.1 h
      split at h
      · cases h
        exact ⟨rfl, of_decide_eq_true hroot⟩
      · cases h
    · split at h <;> cases h
  · -- Any other type is copied, which has the outline of a plain type.
    have hcopied : definitionOf ts t = .ok (.copied t) := by
      rw [definitionOf]
      rw [SourceType.isObject] at hobject
      split <;> simp_all
    obtain rfl := Except.ok.inj (hcopied.symm.trans hd)
    obtain ⟨_, -, h⟩ := Option.map_eq_some_iff.1 h
    cases h

theorem names_of_outlines {types : List SourceType} {ds : List Definition}
    {os : List TypeOutline}
    (hds : List.Forall₂ (fun t d => definitionOf ts t = .ok d) types ds)
    (hos : List.Forall₂ (fun d o => outline ts map d = some o) ds os) :
    ((os.filterMap root?).map RootOutline.name).Sublist (types.map (·.name)) ∧
      ∀ r ∈ os.filterMap root?, r.name = ts.queryType := by
  induction hds generalizing os with
  | nil =>
    cases hos
    exact ⟨.slnil, fun _ h => nomatch h⟩
  | cons hd _ ih =>
    cases hos with
    | @cons _ o _ _ ho hrest =>
      obtain ⟨hsublist, hname⟩ := ih hrest
      cases o with
      | plain => exact ⟨hsublist.cons _, hname⟩
      | root r =>
        obtain ⟨hsame, hroot⟩ := name_of_outline hd ho
        refine ⟨?_, List.forall_mem_cons.2 ⟨hroot, hname⟩⟩
        change (r.name :: _).Sublist _
        rw [hsame]
        exact hsublist.cons_cons _

/-- At most one outline is the one of a root, and this one has the name of the query root. -/
theorem roots_outlinesOf {outlines : Multiset TypeOutline}
    (hnames : (ts.types.map (·.name)).Nodup) (h : outlinesOf ts = some outlines) :
    outlines.filterMap root? = 0 ∨
      ∃ r, r.name = ts.queryType ∧ outlines.filterMap root? = {r} := by
  obtain ⟨map, hmap, h⟩ := Option.bind_eq_some_iff.1 h
  obtain ⟨os, hos, rfl⟩ := Option.map_eq_some_iff.1 h
  obtain ⟨ds, hds, hall⟩ := definitions_ofTypeSystem (Outcome.toOption_eq_some.1 hmap)
  rw [hall, mapM_eq_some_iff] at hos
  cases hos with
  | cons hnode hos =>
    obtain rfl := Option.some.inj hnode
    obtain ⟨hsublist, hroot⟩ := names_of_outlines hds hos
    have hnodup := hsublist.nodup (hnames.sublist (List.filter_sublist.map _))
    rw [Multiset.filterMap_coe, List.filterMap_cons]
    -- Two roots would both have the name of the query root.
    match hroots : List.filterMap root? _ with
    | [] => exact .inl rfl
    | [r] => exact .inr ⟨r, hroot r (by rw [hroots]; exact List.mem_cons_self), rfl⟩
    | r :: r' :: rest =>
      rw [hroots] at hnodup hroot
      have hsame : r.name = r'.name := by
        rw [hroot r List.mem_cons_self, hroot r' (List.mem_cons_of_mem _ List.mem_cons_self)]
      rw [List.map_cons, List.map_cons, hsame] at hnodup
      exact absurd List.mem_cons_self (List.nodup_cons.1 hnodup).1

/-- Types of the same outlines are rearranged. -/
theorem Outlined.rearranged {outlines : Multiset TypeOutline} {types types' : List SchemaType}
    (h : Outlined outlines types) (h' : Outlined outlines types')
    (hnames : (ts.types.map (·.name)).Nodup) (houtlines : outlinesOf ts = some outlines) :
    SchemaType.Rearranged ts.queryType types types' := by
  obtain ⟨os, defined, inputs, rfl, hdefined, rfl⟩ := h
  obtain ⟨os', defined', inputs', hsame, hdefined', rfl⟩ := h'
  -- The outlines are told in two orders, with the same plain types and the same root in both.
  have hperm : os'.Perm os := Multiset.coe_eq_coe.1 hsame
  have hplain : (os'.filterMap plain?).Perm (os.filterMap plain?) := hperm.filterMap _
  have hroots : (os'.filterMap root?).Perm (os.filterMap root?) := hperm.filterMap _
  obtain hnone | ⟨r, hname, hsingle⟩ := roots_outlinesOf hnames houtlines
  · rw [Multiset.filterMap_coe, Multiset.coe_eq_zero] at hnone
    rw [hnone] at hroots
    obtain ⟨rfl, rfl⟩ := eq_of_collected hdefined hnone
    obtain ⟨rfl, rfl⟩ := eq_of_collected hdefined' hroots.eq_nil
    exact .withoutRoot (hplain.symm.append_right _)
  · rw [Multiset.filterMap_coe, Multiset.coe_eq_singleton] at hsingle
    rw [hsingle] at hroots
    obtain ⟨type, htype, hperm⟩ := perm_of_collected hdefined hsingle
    obtain ⟨type', htype', hperm'⟩ := perm_of_collected hdefined' (List.perm_singleton.1 hroots)
    obtain ⟨root, root', rfl, rfl, hroot, hrearranged⟩ := rearranged_of_describes htype htype'
    exact .withRoot (os.filterMap plain?) (hroot.trans hname) hrearranged
      (hperm.append_right _) ((hperm'.trans (hplain.cons _)).append_right _)

end Assembly

namespace Schema

open Assembly Declaration

variable {sdl sdl' : String} {ds ds' : List Declaration}

/-- If the types of one document can be evaluated so can those of the other. -/
theorem exists_typesOf_of_rearranged (h : Declaration.Rearranged ds ds') (hds : ExtendsNothing ds)
    (hread : readAll sdl = .ok ds) (hread' : readAll sdl' = .ok ds') (suffixes suffixes' : Suffixes)
    (htypes : ∃ ts types, TypeSystem.load sdl = .ok ts ∧ (typesOf ts suffixes).1 = .ok types) :
    ∃ ts types, TypeSystem.load sdl' = .ok ts ∧ (typesOf ts suffixes').1 = .ok types := by
  obtain ⟨ts, types, hts, htypes⟩ := htypes
  obtain ⟨ts', hts'⟩ := h.exists_load hds hread hread' ⟨ts, hts⟩
  have hsame := TypeSystem.rearranged_of_load h hds hread hread' hts hts'
  -- Having outlines does not depend on the suffixes.
  have houtlines := exists_typesOf_iff.1 ⟨types, htypes⟩
  rw [hsame.outlinesOf] at houtlines
  obtain ⟨types', htypes'⟩ := exists_typesOf_iff.2 houtlines
  exact ⟨ts', types', hts', htypes'⟩

/-- It does not matter in which order the types of a document without extensions are declared: both
    documents can be loaded and their types evaluated or none, and the types are the same. Only the
    query fields of the root change their order, and the input types generated for them their
    suffixes. -/
theorem typesOf_of_rearranged (h : Declaration.Rearranged ds ds') (hds : ExtendsNothing ds)
    (hread : readAll sdl = .ok ds) (hread' : readAll sdl' = .ok ds')
    (suffixes suffixes' : Suffixes) :
    ((∃ ts types, TypeSystem.load sdl = .ok ts ∧ (typesOf ts suffixes).1 = .ok types) ↔
      ∃ ts types, TypeSystem.load sdl' = .ok ts ∧ (typesOf ts suffixes').1 = .ok types) ∧
    ∀ ts ts' types types', TypeSystem.load sdl = .ok ts → TypeSystem.load sdl' = .ok ts' →
      (typesOf ts suffixes).1 = .ok types → (typesOf ts' suffixes').1 = .ok types' →
        ts.queryType = ts'.queryType ∧ SchemaType.Rearranged ts.queryType types types' := by
  refine ⟨⟨exists_typesOf_of_rearranged h hds hread hread' suffixes suffixes',
    exists_typesOf_of_rearranged h.symm (h.extendsNothing hds) hread' hread suffixes' suffixes⟩,
    fun ts ts' types types' hts hts' htypes htypes' => ?_⟩
  have hsame := TypeSystem.rearranged_of_load h hds hread hread' hts hts'
  obtain ⟨outlines, houtlines, houtlined⟩ := outlined_of_typesOf htypes
  obtain ⟨outlines', houtlines', houtlined'⟩ := outlined_of_typesOf htypes'
  rw [← hsame.outlinesOf, houtlines] at houtlines'
  obtain rfl := Option.some.inj houtlines'
  exact ⟨hsame.queryType, houtlined.rearranged houtlined' hsame.names houtlines⟩

/-- The query root in front of two types with keys and behind them, next to a built-in scalar which
    is declared anew. -/
theorem typesOf_of_rearranged_keys :
    let first := "type Query \x7b a: A \x7d type A @key(fields: \"n\") \x7b n: Int \x7d
      scalar Int type B @key(fields: \"a \x7b n \x7d\") \x7b a: A \x7d"
    let second := "type B @key(fields: \"a \x7b n \x7d\") \x7b a: A \x7d scalar Int
      type A @key(fields: \"n\") \x7b n: Int \x7d type Query \x7b a: A \x7d"
    ∃ ts ts' types types', TypeSystem.load first = .ok ts ∧ TypeSystem.load second = .ok ts' ∧
      (typesOf ts .counting).1 = .ok types ∧ (typesOf ts' (.hexadecimal 7)).1 = .ok types' ∧
      SchemaType.Rearranged ts.queryType types types' ∧
      types.map SchemaType.name = ["Node", "Query", "A", "B", "BAInput0"] ∧
      types'.map SchemaType.name =
        ["Node", "B", "A", "Query", "BAInput00000000000000000000000000000007"] := by
  intro first second
  let root : TypeDeclaration :=
    ⟨false, none, "Query", [], .object [] [⟨"a", none, .named "A", []⟩]⟩
  let key (line column : Nat) (fields : String) : DirectiveUse Empty :=
    ⟨⟨line, column⟩, ⟨"key", ⟨line, column + 1⟩⟩,
      [⟨⟨"fields", ⟨line, column + 5⟩⟩, ⟨.string fields, ⟨line, column + 13⟩⟩⟩]⟩
  let leaf (line column : Nat) : TypeDeclaration :=
    ⟨false, none, "A", [key line column "n"], .object [] [⟨"n", none, .named "Int", []⟩]⟩
  let nested (line column : Nat) : TypeDeclaration :=
    ⟨false, none, "B", [key line column "a \x7b n \x7d"],
      .object [] [⟨"a", none, .named "A", []⟩]⟩
  let scalar : TypeDeclaration := ⟨false, none, "Int", [], .scalar⟩
  have hfirst : readAll first =
      .ok [.type root, .type (leaf 1 28), .type scalar, .type (nested 2 25)] :=
    Outcome.toOption_eq_some.1 (by decide +kernel)
  have hsecond : readAll second =
      .ok [.type (nested 1 8), .type scalar, .type (leaf 2 14), .type root] :=
    Outcome.toOption_eq_some.1 (by decide +kernel)
  have hevaluated (text : String) (suffixes : Suffixes) (names : List String)
      (h : ((TypeSystem.load text).toOption.bind fun ts =>
        (typesOf ts suffixes).1.toOption.map fun types => types.map SchemaType.name) =
          some names) : ∃ ts types, TypeSystem.load text = .ok ts ∧
        (typesOf ts suffixes).1 = .ok types ∧ types.map SchemaType.name = names := by
    obtain ⟨ts, hts, h⟩ := Option.bind_eq_some_iff.1 h
    obtain ⟨types, htypes, hnames⟩ := Option.map_eq_some_iff.1 h
    exact ⟨ts, types, Outcome.toOption_eq_some.1 hts, Outcome.toOption_eq_some.1 htypes, hnames⟩
  obtain ⟨ts, types, hts, htypes, hnames⟩ := hevaluated first .counting
    ["Node", "Query", "A", "B", "BAInput0"] (by decide +kernel)
  obtain ⟨ts', types', hts', htypes', hnames'⟩ := hevaluated second (.hexadecimal 7)
    ["Node", "B", "A", "Query", "BAInput00000000000000000000000000000007"] (by decide +kernel)
  obtain ⟨-, hsame⟩ := typesOf_of_rearranged (by decide +kernel) (by decide +kernel) hfirst hsecond
    .counting (.hexadecimal 7)
  exact ⟨ts, ts', types, types', hts, hts', htypes, htypes',
    (hsame ts ts' types types' hts hts' htypes htypes').2, hnames, hnames'⟩

end Schema

end EntityGraph
