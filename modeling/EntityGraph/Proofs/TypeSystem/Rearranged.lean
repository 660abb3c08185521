import Mathlib
import EntityGraph.Proofs.TypeSystem.Extending
import EntityGraph.QueryByKey

/-!
# Rearranged documents

Without extensions a type which is not built in has at most one declaration, so it does not matter
in which order the types of a document are declared: both documents can be loaded or none, and
the types and the query root are the same (`TypeSystem.rearranged_of_load`). What is asked of a type
system does not depend on the order of its types, but for the order of the keys which get a query
field (`TypeSystem.Rearranged.queryKeys`).
-/

namespace EntityGraph

namespace Declaration

/-- Both documents hold the same declarations of types, in any order, and the same schema
    definitions. -/
structure Rearranged (ds ds' : List Declaration) : Prop where
  types : ((typesIn ds).map TypeDeclaration.unplaced).Perm
    ((typesIn ds').map TypeDeclaration.unplaced)
  schemas : schemasIn ds = schemasIn ds'

/-- No declaration extends a type. -/
def ExtendsNothing (ds : List Declaration) : Prop :=
  ∀ d ∈ typesIn ds, d.isExtension = false

instance (ds ds' : List Declaration) : Decidable (Rearranged ds ds') :=
  decidable_of_iff (((typesIn ds).map TypeDeclaration.unplaced).Perm
      ((typesIn ds').map TypeDeclaration.unplaced) ∧ schemasIn ds = schemasIn ds')
    ⟨fun h => ⟨h.1, h.2⟩, fun h => ⟨h.types, h.schemas⟩⟩

instance (ds : List Declaration) : Decidable (ExtendsNothing ds) :=
  inferInstanceAs (Decidable (∀ d ∈ typesIn ds, d.isExtension = false))

end Declaration

namespace TypeSystem

open Declaration

/-- Both type systems have the same types, in any order, no two of one name, and the same root. -/
structure Rearranged (ts ts' : TypeSystem) : Prop where
  types : ts.types.Perm ts'.types
  names : (ts.types.map (·.name)).Nodup
  queryType : ts.queryType = ts'.queryType

/-! ### Loading -/

/-- Without extensions a built-in type stays what it is. -/
theorem eq_of_foldlM_joined {ds : List TypeDeclaration} (hds : ∀ d ∈ ds, d.isExtension = false)
    {t u : SourceType} (h : ds.foldlM joined t = .ok u) : u = t := by
  induction ds generalizing t with
  | nil => exact (Except.ok.inj h).symm
  | cons d rest ih =>
    obtain ⟨hd, hrest⟩ := List.forall_mem_cons.1 hds
    rw [List.foldlM_cons] at h
    obtain ⟨next, hnext, hu⟩ := Outcome.bind_eq_ok.1 h
    obtain ⟨_, -, ⟨hextension, -⟩ | ⟨-, -, hsame⟩⟩ := joined_eq_ok.1 hnext
    · rw [hd] at hextension
      cases hextension
    · exact (ih hrest hu).trans hsame

/-- Without extensions a type becomes the same in whatever order it is declared. -/
theorem typeOf_perm {existing u : Option SourceType} {ds ds' : List TypeDeclaration}
    (hperm : ds.Perm ds') (hds : ∀ d ∈ ds, d.isExtension = false)
    (h : typeOf existing ds = .ok u) : typeOf existing ds' = .ok u := by
  cases existing with
  | some b =>
    -- A built-in type may be declared any number of times.
    rw [typeOf_some] at h ⊢
    obtain ⟨t, ht, rfl⟩ := Outcome.map_eq_ok.1 h
    obtain ⟨t', ht', -⟩ := exists_foldlM_joined_perm hperm ht
    have hds' : ∀ d ∈ ds', d.isExtension = false := fun d hd => hds d (hperm.mem_iff.2 hd)
    rw [ht', eq_of_foldlM_joined hds' ht', eq_of_foldlM_joined hds ht]
    rfl
  | none =>
    match ds, h with
    | [], h => rwa [hperm.nil_eq] at h
    | [d], h => rwa [List.singleton_perm.1 hperm] at h
    | d :: e :: rest, h =>
      -- Behind the first declaration there is room for extensions only.
      rw [typeOf] at h
      obtain ⟨b, hb, h⟩ := Outcome.bind_eq_ok.1 h
      rw [typeOf_some] at h
      obtain ⟨t, ht, -⟩ := Outcome.map_eq_ok.1 h
      have he := isExtension_of_foldlM_joined ht (isBuiltIn_ofDeclaration hb) e List.mem_cons_self
      rw [hds e (List.mem_cons_of_mem _ List.mem_cons_self)] at he
      cases he

end TypeSystem

namespace Declaration.Rearranged

open TypeSystem

variable {ds ds' : List Declaration} {sdl sdl' : String}

theorem symm (h : Rearranged ds ds') : Rearranged ds' ds := ⟨h.types.symm, h.schemas.symm⟩

theorem extendsNothing (h : Rearranged ds ds') (hds : ExtendsNothing ds) : ExtendsNothing ds' := by
  intro d hd
  obtain ⟨e, he, heq⟩ := List.mem_map.1 (h.types.mem_iff.2 (List.mem_map_of_mem hd))
  have hsame : e.unplaced.isExtension = d.unplaced.isExtension := congrArg _ heq
  exact hsame.symm.trans (hds e he)

theorem typeOf (h : Rearranged ds ds') (hds : ExtendsNothing ds) {name : String}
    {existing u : Option SourceType}
    (hu : TypeSystem.typeOf existing (declarationsOf name ds) = .ok u) :
    TypeSystem.typeOf existing (declarationsOf name ds') = .ok u := by
  have hown (ds : List Declaration) : (declarationsOf name ds).map TypeDeclaration.unplaced =
      ((typesIn ds).map TypeDeclaration.unplaced).filter fun d => d.name = name := by
    rw [declarationsOf, List.filter_map]
    rfl
  rw [← typeOf_unplaced, hown] at hu ⊢
  refine typeOf_perm (h.types.filter _) (fun d hd => ?_) hu
  obtain ⟨e, he, rfl⟩ := List.mem_map.1 (List.mem_of_mem_filter hd)
  exact hds e he

/-- If one document can be loaded so can the other. -/
theorem exists_load (h : Rearranged ds ds') (hds : ExtendsNothing ds)
    (hread : readAll sdl = .ok ds) (hread' : readAll sdl' = .ok ds')
    (hload : ∃ ts, load sdl = .ok ts) : ∃ ts', load sdl' = .ok ts' := by
  obtain ⟨types, htypes, hobject⟩ := (exists_load_iff hread).1 hload
  exact (exists_load_iff hread').2
    ⟨types, fun name => h.typeOf hds (htypes name), h.schemas ▸ hobject⟩

end Declaration.Rearranged

namespace TypeSystem

open Declaration

/-- If no two types have one name, the type of a name is the one which has it. -/
theorem get?_eq_some_iff {ts : TypeSystem} (h : (ts.types.map (·.name)).Nodup) {name : String}
    {t : SourceType} : ts.get? name = some t ↔ t ∈ ts.types ∧ t.name = name := by
  constructor
  · intro hget
    exact ⟨List.mem_of_find?_eq_some hget, name_of_get? hget⟩
  · rintro ⟨ht, rfl⟩
    exact find?_of_mem h ht

/-- Rearranged documents are loaded to rearranged type systems. -/
theorem rearranged_of_load {ds ds' : List Declaration} {sdl sdl' : String}
    (h : Declaration.Rearranged ds ds') (hds : ExtendsNothing ds) (hread : readAll sdl = .ok ds)
    (hread' : readAll sdl' = .ok ds') {ts ts' : TypeSystem} (hts : load sdl = .ok ts)
    (hts' : load sdl' = .ok ts') : Rearranged ts ts' := by
  obtain ⟨htypes, hroot, hnames, -⟩ := get?_of_load hread hts
  obtain ⟨htypes', hroot', hnames', -⟩ := get?_of_load hread' hts'
  have hget (name : String) : ts.get? name = ts'.get? name :=
    Except.ok.inj ((h.typeOf hds (htypes name)).symm.trans (htypes' name))
  -- As no type occurs twice, it is enough that both have the same types.
  refine ⟨(List.perm_ext_iff_of_nodup hnames.of_map hnames'.of_map).2 fun t => ?_, hnames, ?_⟩
  · rw [← and_iff_left (a := t ∈ ts.types) rfl, ← get?_eq_some_iff hnames, hget,
      get?_eq_some_iff hnames', and_iff_left rfl]
  · rw [hroot, hroot', h.schemas]

/-! ### Type systems -/

namespace Rearranged

variable {ts ts' : TypeSystem}

theorem get? (h : Rearranged ts ts') : ts.get? = ts'.get? := by
  funext name
  have hnames' : (ts'.types.map (·.name)).Nodup := (h.types.map _).nodup_iff.1 h.names
  refine Option.ext fun t => ?_
  rw [get?_eq_some_iff h.names, get?_eq_some_iff hnames', h.types.mem_iff]

theorem isPrimary (h : Rearranged ts ts') : ts.isPrimary = ts'.isPrimary := by
  funext t
  rw [TypeSystem.isPrimary, TypeSystem.isPrimary, h.queryType]

theorem keysOf? (h : Rearranged ts ts') : ts.keysOf? = ts'.keysOf? := by
  funext t
  rw [TypeSystem.keysOf?, TypeSystem.keysOf?, h.isPrimary]

/-- The keys with a query field come in the order of their types. -/
theorem queryKeys (h : Rearranged ts ts') : ts.queryKeys.Perm ts'.queryKeys := by
  rw [TypeSystem.queryKeys, TypeSystem.queryKeys, h.keysOf?, h.queryType]
  exact h.types.flatMap_right _

mutual

theorem fieldOfSelection (h : Rearranged ts ts') : ∀ (s : Selection) (t : SourceType),
    KeyProjection.fieldOfSelection ts t s = KeyProjection.fieldOfSelection ts' t s
  | .mk name children, t => by
    rw [KeyProjection.fieldOfSelection, KeyProjection.fieldOfSelection]
    cases t.field? name with
    | none => rfl
    | some field =>
      cases children with
      | nil => rfl
      | cons c cs =>
        simp only [h.get?, h.isPrimary]
        cases ts'.get? field.type.core with
        | none => rfl
        | some inner => simp only [h.fieldsOfSelection (c :: cs) inner]

theorem fieldsOfSelection (h : Rearranged ts ts') : ∀ (tree : List Selection) (t : SourceType),
    KeyProjection.fieldsOfSelection ts t tree = KeyProjection.fieldsOfSelection ts' t tree
  | [], t => rfl
  | s :: rest, t => by
    rw [KeyProjection.fieldsOfSelection, KeyProjection.fieldsOfSelection,
      h.fieldOfSelection s t, h.fieldsOfSelection rest t]

end

theorem ofSelection (h : Rearranged ts ts') :
    KeyProjection.ofSelection ts = KeyProjection.ofSelection ts' := by
  funext type selection
  rw [KeyProjection.ofSelection, KeyProjection.ofSelection, h.get?]
  simp only [h.isPrimary, h.fieldsOfSelection]

end Rearranged

end TypeSystem

end EntityGraph
