import Mathlib
import EntityGraph.Proofs.Language.Equality
import EntityGraph.Proofs.TypeSystem.Declarations

/-!
# The order of extensions

Extensions of a type which was declared are merged into it in any order: two of them behind each
other give the same type as the other way round, but for the order of its parts
(`TypeSystem.exists_joined_swap`), and so do all of them in any order
(`TypeSystem.exists_typeOf_perm`). A built-in type may be declared among them, which does nothing.

In a document all declarations of a type may change their places, as long as the extensions stay
behind the definition. A definition behind an extension is refused, as the extension has become
the type (`TypeSystem.load_of_reordered`).
-/

namespace EntityGraph

/-! ### The same parts in another order -/

/-- Both kinds are the same, with the same parts in any order. -/
inductive TypeKind.SameParts : TypeKind → TypeKind → Prop
  | scalar : SameParts .scalar .scalar
  | object {is is' : List String} {fs fs' : List FieldDeclaration} :
      is.Perm is' → fs.Perm fs' → SameParts (.object is fs) (.object is' fs')
  | interface {is is' : List String} {fs fs' : List FieldDeclaration} :
      is.Perm is' → fs.Perm fs' → SameParts (.interface is fs) (.interface is' fs')
  | union {ms ms' : List String} : ms.Perm ms' → SameParts (.union ms) (.union ms')
  | enum {vs vs' : List String} : vs.Perm vs' → SameParts (.enum vs) (.enum vs')
  | inputObject {fs fs' : List InputValue} :
      fs.Perm fs' → SameParts (.inputObject fs) (.inputObject fs')

/-- Both types are the same, but for the order of their parts and keys. -/
structure SourceType.SameParts (t t' : SourceType) : Prop where
  name : t.name = t'.name
  description : t.description = t'.description
  isBuiltIn : t.isBuiltIn = t'.isBuiltIn
  kind : t.kind.SameParts t'.kind
  keys : t.keys.Perm t'.keys

namespace TypeKind.SameParts

variable {k k' : TypeKind}

theorem refl (k : TypeKind) : k.SameParts k := by
  cases k <;> constructor <;> exact .rfl

theorem symm (h : k.SameParts k') : k'.SameParts k := by
  cases h <;> constructor <;> exact .symm ‹_›

theorem trans {k'' : TypeKind} (h : k.SameParts k') (h' : k'.SameParts k'') : k.SameParts k'' := by
  cases h <;> cases h' <;> constructor <;> exact .trans ‹_› ‹_›

end TypeKind.SameParts

namespace SourceType.SameParts

variable {t t' : SourceType}

theorem refl (t : SourceType) : t.SameParts t := ⟨rfl, rfl, rfl, .refl _, .rfl⟩

theorem symm (h : t.SameParts t') : t'.SameParts t :=
  ⟨h.name.symm, h.description.symm, h.isBuiltIn.symm, h.kind.symm, h.keys.symm⟩

theorem trans {t'' : SourceType} (h : t.SameParts t') (h' : t'.SameParts t'') : t.SameParts t'' :=
  ⟨h.name.trans h'.name, h.description.trans h'.description, h.isBuiltIn.trans h'.isBuiltIn,
    h.kind.trans h'.kind, h.keys.trans h'.keys⟩

theorem isObject (h : t.SameParts t') : t.isObject = t'.isObject := by
  have hkind := h.kind
  rw [SourceType.isObject, SourceType.isObject]
  generalize t.kind = k at hkind ⊢
  generalize t'.kind = k' at hkind ⊢
  cases hkind <;> rfl

end SourceType.SameParts

namespace TypeSystem

open Declaration

/-! ### Merging -/

/-- Merging does not look at the order of parts. -/
theorem exists_mergeKind? {k k' e merged : TypeKind} (h : mergeKind? k e = some merged)
    (hk : k.SameParts k') :
    ∃ merged', mergeKind? k' e = some merged' ∧ merged.SameParts merged' := by
  cases hk <;> cases e <;> cases h <;> refine ⟨_, rfl, ?_⟩ <;> constructor <;>
    exact .append_right _ ‹_›

/-- Two extensions can be merged in both orders or in none. -/
theorem exists_mergeKind?_swap {k e e' merged all : TypeKind} (h : mergeKind? k e = some merged)
    (h' : mergeKind? merged e' = some all) :
    ∃ merged' all', mergeKind? k e' = some merged' ∧ mergeKind? merged' e = some all' ∧
      all.SameParts all' := by
  -- Kinds which do not match are gone; of matching ones the parts stand behind each other.
  cases k <;> cases e <;> cases h <;> cases e' <;> cases h' <;>
    refine ⟨_, _, rfl, rfl, ?_⟩ <;> constructor <;>
    simpa only [List.append_assoc] using List.perm_append_comm.append_left _

theorem exists_joined {t t' u : SourceType} {d : TypeDeclaration} (h : joined t d = .ok u)
    (ht : t.SameParts t') : ∃ u', joined t' d = .ok u' ∧ u.SameParts u' := by
  obtain ⟨other, hother, ⟨hextension, h⟩ | ⟨hextension, hbuiltIn, rfl⟩⟩ := joined_eq_ok.1 h
  · obtain ⟨kind, hkind, rfl⟩ := extend_eq_ok.1 h
    obtain ⟨kind', hkind', hsame⟩ := exists_mergeKind? hkind ht.kind
    refine ⟨{ t' with kind := kind', keys := t'.keys ++ other.keys }, ?_, ?_⟩
    · exact joined_eq_ok.2 ⟨other, hother, .inl ⟨hextension, extend_eq_ok.2 ⟨_, hkind', rfl⟩⟩⟩
    · exact ⟨ht.name, ht.description, ht.isBuiltIn, hsame, ht.keys.append_right _⟩
  · exact ⟨t', joined_eq_ok.2 ⟨other, hother, .inr ⟨hextension, ht.isBuiltIn ▸ hbuiltIn, rfl⟩⟩, ht⟩

theorem isBuiltIn_of_joined {t u : SourceType} {d : TypeDeclaration} (h : joined t d = .ok u) :
    u.isBuiltIn = t.isBuiltIn := by
  obtain ⟨other, -, ⟨-, h⟩ | ⟨-, -, rfl⟩⟩ := joined_eq_ok.1 h
  · obtain ⟨kind, -, rfl⟩ := extend_eq_ok.1 h
    rfl
  · rfl

/-- Two declarations behind each other give the same type as the other way round. -/
theorem exists_joined_swap {t u v : SourceType} {d e : TypeDeclaration} (h : joined t d = .ok u)
    (h' : joined u e = .ok v) :
    ∃ u' v', joined t e = .ok u' ∧ joined u' d = .ok v' ∧ v.SameParts v' := by
  have hbuiltIn := isBuiltIn_of_joined h
  obtain ⟨dt, hdt, ⟨hd, hu⟩ | ⟨hd, htBuiltIn, rfl⟩⟩ := joined_eq_ok.1 h
  · obtain ⟨et, het, ⟨he, hv⟩ | ⟨he, huBuiltIn, rfl⟩⟩ := joined_eq_ok.1 h'
    · -- Two extensions: only the parts change their order.
      obtain ⟨kind, hkind, rfl⟩ := extend_eq_ok.1 hu
      obtain ⟨all, hall, rfl⟩ := extend_eq_ok.1 hv
      obtain ⟨kind', all', hkind', hall', hsame⟩ := exists_mergeKind?_swap hkind hall
      refine ⟨_, _, joined_eq_ok.2 ⟨et, het, .inl ⟨he, extend_eq_ok.2 ⟨_, hkind', rfl⟩⟩⟩,
        joined_eq_ok.2 ⟨dt, hdt, .inl ⟨hd, extend_eq_ok.2 ⟨_, hall', rfl⟩⟩⟩,
        rfl, rfl, rfl, hsame, ?_⟩
      simpa only [List.append_assoc] using List.perm_append_comm.append_left _
    · -- A definition of a built-in type does nothing, before the extension as behind it.
      exact ⟨t, v, joined_eq_ok.2 ⟨et, het, .inr ⟨he, hbuiltIn ▸ huBuiltIn, rfl⟩⟩, h, .refl _⟩
  · have hvBuiltIn := (isBuiltIn_of_joined h').trans htBuiltIn
    exact ⟨v, v, h', joined_eq_ok.2 ⟨dt, hdt, .inr ⟨hd, hvBuiltIn, rfl⟩⟩, .refl _⟩

theorem exists_foldlM_joined {ds : List TypeDeclaration} {t t' u : SourceType}
    (h : ds.foldlM joined t = .ok u) (ht : t.SameParts t') :
    ∃ u', ds.foldlM joined t' = .ok u' ∧ u.SameParts u' := by
  induction ds generalizing t t' with
  | nil =>
    obtain rfl := Except.ok.inj h
    exact ⟨t', rfl, ht⟩
  | cons d rest ih =>
    rw [List.foldlM_cons] at h ⊢
    obtain ⟨next, hnext, h⟩ := Outcome.bind_eq_ok.1 h
    obtain ⟨next', hnext', hsame⟩ := exists_joined hnext ht
    obtain ⟨u', hu', hu⟩ := ih h hsame
    exact ⟨u', Outcome.bind_eq_ok.2 ⟨next', hnext', hu'⟩, hu⟩

/-- Declarations which can be joined with a type can be so in any order, with the same parts. -/
theorem exists_foldlM_joined_perm {ds ds' : List TypeDeclaration} (hperm : ds.Perm ds')
    {t u : SourceType} (h : ds.foldlM joined t = .ok u) :
    ∃ u', ds'.foldlM joined t = .ok u' ∧ u.SameParts u' := by
  induction hperm generalizing t u with
  | nil => exact ⟨u, h, .refl u⟩
  | cons d _ ih =>
    rw [List.foldlM_cons] at h ⊢
    obtain ⟨next, hnext, h⟩ := Outcome.bind_eq_ok.1 h
    obtain ⟨u', hu', hu⟩ := ih h
    exact ⟨u', Outcome.bind_eq_ok.2 ⟨next, hnext, hu'⟩, hu⟩
  | swap e d rest =>
    -- The rest is merged into a type whose parts have another order by now.
    simp only [List.foldlM_cons] at h ⊢
    obtain ⟨one, hone, h⟩ := Outcome.bind_eq_ok.1 h
    obtain ⟨both, hboth, h⟩ := Outcome.bind_eq_ok.1 h
    obtain ⟨other, both', hother, hboth', hsame⟩ := exists_joined_swap hone hboth
    obtain ⟨u', hu', hu⟩ := exists_foldlM_joined h hsame
    refine ⟨u', ?_, hu⟩
    exact Outcome.bind_eq_ok.2 ⟨other, hother, Outcome.bind_eq_ok.2 ⟨both', hboth', hu'⟩⟩
  | trans _ _ ih ih' =>
    obtain ⟨u', hu', hu⟩ := ih h
    obtain ⟨u'', hu'', hu'⟩ := ih' hu'
    exact ⟨u'', hu'', hu.trans hu'⟩

theorem typeOf_some (t : SourceType) (ds : List TypeDeclaration) :
    typeOf (some t) ds = (ds.foldlM joined t).map some := by
  induction ds generalizing t with
  | nil => rfl
  | cons d rest ih =>
    rw [typeOf, List.foldlM_cons]
    cases joined t d with
    | error e => rfl
    | ok next => exact ih next

/-- Behind an extension which has become the type there is no room for a definition. -/
theorem isExtension_of_foldlM_joined {ds : List TypeDeclaration} {t u : SourceType}
    (h : ds.foldlM joined t = .ok u) (ht : t.isBuiltIn = false) :
    ∀ d ∈ ds, d.isExtension = true := by
  induction ds generalizing t with
  | nil => exact fun _ hd => absurd hd List.not_mem_nil
  | cons d rest ih =>
    rw [List.foldlM_cons] at h
    obtain ⟨next, hnext, h⟩ := Outcome.bind_eq_ok.1 h
    refine List.forall_mem_cons.2 ⟨?_, ih h ((isBuiltIn_of_joined hnext).trans ht)⟩
    obtain ⟨_, -, ⟨hextension, -⟩ | ⟨-, hbuiltIn, -⟩⟩ := joined_eq_ok.1 hnext
    · exact hextension
    · rw [ht] at hbuiltIn
      cases hbuiltIn

/-! ### Documents -/

/-- Both documents hold the same declarations in the same order, but for those of one type, which
    may stand anywhere. -/
structure Reordered (type : String) (ds ds' : List Declaration) : Prop where
  own : ((declarationsOf type ds).map TypeDeclaration.unplaced).Perm
    ((declarationsOf type ds').map TypeDeclaration.unplaced)
  others : ((typesIn ds).filter fun d => d.name ≠ type).map TypeDeclaration.unplaced =
    ((typesIn ds').filter fun d => d.name ≠ type).map TypeDeclaration.unplaced
  schemas : schemasIn ds = schemasIn ds'

/-- The type is defined once, and extended any number of times. -/
def DefinedOnce (ds : List TypeDeclaration) : Prop :=
  (ds.filter fun d => !d.isExtension).length = 1

/-- The definition of the type stands in front of its extensions. -/
def DefinedFirst (ds : List TypeDeclaration) : Prop :=
  ∃ d ∈ ds.head?, d.isExtension = false

theorem definedOnce_unplaced (ds : List TypeDeclaration) :
    DefinedOnce (ds.map TypeDeclaration.unplaced) ↔ DefinedOnce ds := by
  rw [DefinedOnce, List.filter_map, List.length_map]
  exact Iff.rfl

theorem definedFirst_unplaced (ds : List TypeDeclaration) :
    DefinedFirst (ds.map TypeDeclaration.unplaced) ↔ DefinedFirst ds := by
  cases ds <;> simp [DefinedFirst, TypeDeclaration.unplaced]

/-- Two orders of the declarations of a type which start with its only definition differ in the
    order of the extensions. -/
theorem perm_tail {d d' : TypeDeclaration} {rest rest' : List TypeDeclaration}
    (hperm : (d :: rest).Perm (d' :: rest')) (honce : DefinedOnce (d :: rest))
    (hd : d.isExtension = false) (hd' : d'.isExtension = false) : d = d' ∧ rest.Perm rest' := by
  have hfilter := hperm.filter fun d => !d.isExtension
  rw [DefinedOnce, List.length_eq_one_iff] at honce
  obtain ⟨only, honly⟩ := honce
  rw [honly, List.singleton_perm] at hfilter
  rw [List.filter_cons_of_pos (by simp [hd])] at honly
  rw [List.filter_cons_of_pos (by simp [hd'])] at hfilter
  obtain rfl : d = d' := (List.cons.inj honly).1.trans (List.cons.inj hfilter).1
  exact ⟨rfl, hperm.cons_inv⟩

/-- A type which is there already, or is defined in front of its extensions, has the same parts in
    whatever order it is declared. -/
theorem exists_typeOf_perm {existing u : Option SourceType} {ds ds' : List TypeDeclaration}
    (hperm : ds.Perm ds') (honce : DefinedOnce ds)
    (hplace : existing.isSome = true ∨ DefinedFirst ds ∧ DefinedFirst ds')
    (h : typeOf existing ds = .ok u) :
    ∃ t t', u = some t ∧ typeOf existing ds' = .ok (some t') ∧ t.SameParts t' := by
  cases existing with
  | some b =>
    rw [typeOf_some] at h
    obtain ⟨t, ht, rfl⟩ := Outcome.map_eq_ok.1 h
    obtain ⟨t', ht', hsame⟩ := exists_foldlM_joined_perm hperm ht
    exact ⟨t, t', rfl, (typeOf_some b ds').trans (Outcome.map_eq_ok.2 ⟨t', ht', rfl⟩), hsame⟩
  | none =>
    -- Both orders start with the definition, which makes the same type of nothing.
    obtain ⟨⟨d, hd, hdefinition⟩, d', hd', hdefinition'⟩ := hplace.resolve_left (by simp)
    obtain ⟨rest, rfl⟩ := List.head?_eq_some_iff.1 hd
    obtain ⟨rest', rfl⟩ := List.head?_eq_some_iff.1 hd'
    obtain ⟨rfl, hrest⟩ := perm_tail hperm honce hdefinition hdefinition'
    rw [typeOf] at h
    obtain ⟨b, hb, h⟩ := Outcome.bind_eq_ok.1 h
    rw [typeOf_some] at h
    obtain ⟨t, ht, rfl⟩ := Outcome.map_eq_ok.1 h
    obtain ⟨t', ht', hsame⟩ := exists_foldlM_joined_perm hrest ht
    refine ⟨t, t', rfl, ?_, hsame⟩
    rw [typeOf, hb]
    exact (typeOf_some b rest').trans (Outcome.map_eq_ok.2 ⟨t', ht', rfl⟩)

/-- A definition behind an extension is refused. -/
theorem definedFirst_of_typeOf {u : Option SourceType} {ds : List TypeDeclaration}
    (honce : DefinedOnce ds) (h : typeOf none ds = .ok u) : DefinedFirst ds := by
  cases ds with
  | nil => cases honce
  | cons d rest =>
    refine ⟨d, rfl, Bool.eq_false_iff.2 fun hextension => ?_⟩
    rw [typeOf] at h
    obtain ⟨b, hb, h⟩ := Outcome.bind_eq_ok.1 h
    rw [typeOf_some] at h
    obtain ⟨t, ht, -⟩ := Outcome.map_eq_ok.1 h
    -- All of them are extensions, so none of them is the definition.
    have hall := isExtension_of_foldlM_joined ht (isBuiltIn_ofDeclaration hb)
    rw [DefinedOnce, List.filter_eq_nil_iff.2] at honce
    · cases honce
    · exact List.forall_mem_cons.2 ⟨by simp [hextension], fun d hd => by simp [hall d hd]⟩

namespace Reordered

variable {type : String} {ds ds' : List Declaration}

theorem symm (h : Reordered type ds ds') : Reordered type ds' ds :=
  ⟨h.own.symm, h.others.symm, h.schemas.symm⟩

theorem definedOnce (h : Reordered type ds ds') (honce : DefinedOnce (declarationsOf type ds)) :
    DefinedOnce (declarationsOf type ds') := by
  rw [← definedOnce_unplaced, DefinedOnce] at honce ⊢
  rwa [← (h.own.filter _).length_eq]

/-- Any other type has the same declarations in the same order. -/
theorem typeOf_eq (h : Reordered type ds ds') {name : String} (hname : name ≠ type)
    (existing : Option SourceType) :
    typeOf existing (declarationsOf name ds) = typeOf existing (declarationsOf name ds') := by
  have hown (ds : List Declaration) : (declarationsOf name ds).map TypeDeclaration.unplaced =
      (((typesIn ds).filter fun d => d.name ≠ type).map TypeDeclaration.unplaced).filter
        fun d => d.name = name := by
    rw [declarationsOf, List.filter_map, List.filter_filter]
    refine congrArg _ (List.filter_congr fun d _ => ?_)
    rw [Function.comp_apply, show d.unplaced.name = d.name from rfl]
    by_cases heq : d.name = name <;> simp [heq, hname]
  rw [← typeOf_unplaced, ← typeOf_unplaced existing (declarationsOf name ds'), hown, hown, h.others]

/-- The types the documents declare, as far as they get, are the same but for the order of the
    parts of one of them. -/
theorem exists_types (h : Reordered type ds ds') (honce : DefinedOnce (declarationsOf type ds))
    (hplace : type ∈ builtInScalars ∨
      DefinedFirst (declarationsOf type ds) ∧ DefinedFirst (declarationsOf type ds'))
    {types : String → Option SourceType}
    (htypes : ∀ name, typeOf (builtIn? name) (declarationsOf name ds) = .ok (types name)) :
    ∃ t t', types type = some t ∧ t.SameParts t' ∧ ∀ name,
      typeOf (builtIn? name) (declarationsOf name ds') =
        .ok (if name = type then some t' else types name) := by
  have hplace' : (builtIn? type).isSome = true ∨
      DefinedFirst ((declarationsOf type ds).map TypeDeclaration.unplaced) ∧
        DefinedFirst ((declarationsOf type ds').map TypeDeclaration.unplaced) := by
    rw [definedFirst_unplaced, definedFirst_unplaced]
    refine hplace.imp_left fun hmem => ?_
    rw [builtIn?, if_pos hmem, Option.isSome_some]
  obtain ⟨t, t', ht, ht', hsame⟩ := exists_typeOf_perm h.own
    ((definedOnce_unplaced _).2 honce) hplace' ((typeOf_unplaced _ _).trans (htypes type))
  refine ⟨t, t', ht, hsame, fun name => ?_⟩
  split
  · next heq =>
    subst heq
    exact (typeOf_unplaced _ _).symm.trans ht'
  · next hne => exact (h.typeOf_eq hne _).symm.trans (htypes name)

/-- If one document can be loaded so can the other. -/
theorem exists_load (h : Reordered type ds ds') (honce : DefinedOnce (declarationsOf type ds))
    (hplace : type ∈ builtInScalars ∨
      DefinedFirst (declarationsOf type ds) ∧ DefinedFirst (declarationsOf type ds'))
    {sdl sdl' : String} (hread : readAll sdl = .ok ds) (hread' : readAll sdl' = .ok ds')
    (hload : ∃ ts, load sdl = .ok ts) : ∃ ts', load sdl' = .ok ts' := by
  obtain ⟨types, htypes, hobject⟩ := (exists_load_iff hread).1 hload
  obtain ⟨t, t', ht, hsame, htypes'⟩ := h.exists_types honce hplace htypes
  refine (exists_load_iff hread').2 ⟨_, htypes', ?_⟩
  rw [← h.schemas]
  split
  · next heq =>
    rwa [heq, ht, Option.any_some, hsame.isObject] at hobject
  · exact hobject

end Reordered

/-- Of two documents which differ in the order of the declarations of one type both can be loaded
    or none, with the same parts of this type, if its definition stands in front of its extensions
    or is the one of a built-in type. A document in which it does not can not be loaded. -/
theorem load_of_reordered (type : String) {sdl sdl' : String} {ds ds' : List Declaration}
    (hread : readAll sdl = .ok ds) (hread' : readAll sdl' = .ok ds')
    (h : Reordered type ds ds') (honce : DefinedOnce (declarationsOf type ds)) :
    (type ∈ builtInScalars ∨
        DefinedFirst (declarationsOf type ds) ∧ DefinedFirst (declarationsOf type ds') →
      ((∃ ts, load sdl = .ok ts) ↔ ∃ ts', load sdl' = .ok ts') ∧
      ∀ ts ts', load sdl = .ok ts → load sdl' = .ok ts' →
        (∃ t t', ts.get? type = some t ∧ ts'.get? type = some t' ∧ t.SameParts t') ∧
        (∀ name, name ≠ type → ts.get? name = ts'.get? name) ∧ ts.queryType = ts'.queryType) ∧
    (type ∉ builtInScalars → ¬ DefinedFirst (declarationsOf type ds) →
      ∃ e, load sdl = .error e) := by
  constructor
  · intro hplace
    have hplace' := hplace.imp_right And.symm
    refine ⟨⟨h.exists_load honce hplace hread hread',
      h.symm.exists_load (h.definedOnce honce) hplace' hread' hread⟩, fun ts ts' hts hts' => ?_⟩
    obtain ⟨htypes, hroot, -⟩ := get?_of_load hread hts
    obtain ⟨htypes', hroot', -⟩ := get?_of_load hread' hts'
    obtain ⟨t, t', ht, hsame, hget⟩ := h.exists_types honce hplace htypes
    have hget' (name : String) : ts'.get? name = if name = type then some t' else ts.get? name :=
      Except.ok.inj ((htypes' name).symm.trans (hget name))
    refine ⟨⟨t, t', ht, (hget' type).trans (if_pos rfl), hsame⟩, fun name hne => ?_, ?_⟩
    · rw [hget', if_neg hne]
    · rw [hroot, hroot', h.schemas]
  · intro hnew hbehind
    cases hload : load sdl with
    | error e => exact ⟨e, rfl⟩
    | ok ts =>
      have htype := (get?_of_load hread hload).1 type
      rw [builtIn?, if_neg hnew] at htype
      exact absurd (definedFirst_of_typeOf honce htype) hbehind

instance (type : String) (ds ds' : List Declaration) : Decidable (Reordered type ds ds') :=
  decidable_of_iff
    (((declarationsOf type ds).map TypeDeclaration.unplaced).Perm
        ((declarationsOf type ds').map TypeDeclaration.unplaced) ∧
      ((typesIn ds).filter fun d => d.name ≠ type).map TypeDeclaration.unplaced =
        ((typesIn ds').filter fun d => d.name ≠ type).map TypeDeclaration.unplaced ∧
      schemasIn ds = schemasIn ds')
    ⟨fun h => ⟨h.1, h.2.1, h.2.2⟩, fun h => ⟨h.own, h.others, h.schemas⟩⟩

instance (ds : List TypeDeclaration) : Decidable (DefinedOnce ds) :=
  inferInstanceAs (Decidable (_ = _))

instance (ds : List TypeDeclaration) : Decidable (DefinedFirst ds) :=
  decidable_of_iff (ds.head?.any (!·.isExtension) = true)
    (by simp [DefinedFirst, Option.any_eq_true])

/-- A definition with its two extensions behind it, in both orders, and a definition behind an
    extension. -/
theorem load_of_reordered_keyed :
    let first := "type Query \x7b t: T \x7d type T \x7b a: Int \x7d
      extend type T @key(fields: \"b\") \x7b b: Int \x7d extend type T \x7b c: Int \x7d"
    let second := "type T \x7b a: Int \x7d extend type T \x7b c: Int \x7d
      type Query \x7b t: T \x7d extend type T @key(fields: \"b\") \x7b b: Int \x7d"
    let behind := "extend type T \x7b c: Int \x7d type T \x7b a: Int \x7d type Query \x7b t: T \x7d"
    (∃ ts ts' t t', load first = .ok ts ∧ load second = .ok ts' ∧ ts.get? "T" = some t ∧
        ts'.get? "T" = some t' ∧ t.SameParts t' ∧ t.fields.map (·.name) = ["a", "b", "c"] ∧
        t'.fields.map (·.name) = ["a", "c", "b"]) ∧
      ∃ e, load behind = .error e := by
  intro first second behind
  let field (name type : String) : FieldDeclaration := ⟨name, none, .named type, []⟩
  let root : TypeDeclaration := ⟨false, none, "Query", [], .object [] [field "t" "T"]⟩
  let definition : TypeDeclaration := ⟨false, none, "T", [], .object [] [field "a" "Int"]⟩
  let further : TypeDeclaration := ⟨true, none, "T", [], .object [] [field "c" "Int"]⟩
  let keyed (column : Nat) : TypeDeclaration := ⟨true, none, "T",
    [⟨⟨2, column⟩, ⟨"key", ⟨2, column + 1⟩⟩,
      [⟨⟨"fields", ⟨2, column + 5⟩⟩, ⟨.string "b", ⟨2, column + 13⟩⟩⟩]⟩],
    .object [] [field "b" "Int"]⟩
  have hfirst : readAll first =
      .ok [.type root, .type definition, .type (keyed 21), .type further] :=
    Outcome.toOption_eq_some.1 (by decide +kernel)
  have hsecond : readAll second =
      .ok [.type definition, .type further, .type root, .type (keyed 41)] :=
    Outcome.toOption_eq_some.1 (by decide +kernel)
  have hbehind : readAll behind = .ok [.type further, .type definition, .type root] :=
    Outcome.toOption_eq_some.1 (by decide +kernel)
  obtain ⟨hloads, -⟩ :=
    load_of_reordered "T" hfirst hsecond (by decide +kernel) (by decide +kernel)
  obtain ⟨-, hfails⟩ :=
    load_of_reordered "T" hbehind hbehind (by decide +kernel) (by decide +kernel)
  obtain ⟨hiff, hsame⟩ := hloads (.inr (by decide +kernel))
  obtain ⟨ts, hts⟩ : ∃ ts, load first = .ok ts := Outcome.isSome_toOption.1 (by decide +kernel)
  obtain ⟨ts', hts'⟩ := hiff.1 ⟨ts, hts⟩
  obtain ⟨⟨t, t', ht, ht', hparts⟩, -⟩ := hsame ts ts' hts hts'
  have hfields (text : String) (names : List String) {ts : TypeSystem} {t : SourceType}
      (h : ((load text).toOption.bind fun ts => (ts.get? "T").map fun t => t.fields.map (·.name)) =
        some names) (hts : load text = .ok ts) (ht : ts.get? "T" = some t) :
      t.fields.map (·.name) = names := by
    rw [hts] at h
    simpa [Except.toOption, ht] using h
  refine ⟨⟨ts, ts', t, t', hts, hts', ht, ht', hparts, ?_, ?_⟩, hfails (by decide)
    (by decide +kernel)⟩
  · exact hfields first _ (by decide +kernel) hts ht
  · exact hfields second _ (by decide +kernel) hts' ht'

end TypeSystem

end EntityGraph
