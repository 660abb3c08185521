import Mathlib
import EntityGraph.Proofs.Generating
import EntityGraph.Proofs.KeyProjection.Known
import EntityGraph.Proofs.KeyProjection.Layers
import EntityGraph.Proofs.TypeMap

/-!
# Generated fields

Generating the arguments of a key walks its selection once more. The walk gets through only if
the selection can be resolved and no generated input type is given a field twice, that is if no
layer below the outermost one selects a field twice (`ends_keyArguments`).

Query fields are added type by type, and for each type key by key (`addKeyFields_eq_foldlM`), which
is the order of the list they are added along (`TypeSystem.listsKeys_iff`).
-/

namespace EntityGraph

/-! ### Repeated names -/

theorem firstRepeated?_go_eq_none {seen names : List String} :
    firstRepeated?.go seen names = none ↔ names.Nodup ∧ ∀ n ∈ names, n ∉ seen := by
  induction names generalizing seen with
  | nil => simp [firstRepeated?.go]
  | cons n rest ih =>
    rw [firstRepeated?.go]
    split
    · next h => exact iff_of_false (fun h => nomatch h) fun hn => hn.2 n List.mem_cons_self h
    · next h =>
      rw [ih, List.nodup_cons]
      simp only [List.mem_cons, not_or]
      grind

/-- No name is repeated if all names are distinct. -/
theorem firstRepeated?_eq_none {names : List String} :
    firstRepeated? names = none ↔ names.Nodup := by
  rw [firstRepeated?, firstRepeated?_go_eq_none]
  simp

/-! ### Arguments -/

/-- What stops the walk along a key: a field or a type which is missing, a leaf which can not be
    passed in, or a second field of a generated input type. -/
def BuildFailure.StopsWalk : BuildFailure → Prop
  | .error e => e.IsUnknown ∨ ∃ argument type, e = .notAnInputType argument type
  | .fieldTwice .. => True
  | .interfaceTwice .. => False

section

open Generating

variable {δ : Type} {ts : TypeSystem} {map : TypeMap δ} {suffixes : Suffixes}

/-- A reference is refused only for a type which is not declared. -/
theorem isUnknown_of_remapType {type : TypeRef} {e : BuildError}
    (h : map.remapType type = .error e) : e.IsUnknown := by
  rw [TypeMap.remapType_eq] at h
  split at h
  · cases h
  · obtain rfl := Except.error.inj h
    trivial

mutual

theorem ends_argumentOf : ∀ (s : Selection) {t : SourceType} {path : String},
    Ends (argumentOf ts map suffixes t path s)
      (fun argument => argument.name = s.name ∧ s.Below SelectionTree.EachOnce ∧ s.Known ts t)
      (fun failure => failure.StopsWalk ∧
        (s.Below SelectionTree.EachOnce → failure.IsError))
  | .mk name children, t, path => by
    rw [argumentOf, Selection.Known]
    split
    · exact ends_fail ⟨.inl trivial, fun _ => BuildFailure.isError_error _⟩
    · next field hfield =>
      simp only [hfield, Option.some.injEq, exists_eq_left']
      split
      · refine (ends_lift (P := fun _ => True) (fun _ _ => trivial) fun _ h =>
          ⟨.inl (isUnknown_of_remapType h), fun _ => BuildFailure.isError_error _⟩).bind
            fun type _ => ?_
        split
        · exact ends_fail_bind ⟨.inr ⟨_, _, rfl⟩, fun _ => BuildFailure.isError_error _⟩
        · exact ends_pure ⟨rfl, ⟨List.nodup_nil, trivial⟩, .inl rfl⟩
      · next c cs =>
        split
        · exact ends_fail ⟨.inl trivial, fun _ => BuildFailure.isError_error _⟩
        · next inner hinner =>
          refine ((ends_argumentsOf (c :: cs)).imp_fails fun _ ⟨hstops, h⟩ =>
            ⟨hstops, fun hbelow => h hbelow.2⟩).bind fun fields ⟨hnames, hbelow, hknown⟩ => ?_
          refine (ends_nextSuffix suffixes).bind fun suffix _ => ?_
          split
          · -- The arguments are named as the selected fields, so these name one twice.
            next twice htwice =>
            refine ends_throw_bind ⟨trivial, fun heach => absurd htwice ?_⟩
            rw [firstRepeated?_eq_none.2 (hnames ▸ heach.1)]
            simp
          · next hnone =>
            have hnodup : (fields.map (·.name)).Nodup :=
              firstRepeated?_eq_none.1 (Option.eq_none_iff_forall_ne_some.2 hnone)
            refine (ends_push hnodup).bind fun _ _ => ends_pure ⟨rfl,
              ⟨(congrArg List.Nodup hnames).mp hnodup, hbelow⟩, .inr ⟨inner, hinner, hknown⟩⟩

/-- The arguments for selected fields are named as these, in order. -/
theorem ends_argumentsOf : ∀ (tree : List Selection) {t : SourceType} {path : String},
    Ends (argumentsOf ts map suffixes t path tree)
      (fun arguments => arguments.map (·.name) = SelectionTree.names tree ∧
        Selection.AllBelow SelectionTree.EachOnce tree ∧ Selection.AllKnown ts t tree)
      (fun failure => failure.StopsWalk ∧
        (Selection.AllBelow SelectionTree.EachOnce tree → failure.IsError))
  | [], t, path => ends_pure ⟨rfl, trivial, trivial⟩
  | s :: rest, t, path => by
    rw [argumentsOf]
    refine ((ends_argumentOf s).imp_fails fun _ ⟨hstops, h⟩ =>
      ⟨hstops, fun heach => h heach.1⟩).bind fun first ⟨hname, hfirst, hknown⟩ => ?_
    refine ((ends_argumentsOf rest).imp_fails fun _ ⟨hstops, h⟩ =>
      ⟨hstops, fun heach => h heach.2⟩).bind fun arguments ⟨hnames, hrest, hallKnown⟩ => ?_
    refine ends_pure ⟨?_, ⟨hfirst, hrest⟩, ⟨hknown, hallKnown⟩⟩
    rw [List.map_cons, hname, hnames, SelectionTree.names, SelectionTree.names, List.map_cons]

end

/-- The walk along a key gets through: its selection can be resolved on the type, and no layer
    below the outermost one selects a field twice. -/
structure KeyDeclaration.Walkable (ts : TypeSystem) (type : String) (key : KeyDeclaration) :
    Prop where
  below : Selection.AllBelow SelectionTree.EachOnce key.selection
  resolves : ∃ projection, KeyProjection.ofSelection ts type key.selection = .ok projection

theorem ends_keyArguments (type : String) (key : KeyDeclaration) :
    Ends (keyArguments ts map suffixes type key.selection) (fun _ => key.Walkable ts type)
      (fun failure => failure.StopsWalk ∧
        (Selection.AllBelow SelectionTree.EachOnce key.selection → failure.IsError)) := by
  rw [keyArguments]
  split
  · exact ends_fail ⟨.inl trivial, fun _ => BuildFailure.isError_error _⟩
  · next t ht =>
    exact (ends_argumentsOf key.selection).imp_returns fun _ ⟨_, hbelow, hknown⟩ =>
      ⟨hbelow, KeyProjection.exists_ofSelection_iff.2 ⟨t, ht, hknown⟩⟩

/-! ### Query fields -/

theorem ObjectField.declared_eq_true {fields : List ObjectField} {name : String} :
    ObjectField.declared fields name = true ↔ name ∈ fields.map ObjectField.name := by
  simp [ObjectField.declared]

/-- With a field of a new name, names are as distinct as before. -/
theorem ObjectField.nodup_concat {fields : List ObjectField} {field : ObjectField}
    (hnew : ¬ ObjectField.declared fields field.name = true) :
    ((fields ++ [field]).map ObjectField.name).Nodup ↔
      (fields.map ObjectField.name).Nodup := by
  rw [ObjectField.declared_eq_true] at hnew
  rw [List.map_append, List.map_singleton, List.nodup_append_comm, List.singleton_append,
    List.nodup_cons]
  exact and_iff_right hnew

theorem ends_addKeyField (fields : List ObjectField) (type : String) (key : KeyDeclaration) :
    Ends (addKeyField ts map suffixes fields type key)
      (fun fields' => ((fields'.map ObjectField.name).Nodup ↔
        (fields.map ObjectField.name).Nodup) ∧ key.Walkable ts type)
      (fun failure => Selection.AllBelow SelectionTree.EachOnce key.selection →
        failure.IsError) := by
  rw [addKeyField]
  simp only
  split
  · exact ends_fail_bind fun _ => BuildFailure.isError_error _
  · next hnew =>
    refine ((ends_keyArguments type key).imp_fails fun _ h => h.2).bind
      fun arguments hkey => ?_
    refine (ends_log _ _ _).bind fun _ _ => ends_pure ⟨ObjectField.nodup_concat hnew, hkey⟩

/-- Adding a query field for each key of a list, as a step of building. -/
def addKeyFieldsOf (ts : TypeSystem) (map : TypeMap δ) (suffixes : Suffixes)
    (fields : List ObjectField) (keys : List (String × KeyDeclaration)) :
    Generating (List ObjectField) := fun g =>
  match addKeyFieldsFrom ts map suffixes fields keys g with
  | ((fields, .ok ()), g) => (.ok fields, g)
  | ((_, .error e), g) => (.error e, g)

theorem addKeyFieldsOf_cons (fields : List ObjectField) (type : String) (key : KeyDeclaration)
    (rest : List (String × KeyDeclaration)) :
    addKeyFieldsOf ts map suffixes fields ((type, key) :: rest) =
      (addKeyField ts map suffixes fields type key >>= fun fields =>
        addKeyFieldsOf ts map suffixes fields rest) := by
  funext g
  refine Eq.trans ?_ (run_bind _ _ g).symm
  rw [addKeyFieldsOf, addKeyFieldsFrom]
  rcases (addKeyField ts map suffixes fields type key).run g with ⟨_ | _, _⟩ <;> rfl

theorem ends_addKeyFieldsOf (keys : List (String × KeyDeclaration)) (fields : List ObjectField) :
    Ends (addKeyFieldsOf ts map suffixes fields keys)
      (fun fields' => ((fields'.map ObjectField.name).Nodup ↔
        (fields.map ObjectField.name).Nodup) ∧ ∀ k ∈ keys, k.2.Walkable ts k.1)
      (fun failure => (∀ k ∈ keys, Selection.AllBelow SelectionTree.EachOnce k.2.selection) →
        failure.IsError) := by
  induction keys generalizing fields with
  | nil => exact ends_pure ⟨Iff.rfl, fun _ h => nomatch h⟩
  | cons k rest ih =>
    obtain ⟨type, key⟩ := k
    rw [addKeyFieldsOf_cons]
    refine ((ends_addKeyField fields type key).imp_fails fun _ h hbelow =>
      h (hbelow _ List.mem_cons_self)).bind fun added ⟨hadded, hkey⟩ => ?_
    refine (ih added).imp (fun _ ⟨hnames, hrest⟩ => ⟨hnames.trans hadded, ?_⟩)
      fun _ h hbelow => h fun k hk => hbelow k (List.mem_cons_of_mem _ hk)
    exact List.forall_mem_cons.2 ⟨hkey, hrest⟩

/-- With the query fields, the names of the root are as distinct as before. Adding them gets
    through only if it gets through along every key. -/
theorem ends_addKeyFields (fields : List ObjectField) :
    Ends (addKeyFields ts map suffixes fields)
      (fun fields' => ((fields'.map ObjectField.name).Nodup ↔
        (fields.map ObjectField.name).Nodup) ∧ ∀ k ∈ ts.queryKeys, k.2.Walkable ts k.1)
      (fun failure =>
        (∀ k ∈ ts.queryKeys, Selection.AllBelow SelectionTree.EachOnce k.2.selection) →
          failure.IsError) :=
  ends_addKeyFieldsOf ts.queryKeys fields

/-- The keys with a query field are those of primary types, the query root apart. -/
theorem TypeSystem.mem_queryKeys {t : SourceType} {key : KeyDeclaration} (ht : t ∈ ts.types)
    (hprimary : ts.isPrimary t = true) (hroot : t.name ≠ ts.queryType) (hkey : key ∈ t.keys) :
    (t.name, key) ∈ ts.queryKeys := by
  rw [queryKeys, List.mem_flatMap]
  refine ⟨t, ht, ?_⟩
  rw [if_neg hroot, keysOf?, if_pos hprimary]
  exact List.mem_map_of_mem hkey

theorem TypeSystem.exists_of_mem_queryKeys {k : String × KeyDeclaration} (hk : k ∈ ts.queryKeys) :
    ∃ t ∈ ts.types, t.name = k.1 ∧ ts.isPrimary t = true ∧ t.name ≠ ts.queryType ∧
      k.2 ∈ t.keys := by
  rw [queryKeys, List.mem_flatMap] at hk
  obtain ⟨t, ht, hk⟩ := hk
  split at hk
  · cases hk
  · next hroot =>
    obtain ⟨key, hkey, rfl⟩ := List.mem_map.1 hk
    rw [keysOf?] at hkey
    split at hkey
    · next hprimary => exact ⟨t, ht, rfl, hprimary, hroot, hkey⟩
    · cases hkey

/-- The keys of types, type by type. Of a primary type other than the query root all keys come in
    the order of their declaration, of any other type none. -/
inductive TypeSystem.ListsKeys (ts : TypeSystem) :
    List SourceType → List (String × KeyDeclaration) → Prop
  | nil : ListsKeys ts [] []
  | without {t : SourceType} {types : List SourceType} {keys : List (String × KeyDeclaration)}
      (hnone : t.name = ts.queryType ∨ ts.isPrimary t = false) (hrest : ListsKeys ts types keys) :
      ListsKeys ts (t :: types) keys
  | keyed {t : SourceType} {types : List SourceType} {keys : List (String × KeyDeclaration)}
      (hroot : t.name ≠ ts.queryType) (hprimary : ts.isPrimary t = true)
      (hrest : ListsKeys ts types keys) :
      ListsKeys ts (t :: types) (t.keys.map (t.name, ·) ++ keys)

/-- Query fields come in the order of the types, and those of one type in the order of its keys. -/
theorem TypeSystem.listsKeys_iff {keys : List (String × KeyDeclaration)} :
    ts.ListsKeys ts.types keys ↔ keys = ts.queryKeys := by
  rw [queryKeys]
  generalize ts.types = types
  constructor
  · intro h
    induction h with
    | nil => rfl
    | without hnone _ ih =>
      rw [ih, List.flatMap_cons]
      rcases hnone with hroot | hprimary
      · rw [if_pos hroot, List.nil_append]
      · simp [keysOf?, hprimary]
    | keyed hroot hprimary _ ih =>
      rw [ih, List.flatMap_cons, if_neg hroot, keysOf?, if_pos hprimary, Option.getD_some]
  · rintro rfl
    induction types with
    | nil => exact .nil
    | cons t types ih =>
      rw [List.flatMap_cons]
      split_ifs with hroot
      · exact .without (.inl hroot) ih
      · rw [keysOf?]
        split_ifs with hprimary
        · exact .keyed hroot hprimary ih
        · exact .without (.inr (Bool.not_eq_true _ ▸ hprimary)) ih

theorem addKeyFieldsOf_eq_foldlM (keys : List (String × KeyDeclaration))
    (fields : List ObjectField) :
    addKeyFieldsOf ts map suffixes fields keys =
      keys.foldlM (fun fields k => addKeyField ts map suffixes fields k.1 k.2) fields := by
  induction keys generalizing fields with
  | nil => rfl
  | cons k rest ih =>
    rw [addKeyFieldsOf_cons, List.foldlM_cons]
    exact congrArg _ (funext ih)

/-- Adding query fields goes along the types, and for each of them along its keys. -/
theorem addKeyFields_eq_foldlM (fields : List ObjectField) :
    addKeyFields ts map suffixes fields = ts.types.foldlM (fun fields t =>
      if t.name = ts.queryType then return fields
      else ((ts.keysOf? t).getD []).foldlM (fun fields key =>
        addKeyField ts map suffixes fields t.name key) fields) fields := by
  change addKeyFieldsOf ts map suffixes fields ts.queryKeys = _
  rw [addKeyFieldsOf_eq_foldlM, TypeSystem.queryKeys]
  generalize ts.types = types
  induction types generalizing fields with
  | nil => rfl
  | cons t types ih =>
    rw [List.flatMap_cons, List.foldlM_append, List.foldlM_cons]
    have hfirst : List.foldlM (fun fields k => addKeyField ts map suffixes fields k.1 k.2) fields
        (if t.name = ts.queryType then []
          else ((ts.keysOf? t).getD []).map fun key => (t.name, key)) =
        if t.name = ts.queryType then return fields
        else ((ts.keysOf? t).getD []).foldlM (fun fields key =>
          addKeyField ts map suffixes fields t.name key) fields := by
      split
      · rfl
      · rw [List.foldlM_map]
    rw [hfirst]
    exact congrArg _ (funext ih)

end

end EntityGraph
