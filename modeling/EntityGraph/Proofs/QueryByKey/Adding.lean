import Mathlib
import EntityGraph.Proofs.QueryByKey.Shapes

/-!
# Adding query fields in order

Query fields are added key by key. A key is looked at next to the fields which are there by then,
those of the keys before it included. If one of them has its name it is refused, and nothing is
generated for it; if not, its arguments are generated, and it is refused if this fails. Adding ends
with the first key which is refused. Which key this is can be told without a run (`Addable`), as a
key has arguments from everywhere or from nowhere (`keyAccepted_iff`).

* `run_addKeyField_of_taken`, `run_addKeyField_of_free`: what becomes of one key;
* `AddsFields`: a run along keys of which none is refused;
* `adds_or_refuses_queryKeys`: adding the query fields of a type system, to its end or up to the
  first key which is refused.
-/

namespace EntityGraph

/-- The query field for a key, with these arguments. -/
def keyField (k : String × KeyDeclaration) (arguments : List InputValue) : ObjectField :=
  ⟨⟨keyFieldName k, none, .named k.1, .object, arguments⟩, .byKey k.1⟩

@[simp] theorem keyField_name (k : String × KeyDeclaration) (arguments : List InputValue) :
    (keyField k arguments).name = keyFieldName k := rfl

/-- What was generated, with the record of a query field which is added for a key. -/
def Generation.recordKey (g : Generation) (k : String × KeyDeclaration) : Generation :=
  { g with
    records := g.records ++ [LogSource.queryByKey.record .debug
      s!"Add query field {keyFieldName k} for key \"{k.2.fields}\" of {k.1}"] }

section

variable {δ : Type} (ts : TypeSystem) (map : TypeMap δ)

/-- The key has arguments, whatever was generated before and whichever suffixes are drawn. -/
def KeyAccepted (k : String × KeyDeclaration) : Prop :=
  ∀ suffixes g, ∃ arguments,
    ((keyArguments ts map suffixes k.1 k.2.selection).run g).1 = .ok arguments

/-- Query fields can be added for all of the keys: none has the name of a field which is there, no
    two have one name, and every one has arguments. -/
structure Addable (fields : List ObjectField) (keys : List (String × KeyDeclaration)) : Prop where
  free : ∀ k ∈ keys, keyFieldName k ∉ fields.map ObjectField.name
  distinct : (keys.map keyFieldName).Nodup
  accepted : ∀ k ∈ keys, KeyAccepted ts map k

variable (suffixes : Suffixes)

/-- Next to some fields, a query field is added for each of the keys, in order. The arguments of
    each are generated from what was there before; what is there with the last one comes last. -/
inductive AddsFields : List ObjectField → List (String × KeyDeclaration) → List ObjectField →
    Generation → Generation → Prop
  | nil {fields : List ObjectField} {g : Generation} : AddsFields fields [] [] g g
  | cons {fields added : List ObjectField} {k : String × KeyDeclaration}
      {rest : List (String × KeyDeclaration)} {arguments : List InputValue} {g next g' : Generation}
      (hfree : keyFieldName k ∉ fields.map ObjectField.name)
      (harguments : ((keyArguments ts map suffixes k.1 k.2.selection).run g :
        Except BuildFailure (List InputValue) × Generation) = (.ok arguments, next))
      (hrest : AddsFields (fields ++ [keyField k arguments]) rest added (next.recordKey k) g') :
      AddsFields fields (k :: rest) (keyField k arguments :: added) g g'

/-- Next to some fields a key is refused, for a name which is taken or else for its arguments. -/
inductive Refuses (fields : List ObjectField) (k : String × KeyDeclaration) (g : Generation) :
    BuildFailure → Generation → Prop
  | taken (htaken : keyFieldName k ∈ fields.map ObjectField.name) :
      Refuses fields k g (.error (.queryFieldExists (keyFieldName k))) g
  | arguments {failure : BuildFailure} {g' : Generation}
      (hfree : keyFieldName k ∉ fields.map ObjectField.name)
      (hfails : ((keyArguments ts map suffixes k.1 k.2.selection).run g :
        Except BuildFailure (List InputValue) × Generation) = (.error failure, g')) :
      Refuses fields k g failure g'

end

section

variable {δ : Type} {ts : TypeSystem} {map : TypeMap δ} {suffixes : Suffixes}
  {fields added : List ObjectField} {k : String × KeyDeclaration}
  {keys rest : List (String × KeyDeclaration)} {g g' : Generation}

/-! ### One key -/

/-- A key has arguments from everywhere or from nowhere. -/
theorem keyAccepted_iff : KeyAccepted ts map k ↔ ∃ suffixes g arguments,
    ((keyArguments ts map suffixes k.1 k.2.selection).run g).1 = .ok arguments := by
  refine ⟨fun h => ⟨.counting, .empty, h .counting .empty⟩, ?_⟩
  rintro ⟨suffixes, g, arguments, hrun⟩ suffixes' start
  have hfollows : Generating.Follows (keyArguments ts map suffixes k.1 k.2.selection) _ _ :=
    follows_keyArguments k.1 k.2.selection
  -- The shapes of the arguments do not depend on the suffixes.
  obtain ⟨shapes, -, hshapes, -⟩ := hfollows.exists_of_run (Prod.ext hrun rfl)
  have hfollows' : Generating.Follows (keyArguments ts map suffixes' k.1 k.2.selection) _ _ :=
    follows_keyArguments k.1 k.2.selection
  rw [hshapes] at hfollows'
  obtain ⟨arguments, -, g', hstart, -⟩ := hfollows' start
  exact ⟨arguments, congrArg Prod.fst hstart⟩

theorem keyAccepted_of_run {arguments : List InputValue}
    (h : ((keyArguments ts map suffixes k.1 k.2.selection).run g :
      Except BuildFailure (List InputValue) × Generation) = (.ok arguments, g')) :
    KeyAccepted ts map k :=
  keyAccepted_iff.2 ⟨suffixes, g, arguments, congrArg Prod.fst h⟩

/-- A name which is taken is told before anything is generated. -/
theorem run_addKeyField_of_taken (h : keyFieldName k ∈ fields.map ObjectField.name)
    (g : Generation) : ((addKeyField ts map suffixes fields k.1 k.2).run g :
      Except BuildFailure (List ObjectField) × Generation) =
        (.error (.error (.queryFieldExists (keyFieldName k))), g) := by
  rw [addKeyField]
  simp only [ObjectField.declared_eq_true]
  rw [keyFieldName] at h ⊢
  rw [if_pos h]
  rfl

/-- Under a name of its own a key gets a field if it has arguments. -/
theorem run_addKeyField_of_free (h : keyFieldName k ∉ fields.map ObjectField.name)
    (g : Generation) : ((addKeyField ts map suffixes fields k.1 k.2).run g :
      Except BuildFailure (List ObjectField) × Generation) =
        match ((keyArguments ts map suffixes k.1 k.2.selection).run g :
          Except BuildFailure (List InputValue) × Generation) with
        | (.ok arguments, g') => (.ok (fields ++ [keyField k arguments]), g'.recordKey k)
        | (.error failure, g') => (.error failure, g') := by
  rw [addKeyField]
  simp only [ObjectField.declared_eq_true]
  rw [keyFieldName] at h
  rw [if_neg h, Generating.run_bind]
  rcases (keyArguments ts map suffixes k.1 k.2.selection).run g with ⟨_ | _, _⟩ <;> rfl

/-- A key which has arguments is refused for its name only. -/
theorem KeyAccepted.failure_eq (h : KeyAccepted ts map k) {failure : BuildFailure}
    (hfails : ((addKeyField ts map suffixes fields k.1 k.2).run g).1 = .error failure) :
    failure = .error (.queryFieldExists (keyFieldName k)) := by
  by_cases htaken : keyFieldName k ∈ fields.map ObjectField.name
  · rw [run_addKeyField_of_taken htaken] at hfails
    exact (Except.error.inj hfails).symm
  · obtain ⟨arguments, harguments⟩ := h suffixes g
    rw [run_addKeyField_of_free htaken] at hfails
    split at hfails
    · cases hfails
    · next hrun => cases (congrArg Prod.fst hrun).symm.trans harguments

/-! ### Keys in order -/

theorem addKeyFieldsFrom_cons : addKeyFieldsFrom ts map suffixes fields (k :: rest) g =
    match ((addKeyField ts map suffixes fields k.1 k.2).run g :
      Except BuildFailure (List ObjectField) × Generation) with
    | (.ok fields, g) => addKeyFieldsFrom ts map suffixes fields rest g
    | (.error failure, g) => ((fields, .error failure), g) := rfl

theorem AddsFields.map_name (h : AddsFields ts map suffixes fields keys added g g') :
    added.map ObjectField.name = keys.map keyFieldName := by
  induction h with
  | nil => rfl
  | cons _ _ _ ih => rw [List.map_cons, List.map_cons, keyField_name, ih]

theorem addable_nil : Addable ts map fields [] where
  free _ h := nomatch h
  distinct := List.nodup_nil
  accepted _ h := nomatch h

/-- Behind the first key come the others, for which its name is taken as well. -/
theorem addable_cons (arguments : List InputValue) : Addable ts map fields (k :: rest) ↔
    keyFieldName k ∉ fields.map ObjectField.name ∧ KeyAccepted ts map k ∧
      Addable ts map (fields ++ [keyField k arguments]) rest := by
  have hfree : (∀ other ∈ rest, keyFieldName other ∉
      (fields ++ [keyField k arguments]).map ObjectField.name) ↔
        (∀ other ∈ rest, keyFieldName other ∉ fields.map ObjectField.name) ∧
          keyFieldName k ∉ rest.map keyFieldName := by
    simp only [List.map_append, List.map_singleton, keyField_name, List.mem_append,
      List.mem_singleton, List.mem_map, not_or, not_exists, not_and]
    grind
  constructor
  · rintro ⟨hnames, hdistinct, haccepted⟩
    rw [List.map_cons, List.nodup_cons] at hdistinct
    rw [List.forall_mem_cons] at hnames haccepted
    exact ⟨hnames.1, haccepted.1, hfree.2 ⟨hnames.2, hdistinct.1⟩, hdistinct.2, haccepted.2⟩
  · rintro ⟨hname, hkey, hnames, hdistinct, haccepted⟩
    obtain ⟨hnames, hother⟩ := hfree.1 hnames
    exact ⟨List.forall_mem_cons.2 ⟨hname, hnames⟩, List.nodup_cons.2 ⟨hother, hdistinct⟩,
      List.forall_mem_cons.2 ⟨hkey, haccepted⟩⟩

theorem Addable.of_append (h : Addable ts map fields (keys ++ rest)) :
    Addable ts map fields keys where
  free k hk := h.free k (List.mem_append_left rest hk)
  distinct := List.Nodup.of_append_left (List.map_append ▸ h.distinct)
  accepted k hk := h.accepted k (List.mem_append_left rest hk)

theorem AddsFields.addable (h : AddsFields ts map suffixes fields keys added g g') :
    Addable ts map fields keys := by
  induction h with
  | nil => exact addable_nil
  | cons hfree harguments _ ih =>
    exact (addable_cons _).2 ⟨hfree, keyAccepted_of_run harguments, ih⟩

/-- With the fields which are added, names are as distinct as before. -/
theorem AddsFields.nodup (h : AddsFields ts map suffixes fields keys added g g')
    (hfields : (fields.map ObjectField.name).Nodup) :
    ((fields ++ added).map ObjectField.name).Nodup := by
  rw [List.map_append, h.map_name]
  exact (nodup_append_keyFieldNames h.addable.distinct h.addable.free).2 hfields

/-- A key which is refused next to the fields added for others can not be added with these. -/
theorem Refuses.not_addable {failure : BuildFailure} {next : Generation}
    (h : Refuses ts map suffixes (fields ++ added) k next failure g')
    (hadds : AddsFields ts map suffixes fields keys added g next) :
    ¬ Addable ts map fields (keys ++ [k]) := by
  rintro ⟨hfree, hdistinct, haccepted⟩
  have hk : k ∈ keys ++ [k] := List.mem_append_right _ (List.mem_singleton_self k)
  cases h with
  | taken htaken =>
    rw [List.map_append, List.mem_append, hadds.map_name] at htaken
    rcases htaken with htaken | htaken
    · exact hfree k hk htaken
    · rw [List.map_append, List.map_singleton, List.nodup_append] at hdistinct
      exact hdistinct.2.2 _ htaken _ (List.mem_singleton_self _) rfl
  | arguments _ hfails =>
    obtain ⟨arguments, harguments⟩ := haccepted k hk suffixes next
    cases (congrArg Prod.fst hfails).symm.trans harguments

/-- Adding goes along the keys to their end, or up to the first one which is refused. -/
theorem adds_or_refuses (keys : List (String × KeyDeclaration)) (fields : List ObjectField)
    (g : Generation) :
    (∃ added g', AddsFields ts map suffixes fields keys added g g' ∧
      addKeyFieldsFrom ts map suffixes fields keys g = ((fields ++ added, .ok ()), g')) ∨
    ∃ before k behind added next failure g', keys = before ++ k :: behind ∧
      AddsFields ts map suffixes fields before added g next ∧
      Refuses ts map suffixes (fields ++ added) k next failure g' ∧
      addKeyFieldsFrom ts map suffixes fields keys g =
        ((fields ++ added, .error failure), g') := by
  induction keys generalizing fields g with
  | nil => exact .inl ⟨[], g, .nil, by rw [addKeyFieldsFrom, List.append_nil]⟩
  | cons k rest ih =>
    rw [addKeyFieldsFrom_cons]
    by_cases htaken : keyFieldName k ∈ fields.map ObjectField.name
    · rw [run_addKeyField_of_taken htaken]
      refine .inr ⟨[], k, rest, [], g, _, g, rfl, .nil, .taken ?_, ?_⟩ <;> rw [List.append_nil]
      exact htaken
    · rw [run_addKeyField_of_free htaken]
      generalize hrun : ((keyArguments ts map suffixes k.1 k.2.selection).run g :
        Except BuildFailure (List InputValue) × Generation) = result
      obtain ⟨failure | arguments, next⟩ := result
      · refine .inr ⟨[], k, rest, [], g, failure, next, rfl, .nil, .arguments ?_ hrun, ?_⟩ <;>
          rw [List.append_nil]
        exact htaken
      · -- The others are added next to the field of this key.
        rcases ih (fields ++ [keyField k arguments]) (next.recordKey k) with
          ⟨added, g', hadds, hrest⟩ |
          ⟨before, other, behind, added, last, failure, g', rfl, hadds, hrefuses, hrest⟩
        · rw [← List.append_cons] at hrest
          exact .inl ⟨_, g', .cons htaken hrun hadds, hrest⟩
        · rw [← List.append_cons] at hrest hrefuses
          exact .inr ⟨k :: before, other, behind, _, last, failure, g', rfl,
            .cons htaken hrun hadds, hrefuses, hrest⟩

end

/-- Adding the query fields of a type system keeps the given fields, and adds one field behind them
    for each key, in order. It gets through exactly if query fields can be added for all keys. If
    not, it stops at the first key which can not be added to those before it, and with the failure
    come the given fields and those added for the keys before; a name which is taken is told before
    the arguments are looked at. Names which were distinct are distinct in either case. -/
theorem adds_or_refuses_queryKeys {δ : Type} (ts : TypeSystem) (map : TypeMap δ)
    (suffixes : Suffixes) (fields : List ObjectField) (g : Generation) :
    ∃ added outcome g', addKeyFieldsFrom ts map suffixes fields ts.queryKeys g =
        ((fields ++ added, outcome), g') ∧
      ((fields.map ObjectField.name).Nodup → ((fields ++ added).map ObjectField.name).Nodup) ∧
      (outcome = .ok () ↔ Addable ts map fields ts.queryKeys) ∧
      (outcome = .ok () → AddsFields ts map suffixes fields ts.queryKeys added g g') ∧
      ∀ failure, outcome = .error failure →
        ∃ before k behind next, ts.queryKeys = before ++ k :: behind ∧
          Addable ts map fields before ∧
          ¬ Addable ts map fields (before ++ [k]) ∧
          AddsFields ts map suffixes fields before added g next ∧
          Refuses ts map suffixes (fields ++ added) k next failure g' := by
  rcases adds_or_refuses ts.queryKeys fields g with ⟨added, g', hadds, hrun⟩ |
    ⟨before, k, behind, added, next, failure, g', hkeys, hadds, hrefuses, hrun⟩
  · exact ⟨added, .ok (), g', hrun, hadds.nodup, iff_of_true rfl hadds.addable, fun _ => hadds,
      fun _ h => nomatch h⟩
  · refine ⟨added, .error failure, g', hrun, hadds.nodup, iff_of_false (fun h => nomatch h) ?_,
      fun h => (nomatch h), ?_⟩
    · rw [hkeys, List.append_cons]
      exact fun h => hrefuses.not_addable hadds h.of_append
    · rintro _ ⟨⟩
      exact ⟨before, k, behind, next, hkeys, hadds.addable, hrefuses.not_addable hadds, hadds,
        hrefuses⟩

/-- Keys of two types around the query root, whose own key gets no field. Of a key which is written
    twice the first one gets a field, and the key behind them is not looked at. -/
theorem adds_or_refuses_queryKeys_taken :
    let sdl := "type U @key(fields: \"c\") \x7b c: Int \x7d
      type Query @key(fields: \"v\") \x7b v: Int \x7d
      type T @key(fields: \"a\") @key(fields: \"a\") @key(fields: \"b\") \x7b a: Int b: Int \x7d"
    ∃ ts, TypeSystem.load sdl = .ok ts ∧
      ts.queryKeys.map (fun k => (k.1, k.2.fields)) =
        [("U", "c"), ("T", "a"), ("T", "a"), ("T", "b")] ∧
      let map : TypeMap Unit := TypeMap.ofTypeSystem ts []
      ∃ added g' before k behind, addKeyFieldsFrom ts map .counting [] ts.queryKeys .empty =
          ((added, .error (.error (.queryFieldExists "tByA"))), g') ∧
        added.map ObjectField.name = ["uByC", "tByA"] ∧
        ts.queryKeys = before ++ k :: behind ∧ before.map keyFieldName = ["uByC", "tByA"] ∧
        Addable ts map [] before ∧ ¬ Addable ts map [] (before ++ [k]) := by
  intro sdl
  have hfacts : ∃ ts ∈ (TypeSystem.load sdl).toOption,
      ts.queryKeys.map (fun k => (k.1, k.2.fields)) =
        [("U", "c"), ("T", "a"), ("T", "a"), ("T", "b")] ∧
      let run := addKeyFieldsFrom ts (TypeMap.ofTypeSystem ts [] : TypeMap Unit) .counting []
        ts.queryKeys .empty
      run.1.1.map ObjectField.name = ["uByC", "tByA"] ∧
      run.1.2 = .error (.error (.queryFieldExists "tByA")) := by
    decide +kernel
  obtain ⟨ts, hts, hkeys, hnames, hfails⟩ := hfacts
  rw [Option.mem_def, Outcome.toOption_eq_some] at hts
  obtain ⟨added, outcome, g', hrun, -, -, -, hrefused⟩ :=
    adds_or_refuses_queryKeys ts (TypeMap.ofTypeSystem ts [] : TypeMap Unit) .counting [] .empty
  rw [hrun] at hnames hfails
  obtain rfl := hfails
  obtain ⟨before, k, behind, next, hsplit, haddable, hnot, hadds, -⟩ := hrefused _ rfl
  exact ⟨ts, hts, hkeys, added, g', before, k, behind, hrun, hnames, hsplit,
    hadds.map_name.symm.trans hnames, haddable, hnot⟩

end EntityGraph
