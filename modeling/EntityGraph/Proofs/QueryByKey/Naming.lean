import Mathlib
import EntityGraph.Proofs.QueryByKey

/-!
# Names of generated types

A type is generated for every nested selection of a key. Its name is the path to the selection, the
word `Input` and the next suffix, whatever the declared types are called. So the names of the
generated types can be told from the keys alone, in the order in which the types are generated, with
those of a nested selection in front of its own: `Generating.Names` says that a step draws one suffix
for each of these paths, and names a type after each.

* `names_addKeyFields`: adding query fields names types after the paths of the keys;
* `Suffixes.nodup_namesFrom_counting`: counting suffixes make the names of generated types differ
  from each other.
-/

namespace EntityGraph

/-! ### Paths -/

mutual

/-- The paths of a selection and of those nested in it, `path` leading to the type it is made on. -/
def nestedPaths (path : String) : Selection → List String
  | .mk _ [] => []
  | .mk name (c :: cs) =>
    allNestedPaths (path ++ upperFirst name) (c :: cs) ++ [path ++ upperFirst name]

def allNestedPaths (path : String) : List Selection → List String
  | [] => []
  | s :: rest => nestedPaths path s ++ allNestedPaths path rest

end

/-- The paths of all nested selections of a key. -/
def keyPaths (k : String × KeyDeclaration) : List String := allNestedPaths k.1 k.2.selection

namespace Suffixes

/-- The name of the type generated for a path with the suffix of a number. -/
def name (suffixes : Suffixes) (number : Nat) (path : String) : String :=
  path ++ inputInfix ++ suffixes.nth number

/-- The names of types generated for paths, the first with the suffix of this number. -/
def namesFrom (suffixes : Suffixes) (first : Nat) (paths : List String) : List String :=
  paths.mapIdx fun i path => path ++ inputInfix ++ suffixes.nth (first + i)

theorem namesFrom_append (suffixes : Suffixes) (first : Nat) (paths more : List String) :
    suffixes.namesFrom first (paths ++ more) =
      suffixes.namesFrom first paths ++ suffixes.namesFrom (first + paths.length) more := by
  rw [namesFrom, namesFrom, namesFrom, List.mapIdx_append]
  congr 1
  refine congrArg (fun f => List.mapIdx f more) (funext fun i => ?_)
  rw [Nat.add_assoc, Nat.add_comm paths.length]

/-- Every generated name has a letter which is in the word between path and suffix. -/
theorem mem_toList_of_mem_namesFrom {suffixes : Suffixes} {first : Nat} {paths : List String}
    {name : String} (h : name ∈ suffixes.namesFrom first paths) : 'p' ∈ name.toList := by
  obtain ⟨i, -, rfl⟩ := List.mem_mapIdx.1 h
  rw [String.toList_append, String.toList_append]
  exact List.mem_append_left _ (List.mem_append_right _ (by decide))

/-- The digits a name ends in are those of its suffix. -/
theorem takeWhile_isDigit_counting (path : String) (n : Nat) :
    (path ++ inputInfix ++ counting.nth n).toList.reverse.takeWhile Char.isDigit =
      (Nat.toDigits 10 n).reverse := by
  have hsuffix : (counting.nth n).toList = Nat.toDigits 10 n := String.toList_ofList
  rw [String.toList_append, String.toList_append, hsuffix, List.reverse_append,
    List.takeWhile_append_of_pos, List.reverse_append]
  · exact List.append_nil _
  · intro c hc
    exact Nat.isDigit_of_mem_toDigits (by decide) (by decide) (List.mem_reverse.1 hc)

/-- A name with a counting suffix tells the number of the suffix, whatever the path is. -/
theorem eq_of_name_counting_eq {path path' : String} {n n' : Nat}
    (h : counting.name n path = counting.name n' path') : n = n' := by
  have hdigits := congrArg (fun name => name.toList.reverse.takeWhile Char.isDigit) h
  simp only [name, takeWhile_isDigit_counting, List.reverse_inj] at hdigits
  have hnumbers := congrArg (fun digits => Nat.ofDigitChars 10 digits 0) hdigits
  simpa only [Nat.ofDigitChars_ten_toDigits] using hnumbers

/-- Counting suffixes make names differ, whatever the paths are. -/
theorem nodup_namesFrom_counting (first : Nat) (paths : List String) :
    (counting.namesFrom first paths).Nodup := by
  rw [List.Nodup, List.pairwise_iff_getElem]
  intro i j hi hj hlt heq
  simp only [namesFrom, List.getElem_mapIdx] at heq
  have hnumbers := eq_of_name_counting_eq heq
  omega

end Suffixes

namespace Generating

variable {α β : Type} {suffixes : Suffixes} {paths more : List String}

/-- If the step gets through it has drawn a suffix for each path, and generated a type which is named
    after both. -/
def Names (suffixes : Suffixes) (x : Generating α) (paths : List String) : Prop :=
  ∀ g a g', (x.run g : Except BuildFailure α × Generation) = (.ok a, g') →
    g'.drawn = g.drawn + paths.length ∧ g'.generated.map (·.name) =
      g.generated.map (·.name) ++ suffixes.namesFrom g.drawn paths

/-- Nothing is drawn and generated. -/
theorem names_nil {x : Generating α} (h : ∀ g a g',
    (x.run g : Except BuildFailure α × Generation) = (.ok a, g') →
      g'.drawn = g.drawn ∧ g'.generated = g.generated) : Names suffixes x [] := by
  intro g a g' hrun
  obtain ⟨hdrawn, hgenerated⟩ := h g a g' hrun
  exact ⟨hdrawn, by rw [hgenerated]; exact (List.append_nil _).symm⟩

/-- A step without generated types. -/
theorem names_mk (e : Except BuildFailure α) :
    Names suffixes (ExceptT.mk (pure e) : Generating α) [] :=
  names_nil fun _ _ _ hrun => ⟨congrArg _ (congrArg Prod.snd hrun).symm,
    congrArg _ (congrArg Prod.snd hrun).symm⟩

theorem names_pure (a : α) : Names suffixes (pure a) [] := names_mk (.ok a)

theorem names_lift (e : Except BuildError α) : Names suffixes (lift e) [] := by
  cases e with
  | ok a => exact names_pure a
  | error fault => exact names_mk (.error (.error fault))

theorem names_log (source : LogSource) (level : LogLevel) (message : String) :
    Names suffixes (log source level message) [] := by
  refine names_nil fun g a g' hrun => ?_
  obtain rfl := congrArg Prod.snd hrun
  exact ⟨rfl, rfl⟩

/-- A step which fails may have named anything. -/
theorem names_throw (failure : BuildFailure) :
    Names suffixes (throw failure : Generating α) paths :=
  fun _ _ _ hrun => nomatch congrArg Prod.fst hrun

theorem names_fail (e : BuildError) : Names suffixes (fail e : Generating α) paths :=
  names_throw (.error e)

theorem names_throw_bind (failure : BuildFailure) (f : α → Generating β) :
    Names suffixes (throw failure >>= f) paths :=
  fun _ _ _ hrun => nomatch congrArg Prod.fst hrun

theorem names_fail_bind (e : BuildError) (f : α → Generating β) :
    Names suffixes (fail e >>= f) paths :=
  names_throw_bind (.error e) f

theorem run_bind_eq_ok {x : Generating α} {f : α → Generating β} {g g' : Generation} {b : β}
    (h : ((x >>= f).run g : Except BuildFailure β × Generation) = (.ok b, g')) :
    ∃ a next, (x.run g : Except BuildFailure α × Generation) = (.ok a, next) ∧
      ((f a).run next : Except BuildFailure β × Generation) = (.ok b, g') := by
  rw [run_bind] at h
  split at h
  · next a next hx => exact ⟨a, next, hx, h⟩
  · cases h

theorem run_bind_eq_error {x : Generating α} {f : α → Generating β} {g g' : Generation}
    {failure : BuildFailure}
    (h : ((x >>= f).run g : Except BuildFailure β × Generation) = (.error failure, g')) :
    (x.run g : Except BuildFailure α × Generation) = (.error failure, g') ∨
      ∃ a next, (x.run g : Except BuildFailure α × Generation) = (.ok a, next) ∧
        ((f a).run next : Except BuildFailure β × Generation) = (.error failure, g') := by
  rw [run_bind] at h
  split at h
  · next a next hx => exact .inr ⟨a, next, hx, h⟩
  · next failure' next hx =>
    cases h
    exact .inl hx

theorem Names.bind {x : Generating α} {f : α → Generating β} (hx : Names suffixes x paths)
    (hf : ∀ a, Names suffixes (f a) more) : Names suffixes (x >>= f) (paths ++ more) := by
  intro g b g' hrun
  obtain ⟨a, next, hfirst, hrest⟩ := run_bind_eq_ok hrun
  obtain ⟨hdrawn, hnames⟩ := hx g a next hfirst
  obtain ⟨hdrawn', hnames'⟩ := hf a next b g' hrest
  refine ⟨by rw [hdrawn', hdrawn, List.length_append, Nat.add_assoc], ?_⟩
  rw [hnames', hnames, hdrawn, Suffixes.namesFrom_append, List.append_assoc]

theorem Names.bind_nil {x : Generating α} {f : α → Generating β} (hx : Names suffixes x [])
    (hf : ∀ a, Names suffixes (f a) more) : Names suffixes (x >>= f) more :=
  hx.bind hf

/-- Drawing a suffix, and generating a type which is named after the path and the suffix. -/
theorem names_nextSuffix_bind (path : String) (fields : List InputValue) {f : String → Generating α}
    (hf : ∀ suffix g a g', ((f suffix).run g : Except BuildFailure α × Generation) = (.ok a, g') →
      g'.drawn = g.drawn ∧ g'.generated = g.generated ++ [⟨path ++ inputInfix ++ suffix, fields⟩]) :
    Names suffixes (nextSuffix suffixes >>= f) [path] := by
  intro g a g' hrun
  obtain ⟨suffix, next, hsuffix, hrest⟩ := run_bind_eq_ok hrun
  cases hsuffix
  obtain ⟨hdrawn, hgenerated⟩ := hf _ _ _ _ hrest
  refine ⟨hdrawn, ?_⟩
  rw [hgenerated, List.map_append]
  rfl

/-- Steps behind each other name types after the paths of all of them. -/
theorem names_mapM {f : α → Generating β} {pathsOf : α → List String} (items : List α)
    (h : ∀ item, Names suffixes (f item) (pathsOf item)) :
    Names suffixes (items.mapM f) (items.flatMap pathsOf) := by
  induction items with
  | nil => exact names_pure []
  | cons item rest ih =>
    rw [List.mapM_cons, List.flatMap_cons]
    refine (h item).bind fun first => ?_
    rw [← List.append_nil (rest.flatMap pathsOf)]
    exact ih.bind fun others => names_pure (first :: others)

/-- Every item has its result. -/
theorem length_of_mapM {f : α → Generating β} {items : List α} {results : List β}
    {g g' : Generation} (h : ((items.mapM f).run g : Except BuildFailure (List β) × Generation) =
      (.ok results, g')) : results.length = items.length := by
  induction items generalizing g results with
  | nil =>
    cases h
    rfl
  | cons item rest ih =>
    rw [List.mapM_cons] at h
    obtain ⟨first, next, -, h⟩ := run_bind_eq_ok h
    obtain ⟨others, last, hothers, h⟩ := run_bind_eq_ok h
    cases h
    rw [List.length_cons, List.length_cons, ih hothers]

end Generating

/-! ### Arguments and fields -/

section

open Generating

variable {δ : Type} {ts : TypeSystem} {map : TypeMap δ} {suffixes : Suffixes}

mutual

theorem names_argumentOf : ∀ (s : Selection) (t : SourceType) (path : String),
    Names suffixes (argumentOf ts map suffixes t path s) (nestedPaths path s)
  | .mk name children, t, path => by
    rw [argumentOf]
    cases t.field? name with
    | none => exact names_fail _
    | some field =>
      cases children with
      | nil =>
        rw [nestedPaths]
        refine (names_lift _).bind_nil fun type => ?_
        split
        · exact names_fail_bind _ _
        · exact names_pure _
      | cons c cs =>
        simp only
        cases ts.get? field.type.core with
        | none => exact names_fail _
        | some inner =>
          rw [nestedPaths]
          -- The types below are generated before the suffix of their parent is drawn.
          refine (names_argumentsOf (c :: cs) inner _).bind fun fields => ?_
          refine names_nextSuffix_bind _ fields fun suffix g argument g' hrun => ?_
          split at hrun
          · cases congrArg Prod.fst hrun
          · cases hrun
            exact ⟨rfl, rfl⟩

/-- Arguments are generated with types for all nested selections. -/
theorem names_argumentsOf : ∀ (tree : List Selection) (t : SourceType) (path : String),
    Names suffixes (argumentsOf ts map suffixes t path tree) (allNestedPaths path tree)
  | [], t, path => by
    rw [allNestedPaths]
    exact names_pure []
  | s :: rest, t, path => by
    rw [argumentsOf, allNestedPaths]
    refine (names_argumentOf s t path).bind fun first => ?_
    rw [← List.append_nil (allNestedPaths path rest)]
    exact (names_argumentsOf rest t path).bind fun others => names_pure _

end

theorem names_keyArguments (type : String) (selection : SelectionTree) :
    Names suffixes (keyArguments ts map suffixes type selection)
      (allNestedPaths type selection) := by
  rw [keyArguments]
  cases ts.get? type with
  | none => exact names_fail _
  | some t => exact names_argumentsOf selection t type

theorem names_addKeyField (fields : List ObjectField) (k : String × KeyDeclaration) :
    Names suffixes (addKeyField ts map suffixes fields k.1 k.2) (keyPaths k) := by
  rw [addKeyField]
  simp only
  split
  · exact names_fail_bind _ _
  · rw [← List.append_nil (keyPaths k)]
    refine (names_keyArguments k.1 k.2.selection).bind fun arguments => ?_
    exact (names_log _ _ _).bind_nil fun _ => names_pure _

theorem names_addKeyFieldsOf (keys : List (String × KeyDeclaration)) (fields : List ObjectField) :
    Names suffixes (addKeyFieldsOf ts map suffixes fields keys) (keys.flatMap keyPaths) := by
  induction keys generalizing fields with
  | nil => exact names_pure fields
  | cons k rest ih =>
    obtain ⟨type, key⟩ := k
    rw [addKeyFieldsOf_cons, List.flatMap_cons]
    exact (names_addKeyField fields (type, key)).bind ih

/-- Adding the query fields names types after the paths of all keys. -/
theorem names_addKeyFields (fields : List ObjectField) :
    Names suffixes (addKeyFields ts map suffixes fields) (ts.queryKeys.flatMap keyPaths) :=
  names_addKeyFieldsOf ts.queryKeys fields

end

end EntityGraph
