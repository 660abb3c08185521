import Mathlib
import EntityGraph.Proofs.QueryByKey.Filled

/-!
# Counted names

The name of a generated type is a path, the word `Input` and a suffix, in plain concatenation, and a
path may itself end in digits or in `Input`. With suffixes from a counter names differ all the same:
in front of the suffix stands a letter, so the digits a name ends in are the whole suffix, and no
number is drawn twice. A counter of 64 bits hands out the numerals in order as long as fewer than
2^64 are drawn (`Suffixes.IsCounter`).

* `Generation.Counted`: all names carry different numbers, which have been drawn;
* `nodup_names_of_isCounter`: adding query fields generates types of different names, and keeps the
  names counted, whether it gets to its end or not.
-/

namespace EntityGraph

/-- The suffixes are the decimal numerals in order, for as long as a counter of 64 bits lasts. -/
def Suffixes.IsCounter (suffixes : Suffixes) : Prop :=
  ∀ n < 2 ^ 64, suffixes.nth n = Text.decimal n

theorem Suffixes.isCounter_counting : counting.IsCounter := fun _ _ => rfl

/-- Before the counter runs out, names are those with counting suffixes. -/
theorem Suffixes.IsCounter.namesFrom_eq {suffixes : Suffixes} (h : suffixes.IsCounter)
    {first : Nat} {paths : List String} (hlast : first + paths.length ≤ 2 ^ 64) :
    suffixes.namesFrom first paths = counting.namesFrom first paths := by
  rw [namesFrom, namesFrom, List.mapIdx_eq_mapIdx_iff]
  intro i hi
  have hsuffix : suffixes.nth (first + i) = counting.nth (first + i) := h _ (by omega)
  rw [hsuffix]

/-- The generated types have different names, each with a number which has been drawn. -/
structure Generation.Counted (g : Generation) : Prop where
  distinct : (g.generated.map (·.name)).Nodup
  drawn : ∀ input ∈ g.generated, ∃ path, ∃ n < g.drawn,
    input.name = Suffixes.counting.name n path

theorem Generation.counted_empty : Generation.empty.Counted where
  distinct := List.nodup_nil
  drawn _ h := nomatch h

/-- Types which are named with the next numbers keep the names counted. -/
theorem Generation.Counted.append {g g' : Generation} {inputs : List GeneratedInput}
    {paths : List String} (hg : g.Counted) (hgenerated : g'.generated = g.generated ++ inputs)
    (hnames : inputs.map (·.name) = Suffixes.counting.namesFrom g.drawn paths)
    (hdrawn : g.drawn + paths.length ≤ g'.drawn) : g'.Counted := by
  have hnew : ∀ input ∈ inputs, ∃ path, ∃ n, g.drawn ≤ n ∧ n < g'.drawn ∧
      input.name = Suffixes.counting.name n path := by
    intro input hinput
    have hname : input.name ∈ Suffixes.counting.namesFrom g.drawn paths :=
      hnames ▸ List.mem_map_of_mem hinput
    obtain ⟨i, hi, hname⟩ := List.mem_mapIdx.1 hname
    exact ⟨paths[i], g.drawn + i, by omega, by omega, hname.symm⟩
  constructor
  · rw [hgenerated, List.map_append, List.nodup_append]
    refine ⟨hg.distinct, hnames ▸ Suffixes.nodup_namesFrom_counting g.drawn paths, ?_⟩
    -- A name in both lists would carry a number from before and one from behind.
    simp only [List.mem_map]
    rintro _ ⟨old, hold, rfl⟩ _ ⟨new, hinput, rfl⟩ heq
    obtain ⟨path, n, hn, hname⟩ := hg.drawn old hold
    obtain ⟨path', n', hn', -, hname'⟩ := hnew new hinput
    have hnumbers := Suffixes.eq_of_name_counting_eq (hname.symm.trans (heq.trans hname'))
    omega
  · rw [hgenerated]
    intro input hinput
    rcases List.mem_append.1 hinput with hold | hinput
    · obtain ⟨path, n, hn, hname⟩ := hg.drawn input hold
      exact ⟨path, n, by omega, hname⟩
    · obtain ⟨path, n, -, hn, hname⟩ := hnew input hinput
      exact ⟨path, n, hn, hname⟩

/-- With a counter which has not run out, the types generated for the keys of a type system have
    different names, whatever types and fields are called, and also if a key is refused. Names which
    were counted before are counted with them. -/
theorem nodup_names_of_isCounter {δ : Type} (ts : TypeSystem) (map : TypeMap δ)
    (suffixes : Suffixes) (fields : List ObjectField) (g : Generation)
    (hcounter : suffixes.IsCounter)
    (hdraws : (addKeyFieldsFrom ts map suffixes fields ts.queryKeys g).2.drawn < 2 ^ 64) :
    ∃ inputs,
      (addKeyFieldsFrom ts map suffixes fields ts.queryKeys g).2.generated =
        g.generated ++ inputs ∧
      (inputs.map (·.name)).Nodup ∧
      (g.Counted → (addKeyFieldsFrom ts map suffixes fields ts.queryKeys g).2.Counted) := by
  obtain ⟨o, ho⟩ := exists_outline_addKeyFieldsFrom ts map ts.queryKeys
    (fields.map ObjectField.name)
  rw [ho suffixes fields g rfl] at hdraws ⊢
  have hdrawn : g.drawn + (ArgumentShape.allPaths o.shapes).length ≤
      (o.run suffixes fields g).2.drawn := by
    simp only [AddingOutline.run, AddingOutline.draws]
    omega
  have hnames := ArgumentShape.map_name_allInputs suffixes o.shapes g.drawn
  rw [hcounter.namesFrom_eq (hdrawn.trans hdraws.le)] at hnames
  refine ⟨_, rfl, hnames ▸ Suffixes.nodup_namesFrom_counting _ _, fun hg => ?_⟩
  exact hg.append rfl hnames hdrawn

/-- Fields called like generated types, and a second key which is refused behind its first field. -/
theorem nodup_names_of_isCounter_refused :
    let sdl := "type Query \x7b t: T \x7d type T @key(fields: \"b \x7b c \x7d bInput1 \x7b c \x7d\")
      @key(fields: \"b \x7b c \x7d missing\") \x7b b: B bInput1: B \x7d type B \x7b c: Int \x7d"
    ∃ ts, TypeSystem.load sdl = .ok ts ∧
      let run := addKeyFieldsFrom ts (TypeMap.ofTypeSystem ts [] : TypeMap Unit) .counting []
        ts.queryKeys .empty
      run.1.2 = .error (.error (.unknownKeyField "T" "missing")) ∧
      run.2.generated.map (·.name) = ["TBInput0", "TBInput1Input1", "TBInput2"] ∧
      Suffixes.counting.IsCounter ∧ run.2.drawn < 2 ^ 64 ∧ run.2.Counted := by
  intro sdl
  have hfacts : ∃ ts ∈ (TypeSystem.load sdl).toOption,
      let run := addKeyFieldsFrom ts (TypeMap.ofTypeSystem ts [] : TypeMap Unit) .counting []
        ts.queryKeys .empty
      run.1.2 = .error (.error (.unknownKeyField "T" "missing")) ∧
      run.2.generated.map (·.name) = ["TBInput0", "TBInput1Input1", "TBInput2"] ∧
      run.2.drawn < 2 ^ 64 := by
    decide +kernel
  obtain ⟨ts, hts, hfails, hnames, hdraws⟩ := hfacts
  rw [Option.mem_def, Outcome.toOption_eq_some] at hts
  obtain ⟨inputs, -, -, hcounted⟩ := nodup_names_of_isCounter ts (TypeMap.ofTypeSystem ts [])
    .counting [] .empty Suffixes.isCounter_counting hdraws
  exact ⟨ts, hts, hfails, hnames, Suffixes.isCounter_counting, hdraws,
    hcounted Generation.counted_empty⟩

end EntityGraph
