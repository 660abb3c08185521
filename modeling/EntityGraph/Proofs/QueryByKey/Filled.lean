import Mathlib
import EntityGraph.Proofs.QueryByKey.Adding
import EntityGraph.Proofs.QueryByKey.Naming

/-!
# Suffixes only rename

Suffixes are drawn while a schema is built, and what they are is nowhere looked at: they end up in
the names of generated types. So all that adding query fields does can be told with the suffixes
left open. The arguments of a field are told by their shapes; where a shape is nested, the type
generated for it is named by its path and the suffix of its number, and the numbers are counted in
the order in which types are generated. Filling in some suffixes (`ArgumentShape.arguments`,
`ArgumentShape.allInputs`) gives what a run with these suffixes gives, be it that the run gets to
its end or that it stops at a key: then types have been generated for shapes no field came of.

* `Generating.Uniform`: a step which ends in the same way whatever the suffixes are;
* `AddingOutline`: what adding query fields does, suffixes left open;
* `addKeyFieldsFrom_of_suffixes`: two runs with different suffixes fill in one outline.
-/

namespace EntityGraph

/-! ### Filling in suffixes -/

namespace ArgumentShape

mutual

/-- The paths of the types generated for an argument of the shape, in the order of generation. -/
def paths : ArgumentShape → List String
  | .leaf .. => []
  | .nested _ path fields => allPaths fields ++ [path]

def allPaths : List ArgumentShape → List String
  | [] => []
  | shape :: rest => shape.paths ++ allPaths rest

end

/-- The argument of the shape, the next suffix having the number `first`. A nested one is of the
    type which is generated behind those for its fields. -/
def argument (suffixes : Suffixes) (first : Nat) : ArgumentShape → InputValue
  | .leaf name type => .ofType name type
  | .nested name path fields =>
    .ofType name (.nonNull (.named (suffixes.name (first + (allPaths fields).length) path)))

/-- The arguments of the shapes, the next suffix having the number `first`. -/
def arguments (suffixes : Suffixes) (first : Nat) : List ArgumentShape → List InputValue
  | [] => []
  | shape :: rest =>
    shape.argument suffixes first :: arguments suffixes (first + shape.paths.length) rest

mutual

/-- The types generated for an argument of the shape, the next suffix having the number `first`. -/
def inputs (suffixes : Suffixes) (first : Nat) : ArgumentShape → List GeneratedInput
  | .leaf .. => []
  | .nested _ path fields => allInputs suffixes first fields ++
      [⟨suffixes.name (first + (allPaths fields).length) path, arguments suffixes first fields⟩]

def allInputs (suffixes : Suffixes) (first : Nat) : List ArgumentShape → List GeneratedInput
  | [] => []
  | shape :: rest =>
    shape.inputs suffixes first ++ allInputs suffixes (first + shape.paths.length) rest

end

theorem allPaths_append (shapes more : List ArgumentShape) :
    allPaths (shapes ++ more) = allPaths shapes ++ allPaths more := by
  induction shapes with
  | nil => rfl
  | cons shape rest ih => rw [List.cons_append, allPaths, allPaths, ih, List.append_assoc]

theorem allInputs_append (suffixes : Suffixes) (first : Nat) (shapes more : List ArgumentShape) :
    allInputs suffixes first (shapes ++ more) = allInputs suffixes first shapes ++
      allInputs suffixes (first + (allPaths shapes).length) more := by
  induction shapes generalizing first with
  | nil => rfl
  | cons shape rest ih =>
    rw [List.cons_append, allInputs, allInputs, allPaths, ih, List.append_assoc,
      List.length_append, Nat.add_assoc]

/-- Arguments are named as their shapes, whatever the suffixes are. -/
theorem map_name_arguments (suffixes : Suffixes) (first : Nat) (shapes : List ArgumentShape) :
    (arguments suffixes first shapes).map (·.name) = shapes.map ArgumentShape.name := by
  induction shapes generalizing first with
  | nil => rfl
  | cons shape rest ih =>
    rw [arguments, List.map_cons, List.map_cons, ih]
    cases shape <;> rfl

mutual

theorem map_name_inputs (suffixes : Suffixes) : ∀ (shape : ArgumentShape) (first : Nat),
    (shape.inputs suffixes first).map (·.name) = suffixes.namesFrom first shape.paths
  | .leaf .., first => rfl
  | .nested _ path fields, first => by
    rw [inputs, paths, List.map_append, map_name_allInputs suffixes fields first,
      Suffixes.namesFrom_append]
    rfl

/-- The types generated for shapes are named after their paths in order, with one suffix each. -/
theorem map_name_allInputs (suffixes : Suffixes) : ∀ (shapes : List ArgumentShape) (first : Nat),
    (allInputs suffixes first shapes).map (·.name) = suffixes.namesFrom first (allPaths shapes)
  | [], first => rfl
  | shape :: rest, first => by
    rw [allInputs, allPaths, List.map_append, map_name_inputs suffixes shape first,
      map_name_allInputs suffixes rest, Suffixes.namesFrom_append]

end

end ArgumentShape

open ArgumentShape

/-- What is there when the types for some shapes have been generated. -/
def Generation.fill (g : Generation) (suffixes : Suffixes) (shapes : List ArgumentShape) :
    Generation :=
  { g with
    drawn := g.drawn + (allPaths shapes).length
    generated := g.generated ++ allInputs suffixes g.drawn shapes }

namespace Generation

variable (g : Generation) (suffixes : Suffixes)

@[simp] theorem fill_nil : g.fill suffixes [] = g := by
  rw [fill, allInputs, List.append_nil]
  rfl

theorem fill_append (shapes more : List ArgumentShape) :
    g.fill suffixes (shapes ++ more) = (g.fill suffixes shapes).fill suffixes more := by
  simp only [fill, allPaths_append, allInputs_append, List.length_append, Nat.add_assoc,
    List.append_assoc]

theorem fill_cons (shape : ArgumentShape) (rest : List ArgumentShape) :
    g.fill suffixes (shape :: rest) = (g.fill suffixes [shape]).fill suffixes rest :=
  g.fill_append suffixes [shape] rest

@[simp] theorem fill_leaf (name : String) (type : TypeRef) :
    g.fill suffixes [.leaf name type] = g := by
  rw [fill, allInputs, inputs, allInputs, List.append_nil, List.append_nil]
  rfl

/-- The type for a nested shape is generated behind those for its fields. -/
theorem fill_nested (name path : String) (fields : List ArgumentShape) :
    g.fill suffixes [.nested name path fields] =
      { g.fill suffixes fields with
        drawn := (g.fill suffixes fields).drawn + 1
        generated := (g.fill suffixes fields).generated ++
          [⟨suffixes.name (g.fill suffixes fields).drawn path,
            arguments suffixes g.drawn fields⟩] } := by
  rw [fill, allInputs, inputs, allInputs, List.append_nil, allPaths, paths, allPaths,
    List.append_nil, List.length_append, ← List.append_assoc]
  rfl

@[simp] theorem drawn_fill_singleton (shape : ArgumentShape) :
    (g.fill suffixes [shape]).drawn = g.drawn + shape.paths.length := by
  rw [fill, allPaths, allPaths, List.append_nil]

end Generation

/-! ### Steps which look at no suffix -/

/-- Why adding query fields stops, suffixes left open. -/
inductive Refusal where
  | error (e : BuildError)
  /-- The type generated for a path would have two fields of one name. Its suffix has been drawn. -/
  | fieldTwice (path field : String)

namespace Refusal

/-- The failure, the next suffix having the number `next` when it comes about. -/
def failure (suffixes : Suffixes) (next : Nat) : Refusal → BuildFailure
  | .error e => .error e
  | .fieldTwice path field => .fieldTwice (suffixes.name next path) field

/-- How many suffixes are drawn for nothing. -/
def draws : Refusal → Nat
  | .error _ => 0
  | .fieldTwice .. => 1

end Refusal

/-- What is there when generating stops behind the types of some shapes. -/
def Generation.stop (g : Generation) (suffixes : Suffixes) (done : List ArgumentShape)
    (refusal : Refusal) : Generation :=
  { g.fill suffixes done with drawn := (g.fill suffixes done).drawn + refusal.draws }

theorem Generation.stop_append (g : Generation) (suffixes : Suffixes)
    (shapes done : List ArgumentShape) (refusal : Refusal) :
    g.stop suffixes (shapes ++ done) refusal =
      (g.fill suffixes shapes).stop suffixes done refusal := by
  rw [stop, stop, fill_append]

namespace Generating

variable {α τ : Type}

/-- The step ends in the same way whatever the suffixes are: it gives something made of shapes, or
    it is refused behind the types of some shapes. -/
inductive Uniform (x : Suffixes → Generating α) (shapes : τ → List ArgumentShape)
    (value : Suffixes → Nat → τ → α) : Prop
  | gives (made : τ) (h : ∀ suffixes g,
      ((x suffixes).run g : Except BuildFailure α × Generation) =
        (.ok (value suffixes g.drawn made), g.fill suffixes (shapes made)))
  | stops (done : List ArgumentShape) (refusal : Refusal) (h : ∀ suffixes g,
      ((x suffixes).run g : Except BuildFailure α × Generation) =
        (.error (refusal.failure suffixes (g.fill suffixes done).drawn),
          g.stop suffixes done refusal))

/-- A step which is refused at once. -/
theorem uniform_of_fails {x : Suffixes → Generating α} {shapes : τ → List ArgumentShape}
    {value : Suffixes → Nat → τ → α} {e : BuildError} (h : ∀ suffixes g,
      ((x suffixes).run g : Except BuildFailure α × Generation) = (.error (.error e), g)) :
    Uniform x shapes value := by
  refine .stops [] (.error e) fun suffixes g => ?_
  rw [Generation.stop, Generation.fill_nil]
  exact h suffixes g

end Generating

section

open Generating

variable {δ : Type} (ts : TypeSystem) (map : TypeMap δ) (path : String) {t inner : SourceType}
  {name : String} {field : FieldDeclaration}

/-- A leaf is an argument if its type is declared and may be passed in. No suffix is drawn. -/
theorem run_argumentOf_leaf (suffixes : Suffixes) (g : Generation)
    (hfield : t.field? name = some field) :
    ((argumentOf ts map suffixes t path (.mk name [])).run g :
      Except BuildFailure InputValue × Generation) =
      match map.kind? field.type.core with
      | none => (.error (.error (.missingReplacement field.type.core)), g)
      | some kind =>
        if kind.isInput then (.ok (.ofType name field.type), g)
        else (.error (.error (.notAnInputType name field.type.text)), g) := by
  rw [argumentOf, hfield]
  simp only [TypeMap.remapType_eq, TypeMap.contains]
  obtain hkind | ⟨kind, hkind⟩ := (map.kind? field.type.core).eq_none_or_eq_some
  · simp only [hkind]
    rfl
  · simp only [hkind, Option.isSome_some, if_true, lift, pure_bind, Option.any_some]
    cases kind.isInput <;> rfl

/-- Behind the arguments of the fields below, a type is generated which has them as its fields. -/
theorem run_argumentOf_nested (suffixes : Suffixes) (g : Generation) (c : Selection)
    (cs : List Selection) (hfield : t.field? name = some field)
    (hinner : ts.get? field.type.core = some inner) :
    ((argumentOf ts map suffixes t path (.mk name (c :: cs))).run g :
      Except BuildFailure InputValue × Generation) =
      match ((argumentsOf ts map suffixes inner (path ++ upperFirst name) (c :: cs)).run g :
        Except BuildFailure (List InputValue) × Generation) with
      | (.error failure, g) => (.error failure, g)
      | (.ok fields, g) =>
        let input := suffixes.name g.drawn (path ++ upperFirst name)
        match firstRepeated? (fields.map (·.name)) with
        | some twice => (.error (.fieldTwice input twice), { g with drawn := g.drawn + 1 })
        | none => (.ok (.ofType name (.nonNull (.named input))),
          { g with drawn := g.drawn + 1, generated := g.generated ++ [⟨input, fields⟩] }) := by
  rw [argumentOf, hfield]
  simp only [hinner]
  rw [run_bind]
  rcases (argumentsOf ts map suffixes inner (path ++ upperFirst name) (c :: cs)).run g with
    ⟨_ | fields, next⟩
  · rfl
  · simp only
    cases hrepeated : firstRepeated? (fields.map (·.name)) <;> rfl

variable {ts map}

mutual

theorem uniform_argumentOf : ∀ (s : Selection) (t : SourceType) (path : String),
    Uniform (fun suffixes => argumentOf ts map suffixes t path s) (fun shape => [shape])
      ArgumentShape.argument
  | .mk name children, t, path => by
    cases hfield : t.field? name with
    | none => exact uniform_of_fails fun suffixes g => by rw [argumentOf, hfield]; rfl
    | some field =>
      cases children with
      | nil =>
        have hrun := fun suffixes g => run_argumentOf_leaf ts map path suffixes g hfield
        cases hkind : map.kind? field.type.core with
        | none =>
          rw [hkind] at hrun
          exact uniform_of_fails hrun
        | some kind =>
          simp only [hkind] at hrun
          split at hrun
          · refine .gives (.leaf name field.type) fun suffixes g => ?_
            rw [hrun, Generation.fill_leaf]
            rfl
          · exact uniform_of_fails hrun
      | cons c cs =>
        cases hinner : ts.get? field.type.core with
        | none =>
          exact uniform_of_fails fun suffixes g => by
            rw [argumentOf, hfield]
            simp only [hinner]
            rfl
        | some inner =>
          have hrun := fun suffixes g =>
            run_argumentOf_nested ts map path suffixes g c cs hfield hinner
          cases uniform_argumentsOf (c :: cs) inner (path ++ upperFirst name) with
          | stops done refusal h =>
            refine .stops done refusal fun suffixes g => ?_
            rw [hrun, h]
          | gives fields h =>
            -- Whether a name is repeated can be told from the shapes.
            cases hrepeated : firstRepeated? (fields.map ArgumentShape.name) with
            | some twice =>
              refine .stops fields (.fieldTwice (path ++ upperFirst name) twice)
                fun suffixes g => ?_
              rw [hrun, h]
              simp only [map_name_arguments, hrepeated]
              rfl
            | none =>
              refine .gives (.nested name (path ++ upperFirst name) fields) fun suffixes g => ?_
              rw [hrun, h, Generation.fill_nested]
              simp only [map_name_arguments, hrepeated]
              rfl

theorem uniform_argumentsOf : ∀ (tree : List Selection) (t : SourceType) (path : String),
    Uniform (fun suffixes => argumentsOf ts map suffixes t path tree) (fun shapes => shapes)
      ArgumentShape.arguments
  | [], t, path => by
    refine .gives [] fun suffixes g => ?_
    rw [argumentsOf, Generation.fill_nil]
    rfl
  | s :: rest, t, path => by
    cases uniform_argumentOf s t path with
    | stops done refusal h =>
      refine .stops done refusal fun suffixes g => ?_
      rw [argumentsOf, run_bind, h]
    | gives shape h =>
      cases uniform_argumentsOf rest t path with
      | stops done refusal h' =>
        -- The types for the first argument have been generated for nothing.
        refine .stops (shape :: done) refusal fun suffixes g => ?_
        rw [argumentsOf, run_bind, h]
        simp only
        rw [run_bind, h', ← Generation.stop_append, ← Generation.fill_cons]
        rfl
      | gives others h' =>
        refine .gives (shape :: others) fun suffixes g => ?_
        rw [argumentsOf, run_bind, h]
        simp only
        rw [run_bind, h', Generation.drawn_fill_singleton, ← Generation.fill_cons]
        rfl

end

variable (ts map)

theorem uniform_keyArguments (type : String) (selection : SelectionTree) :
    Uniform (fun suffixes => keyArguments ts map suffixes type selection) (fun shapes => shapes)
      ArgumentShape.arguments := by
  simp only [keyArguments]
  cases ts.get? type with
  | none => exact uniform_of_fails fun suffixes g => rfl
  | some t => exact uniform_argumentsOf selection t type

end

/-! ### Adding query fields -/

namespace KeyFieldShape

/-- The query field of the shape, the next suffix having the number `first`. -/
def field (suffixes : Suffixes) (first : Nat) (shape : KeyFieldShape) : ObjectField :=
  ⟨⟨shape.name, none, .named shape.type, .object,
    ArgumentShape.arguments suffixes first shape.arguments⟩, .byKey shape.type⟩

/-- The query fields of the shapes, the next suffix having the number `first`. -/
def fields (suffixes : Suffixes) (first : Nat) : List KeyFieldShape → List ObjectField
  | [] => []
  | shape :: rest => shape.field suffixes first ::
      fields suffixes (first + (allPaths shape.arguments).length) rest

/-- Fields and their arguments are named as their shapes, whatever the suffixes are. -/
theorem map_names_fields (suffixes : Suffixes) (first : Nat) (shapes : List KeyFieldShape) :
    (fields suffixes first shapes).map (fun f => (f.name, f.config.arguments.map (·.name))) =
      shapes.map fun shape => (shape.name, shape.arguments.map ArgumentShape.name) := by
  induction shapes generalizing first with
  | nil => rfl
  | cons shape rest ih =>
    rw [fields, List.map_cons, List.map_cons, ih, field]
    simp only [map_name_arguments, ObjectField.name]

end KeyFieldShape

/-- What adding query fields does, suffixes left open. -/
structure AddingOutline where
  /-- The fields which are added. -/
  added : List KeyFieldShape
  /-- The shapes types are generated for before a key is refused. -/
  left : List ArgumentShape
  /-- Why a key is refused. -/
  refusal : Option Refusal
  records : List LogRecord

namespace AddingOutline

variable (o : AddingOutline)

/-- The shapes types are generated for, in order. -/
def shapes : List ArgumentShape := o.added.flatMap KeyFieldShape.arguments ++ o.left

/-- How many suffixes are drawn. -/
def draws : Nat := (allPaths o.shapes).length + (o.refusal.map Refusal.draws).getD 0

/-- How adding ends, the next suffix having the number `next` by then. -/
def outcome (suffixes : Suffixes) (next : Nat) : Except BuildFailure Unit :=
  match o.refusal with
  | none => .ok ()
  | some refusal => .error (refusal.failure suffixes next)

/-- The run with these suffixes. -/
def run (suffixes : Suffixes) (fields : List ObjectField) (g : Generation) :
    (List ObjectField × Except BuildFailure Unit) × Generation :=
  ((fields ++ KeyFieldShape.fields suffixes g.drawn o.added,
    o.outcome suffixes (g.drawn + (allPaths o.shapes).length)),
   { drawn := g.drawn + o.draws
     generated := g.generated ++ allInputs suffixes g.drawn o.shapes
     records := g.records ++ o.records })

variable {o}

theorem outcome_eq_ok {suffixes : Suffixes} {next : Nat} :
    o.outcome suffixes next = .ok () ↔ o.refusal = none := by
  rw [outcome]
  cases o.refusal <;> simp

theorem outcome_eq_error {suffixes : Suffixes} {next : Nat} {e : BuildError} :
    o.outcome suffixes next = .error (.error e) ↔ o.refusal = some (.error e) := by
  rw [outcome]
  rcases o.refusal with _ | _ | _ <;> simp [Refusal.failure]

variable (suffixes : Suffixes) (fields : List ObjectField) (g : Generation)

theorem run_nil : (⟨[], [], none, []⟩ : AddingOutline).run suffixes fields g =
    ((fields, .ok ()), g) := by
  simp [run, outcome, draws, shapes, KeyFieldShape.fields, allPaths, allInputs]

theorem run_refused (done : List ArgumentShape) (refusal : Refusal) :
    (⟨[], done, some refusal, []⟩ : AddingOutline).run suffixes fields g =
      ((fields, .error (refusal.failure suffixes (g.fill suffixes done).drawn)),
        g.stop suffixes done refusal) := by
  simp [run, outcome, draws, shapes, KeyFieldShape.fields, Generation.stop, Generation.fill,
    Nat.add_assoc]

/-- Behind the first field, the others are added from what is there by then. -/
theorem run_cons (shape : KeyFieldShape) (records : List LogRecord) :
    (⟨shape :: o.added, o.left, o.refusal, records ++ o.records⟩ : AddingOutline).run suffixes
      fields g = o.run suffixes (fields ++ [shape.field suffixes g.drawn])
        { g.fill suffixes shape.arguments with records := g.records ++ records } := by
  simp only [run, outcome, draws, shapes, Generation.fill, KeyFieldShape.fields,
    List.flatMap_cons, allPaths_append, allInputs_append, List.length_append, List.append_assoc,
    List.singleton_append, Nat.add_assoc]

end AddingOutline

section

variable {δ : Type} (ts : TypeSystem) (map : TypeMap δ)

theorem exists_outline_addKeyFieldsFrom (keys : List (String × KeyDeclaration))
    (names : List String) : ∃ o : AddingOutline, ∀ suffixes fields g,
      fields.map ObjectField.name = names →
        addKeyFieldsFrom ts map suffixes fields keys g = o.run suffixes fields g := by
  induction keys generalizing names with
  | nil => exact ⟨⟨[], [], none, []⟩, fun suffixes fields g _ =>
      (AddingOutline.run_nil suffixes fields g).symm⟩
  | cons k rest ih =>
    by_cases htaken : keyFieldName k ∈ names
    · refine ⟨⟨[], [], some (.error (.queryFieldExists (keyFieldName k))), []⟩, ?_⟩
      rintro suffixes fields g rfl
      rw [addKeyFieldsFrom_cons, run_addKeyField_of_taken htaken, AddingOutline.run_refused,
        Generation.stop, Generation.fill_nil]
      rfl
    · cases uniform_keyArguments ts map k.1 k.2.selection with
      | stops done refusal h =>
        refine ⟨⟨[], done, some refusal, []⟩, ?_⟩
        rintro suffixes fields g rfl
        rw [addKeyFieldsFrom_cons, run_addKeyField_of_free htaken, h, AddingOutline.run_refused]
      | gives shapes h =>
        obtain ⟨o, ho⟩ := ih (names ++ [keyFieldName k])
        refine ⟨⟨⟨keyFieldName k, k.1, shapes⟩ :: o.added, o.left, o.refusal,
          (Generation.empty.recordKey k).records ++ o.records⟩, ?_⟩
        rintro suffixes fields g rfl
        rw [addKeyFieldsFrom_cons, run_addKeyField_of_free htaken, h]
        simp only
        rw [ho _ _ _ (by rw [List.map_append]; rfl), AddingOutline.run_cons]
        rfl

end

/-- Suffixes only rename. What adding the query fields of a type system does has an outline which
    every run fills in with its suffixes: the fields which are added with their arguments, the types
    which are generated, each named by its path and the next suffix wherever it is named, and how
    it ends. So two runs with different suffixes both get through, or both fail with the same error;
    they draw equally many suffixes, record the same, and name fields and arguments alike. -/
theorem addKeyFieldsFrom_of_suffixes {δ : Type} (ts : TypeSystem) (map : TypeMap δ)
    (fields : List ObjectField) (g : Generation) :
    ∃ outline : AddingOutline,
      (∀ suffixes, addKeyFieldsFrom ts map suffixes fields ts.queryKeys g =
        outline.run suffixes fields g) ∧
      (∀ suffixes, (outline.run suffixes fields g).2.generated.map (·.name) =
        g.generated.map (·.name) ++ suffixes.namesFrom g.drawn (allPaths outline.shapes)) ∧
      ∀ suffixes suffixes',
        let run := addKeyFieldsFrom ts map suffixes fields ts.queryKeys g
        let run' := addKeyFieldsFrom ts map suffixes' fields ts.queryKeys g
        (run.1.2 = .ok () ↔ run'.1.2 = .ok ()) ∧
        (∀ e, run.1.2 = .error (.error e) ↔ run'.1.2 = .error (.error e)) ∧
        run.2.drawn = run'.2.drawn ∧ run.2.records = run'.2.records ∧
        run.1.1.map (fun f => (f.name, f.config.arguments.map (·.name))) =
          run'.1.1.map (fun f => (f.name, f.config.arguments.map (·.name))) := by
  obtain ⟨o, ho⟩ := exists_outline_addKeyFieldsFrom ts map ts.queryKeys
    (fields.map ObjectField.name)
  have hrun (suffixes : Suffixes) := ho suffixes fields g rfl
  refine ⟨o, hrun, fun suffixes => ?_, fun suffixes suffixes' => ?_⟩
  · rw [AddingOutline.run, List.map_append, map_name_allInputs]
  · rw [hrun suffixes, hrun suffixes']
    refine ⟨?_, fun e => ?_, rfl, rfl, ?_⟩
    · exact AddingOutline.outcome_eq_ok.trans AddingOutline.outcome_eq_ok.symm
    · exact AddingOutline.outcome_eq_error.trans AddingOutline.outcome_eq_error.symm
    · simp only [AddingOutline.run, List.map_append, KeyFieldShape.map_names_fields]

end EntityGraph
