import Mathlib
import EntityGraph.Proofs.QueryByKey.Shapes
import EntityGraph.Proofs.Schema.Building

/-!
# Outlines of types

The *outline* of a type is the type itself, but for the query root: its query fields depend on the
suffixes which were drawn before them, so its outline holds their shapes, in any order. Outlines are
told from the type system and the kinds of the declared types, with no run (`Assembly.outlinesOf`).

* `Assembly.follows_defineObject`: an object is defined as its outline tells;
* `Schema.outlined_typesOf`: the types of a type system can be evaluated exactly if they have
  outlines, and are the ones outlined.
-/

namespace EntityGraph

namespace Assembly

/-- The field in which each argument occurs once. -/
def settled (field : ObjectField) : ObjectField :=
  { field with config := settleArguments field.config }

end Assembly

/-- The query root, with its query fields in any order and apart from the suffixes of the types
    generated for them. -/
structure RootOutline where
  name : String
  description : Option String
  /-- The declared fields, `id` and `node`. -/
  fields : List ObjectField
  keyFields : Multiset KeyFieldShape
  interfaces : List String

/-- A type of a schema, the query root as far as it can be told without its suffixes. -/
inductive TypeOutline where
  | plain (t : SchemaType)
  | root (r : RootOutline)

/-- The type is the one outlined, with these types generated for its query fields. -/
def TypeOutline.Describes : TypeOutline → SchemaType → List GeneratedInput → Prop
  | .plain t, type, inputs => type = t ∧ inputs = []
  | .root r, type, inputs => ∃ shapes fields, Multiset.ofList shapes = r.keyFields ∧
      Collected KeyFieldShape.Describes shapes fields inputs ∧
      type = .object ⟨r.name, r.description, r.fields ++ fields.map Assembly.settled, r.interfaces⟩

namespace Assembly

open Generating

variable {ts : TypeSystem} {map : Assembly} {suffixes : Suffixes}

/-! ### Objects -/

/-- An object of its parts, unless two of them have one name. -/
def finishObject (t : SourceType) (parts : List ObjectField × List String) :
    Generating SchemaType := do
  Generating.log .schema .trace s!"Define object {t.name} with {parts.1.length} fields"
  defineObject.liftExcept (uniqueFields t.name (parts.1.map (·.name)))
  defineObject.liftExcept (uniqueInterfaces t.name parts.2)
  return .object ⟨t.name, t.description, parts.1.map settled, parts.2⟩

theorem defineObject_eq (t : SourceType) (firstKey : Option KeyProjection) (isRoot : Bool) :
    defineObject ts map suffixes t firstKey isRoot =
      lift (ownParts ts map t firstKey) >>= fun own =>
        rootParts ts map suffixes t isRoot own >>= finishObject t := by
  rw [← bind_assoc, ← objectParts_eq]
  rfl

/-- The outline of an object. -/
def objectOutline (ts : TypeSystem) (map : Assembly) (t : SourceType)
    (firstKey : Option KeyProjection) (isRoot : Bool) : Option TypeOutline :=
  (ownParts ts map t firstKey).toOption.bind fun own =>
    if isRoot then
      (addNodeField own.1 t.name).toOption.bind fun fields =>
        ((keyFieldShapes ts.get? map.kind? (fields.map ObjectField.name) ts.queryKeys).map
          Multiset.ofList).bind fun keyFields =>
            if (fields.map ObjectField.name).Nodup ∧ own.2.Nodup then
              some (.root ⟨t.name, t.description, fields.map settled, keyFields, own.2⟩)
            else none
    else if (own.1.map ObjectField.name).Nodup ∧ own.2.Nodup then
      some (.plain (.object ⟨t.name, t.description, own.1.map settled, own.2⟩))
    else none

/-- A check has an outline if it is passed. -/
theorem follows_check {check : Except BuildFailure Unit} {p : Prop} [Decidable p]
    (h : check = .ok () ↔ p) :
    Follows (defineObject.liftExcept check) (if p then some () else none) Plain := by
  have hcheck := follows_mk check
  cases check with
  | ok =>
    rw [if_pos (h.1 rfl)]
    exact hcheck
  | error failure =>
    rw [if_neg fun hp => nomatch h.2 hp]
    exact hcheck

/-- An object is finished if its parts have names of their own; the outline of what it becomes may
    be anything which tells the object. -/
theorem follows_finishObject (t : SourceType) (parts : List ObjectField × List String) {β : Type}
    {P : β → SchemaType → List GeneratedInput → Prop} {outline : β}
    (h : P outline (.object ⟨t.name, t.description, parts.1.map settled, parts.2⟩) []) :
    Follows (finishObject t parts)
      (if (parts.1.map ObjectField.name).Nodup ∧ parts.2.Nodup then some outline else none) P := by
  have hchecks {p q : Prop} [Decidable p] [Decidable q] :
      (if p ∧ q then some outline else none) = (if p then some () else none).bind fun _ =>
        (if q then some () else none).bind fun _ => some outline := by
    by_cases hp : p <;> by_cases hq : q <;> simp [hp, hq]
  rw [finishObject, hchecks]
  refine (follows_log _ _ _).bind_some ?_
  rintro _ _ ⟨-, rfl⟩
  refine (follows_check uniqueFields_eq_ok).bind_plain fun _ => ?_
  exact (follows_check uniqueInterfaces_eq_ok).bind_plain fun _ => follows_pure h

/-- Defining an object follows its outline. -/
theorem follows_defineObject (t : SourceType) (firstKey : Option KeyProjection) (isRoot : Bool) :
    Follows (defineObject ts map suffixes t firstKey isRoot)
      (objectOutline ts map t firstKey isRoot) TypeOutline.Describes := by
  rw [defineObject_eq, objectOutline]
  refine (follows_lift _).bind_plain fun own => ?_
  cases isRoot with
  | false => exact follows_finishObject t own ⟨rfl, rfl⟩
  | true =>
    -- Only the query fields generate types, and only they are told by shapes.
    change Follows ((lift (addNodeField own.1 t.name) >>= fun fields =>
      addKeyFields ts map suffixes fields >>= fun fields => pure (fields, own.2)) >>=
        finishObject t) _ _
    rw [if_pos rfl, bind_assoc]
    refine (follows_lift _).bind_plain fun fields => ?_
    rw [bind_assoc]
    have hkeys : Follows (addKeyFields ts map suffixes fields) _ _ := follows_addKeyFields fields
    cases hshapes : keyFieldShapes ts.get? map.kind? (fields.map ObjectField.name)
        ts.queryKeys with
    | none =>
      rw [hshapes] at hkeys
      exact hkeys.bind_none
    | some shapes =>
      rw [hshapes] at hkeys
      refine hkeys.bind_some ?_
      rintro _ inputs ⟨added, hadded, rfl⟩
      rw [pure_bind]
      -- With the query fields, the names are as distinct as before.
      have hnames : ((fields ++ added).map ObjectField.name).Nodup ↔
          (fields.map ObjectField.name).Nodup := by
        rw [List.map_append, hadded.map_eq ObjectField.name KeyFieldShape.name]
        · exact nodup_of_keyFieldShapes _ _ hshapes
        · rintro shape _ _ ⟨_, -, rfl⟩
          rfl
      simp only [Option.map_some, Option.bind_some, ← hnames]
      refine follows_finishObject t (fields ++ added, own.2) ⟨shapes, added, rfl, ?_, ?_⟩
      · rwa [List.append_nil]
      · rw [List.map_append]

/-! ### All types -/

/-- The outline of the type a definition stands for. -/
def outline (ts : TypeSystem) (map : Assembly) : Definition → Option TypeOutline
  | .node => some (.plain nodeType)
  | .object t firstKey isRoot => objectOutline ts map t firstKey isRoot
  | .copied t => (defineCopied map t).toOption.map .plain

theorem follows_define (d : Definition) :
    Follows (define ts map suffixes d) (outline ts map d) TypeOutline.Describes := by
  cases d with
  | node => exact follows_pure ⟨rfl, rfl⟩
  | object t firstKey isRoot => exact follows_defineObject t firstKey isRoot
  | copied t => exact (follows_mk (defineCopied map t)).map TypeOutline.plain fun _ _ _ h => h

/-- The outlines of all types of a type system, in any order. -/
def outlinesOf (ts : TypeSystem) : Option (Multiset TypeOutline) :=
  (ofTypeSystem ts).1.toOption.bind fun map =>
    ((definitions map).mapM (outline ts map.begun)).map Multiset.ofList

/-- The types are those which are outlined, in any order, with the types generated for the query
    fields behind them. -/
def Outlined (outlines : Multiset TypeOutline) (types : List SchemaType) : Prop :=
  ∃ os defined inputs, Multiset.ofList os = outlines ∧
    Collected TypeOutline.Describes os defined inputs ∧
    types = defined ++ inputs.map GeneratedInput.type

/-- Evaluating follows the outlines of the definitions. -/
theorem run_evaluate (ts : TypeSystem) (map : Assembly) (suffixes : Suffixes) :
    match (definitions map).mapM (outline ts map.begun) with
    | some os => ∃ types, ((evaluate ts map suffixes).run .empty).1 = .ok types ∧ Outlined os types
    | none => ∃ failure, ((evaluate ts map suffixes).run .empty).1 = .error failure := by
  have hall : Follows ((definitions map).mapM (define ts map.begun suffixes)) _ _ :=
    follows_mapM (definitions map) follows_define
  have hrun : (evaluate ts map suffixes).run .empty =
      ((definitions map).mapM (define ts map.begun suffixes) >>= fun types => do
        return types ++ (← get).generated.map GeneratedInput.type).run .empty := rfl
  rw [hrun, run_bind]
  cases hos : (definitions map).mapM (outline ts map.begun) with
  | none =>
    rw [hos] at hall
    obtain ⟨failure, g, hfails⟩ := hall .empty
    exact ⟨failure, by rw [hfails]⟩
  | some os =>
    rw [hos] at hall
    obtain ⟨defined, inputs, g, hgives, hgenerated, hdefined⟩ := hall .empty
    refine ⟨defined ++ inputs.map GeneratedInput.type, ?_, os, defined, inputs, rfl, hdefined, rfl⟩
    -- Nothing was generated before the first definition.
    have hinputs : g.generated = inputs := hgenerated
    rw [hgives, ← hinputs]
    rfl

end Assembly

namespace Schema

open Assembly

variable {ts : TypeSystem} {suffixes : Suffixes}

/-- The types of a type system have their outlines, whatever the suffixes; without outlines there
    are none. -/
theorem outlined_typesOf (ts : TypeSystem) (suffixes : Suffixes) :
    match outlinesOf ts with
    | some outlines => ∃ types, (typesOf ts suffixes).1 = .ok types ∧ Outlined outlines types
    | none => ∃ failure, (typesOf ts suffixes).1 = .error failure := by
  rw [typesOf_fst, outlinesOf]
  cases (ofTypeSystem ts).1 with
  | error e => exact ⟨_, rfl⟩
  | ok map =>
    have hrun := run_evaluate ts map suffixes
    change match ((definitions map).mapM (outline ts map.begun)).map Multiset.ofList with
      | some outlines => ∃ types, ((evaluate ts map suffixes).run .empty).1 = .ok types ∧
          Outlined outlines types
      | none => ∃ failure, ((evaluate ts map suffixes).run .empty).1 = .error failure
    cases hos : (definitions map).mapM (outline ts map.begun) with
    | none =>
      rw [hos] at hrun
      exact hrun
    | some os =>
      rw [hos] at hrun
      exact hrun

/-- Types can be evaluated exactly if they have outlines. -/
theorem exists_typesOf_iff :
    (∃ types, (typesOf ts suffixes).1 = .ok types) ↔ (outlinesOf ts).isSome = true := by
  have hall := outlined_typesOf ts suffixes
  cases houtlines : outlinesOf ts with
  | none =>
    rw [houtlines] at hall
    obtain ⟨failure, hfailure⟩ := hall
    exact iff_of_false (fun ⟨types, htypes⟩ => nomatch hfailure.symm.trans htypes) (by simp)
  | some outlines =>
    rw [houtlines] at hall
    obtain ⟨types, htypes, -⟩ := hall
    exact iff_of_true ⟨types, htypes⟩ rfl

theorem outlined_of_typesOf {types : List SchemaType} (h : (typesOf ts suffixes).1 = .ok types) :
    ∃ outlines, outlinesOf ts = some outlines ∧ Outlined outlines types := by
  have hall := outlined_typesOf ts suffixes
  obtain ⟨outlines, houtlines⟩ := Option.isSome_iff_exists.1 (exists_typesOf_iff.1 ⟨types, h⟩)
  rw [houtlines] at hall
  obtain ⟨types', htypes', houtlined⟩ := hall
  obtain rfl := Except.ok.inj (h.symm.trans htypes')
  exact ⟨outlines, houtlines, houtlined⟩

end Schema

end EntityGraph
