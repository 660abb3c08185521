import Mathlib
import EntityGraph.Proofs.Following
import EntityGraph.Proofs.QueryByKey

/-!
# Shapes of key arguments

The arguments of a query field follow its key: a leaf has the type of its field, a nested field has
a generated input type whose fields follow the key in turn. Their *shape* is all of this but for the
suffixes of the generated types. It is read off the types which are there (`shapesOf`), and
generating the arguments follows it (`follows_keyArguments`).

* `KeyFieldShape`: the shape of a query field;
* `follows_addKeyFields`: adding the query fields follows the shapes of the keys;
* `keyFieldShapes_perm`: in another order the keys have the same shapes.
-/

namespace EntityGraph

/-- An argument for a key field, apart from the suffixes of generated types. A nested argument has a
    generated type, whose name starts with the path to it. -/
inductive ArgumentShape where
  | leaf (name : String) (type : TypeRef)
  | nested (name path : String) (fields : List ArgumentShape)

namespace ArgumentShape

def name : ArgumentShape → String
  | .leaf name _ => name
  | .nested name _ _ => name

mutual

/-- The argument has the shape, with these types generated for it: its own one behind those of the
    fields of this type. -/
def Describes : ArgumentShape → InputValue → List GeneratedInput → Prop
  | .leaf name type, argument, inputs => argument = .ofType name type ∧ inputs = []
  | .nested name path fields, argument, inputs => ∃ suffix values below,
      AllDescribe fields values below ∧
      argument = .ofType name (.nonNull (.named (path ++ inputInfix ++ suffix))) ∧
      inputs = below ++ [⟨path ++ inputInfix ++ suffix, values⟩]

def AllDescribe : List ArgumentShape → List InputValue → List GeneratedInput → Prop
  | [], arguments, inputs => arguments = [] ∧ inputs = []
  | shape :: rest, arguments, inputs => ∃ first others below more,
      Describes shape first below ∧ AllDescribe rest others more ∧
      arguments = first :: others ∧ inputs = below ++ more

end

theorem Describes.name {shape : ArgumentShape} {argument : InputValue}
    {inputs : List GeneratedInput} (h : shape.Describes argument inputs) :
    argument.name = shape.name := by
  cases shape with
  | leaf =>
    rw [Describes] at h
    rw [h.1]
    rfl
  | nested =>
    rw [Describes] at h
    obtain ⟨_, _, _, -, rfl, -⟩ := h
    rfl

/-- Arguments of query fields have no descriptions. -/
theorem Describes.description {shape : ArgumentShape} {argument : InputValue}
    {inputs : List GeneratedInput} (h : shape.Describes argument inputs) :
    argument.description = none := by
  cases shape with
  | leaf =>
    rw [Describes] at h
    rw [h.1]
    rfl
  | nested =>
    rw [Describes] at h
    obtain ⟨_, _, _, -, rfl, -⟩ := h
    rfl

theorem AllDescribe.descriptions {shapes : List ArgumentShape} {arguments : List InputValue}
    {inputs : List GeneratedInput} (h : AllDescribe shapes arguments inputs) :
    ∀ a ∈ arguments, a.description = none := by
  induction shapes generalizing arguments inputs with
  | nil =>
    rw [AllDescribe] at h
    obtain ⟨rfl, -⟩ := h
    exact fun _ ha => absurd ha List.not_mem_nil
  | cons shape rest ih =>
    rw [AllDescribe] at h
    obtain ⟨first, others, below, more, hfirst, hothers, rfl, -⟩ := h
    exact List.forall_mem_cons.2 ⟨hfirst.description, ih hothers⟩

theorem AllDescribe.names {shapes : List ArgumentShape} {arguments : List InputValue}
    {inputs : List GeneratedInput} (h : AllDescribe shapes arguments inputs) :
    arguments.map (·.name) = shapes.map ArgumentShape.name := by
  induction shapes generalizing arguments inputs with
  | nil =>
    rw [AllDescribe] at h
    rw [h.1]
    rfl
  | cons shape rest ih =>
    rw [AllDescribe] at h
    obtain ⟨first, others, below, more, hfirst, hothers, rfl, -⟩ := h
    rw [List.map_cons, List.map_cons, hfirst.name, ih hothers]

end ArgumentShape

/-! ### The shape of a selection -/

section

variable (types : String → Option SourceType) (kinds : String → Option Kind)

mutual

/-- The shape of the argument for a field selected on a type, `path` leading to the type. There is
    none if a field or a type is missing, if a leaf can not be passed in, or if a layer selects a
    field twice. -/
def shapeOf (t : SourceType) (path : String) : Selection → Option ArgumentShape
  | .mk name children =>
    match t.field? name with
    | none => none
    | some field =>
      match children with
      | [] =>
        if (kinds field.type.core).any Kind.isInput then some (.leaf name field.type) else none
      | c :: cs =>
        match types field.type.core with
        | none => none
        | some inner =>
          (shapesOf inner (path ++ upperFirst name) (c :: cs)).bind fun fields =>
            if (fields.map ArgumentShape.name).Nodup then
              some (.nested name (path ++ upperFirst name) fields)
            else none

def shapesOf (t : SourceType) (path : String) : List Selection → Option (List ArgumentShape)
  | [] => some []
  | s :: rest => (shapeOf t path s).bind fun first =>
      (shapesOf t path rest).bind fun others => some (first :: others)

end

/-- The shapes of the arguments for a key of a type. -/
def keyShapes (type : String) (selection : SelectionTree) : Option (List ArgumentShape) :=
  (types type).bind fun t => shapesOf types kinds t type selection

/-! ### The shape of a query field -/

/-- A query field, apart from the suffixes of the types generated for its arguments. -/
structure KeyFieldShape where
  name : String
  type : String
  arguments : List ArgumentShape

/-- The field has the shape, with these types generated for its arguments. -/
def KeyFieldShape.Describes (shape : KeyFieldShape) (field : ObjectField)
    (inputs : List GeneratedInput) : Prop :=
  ∃ arguments, ArgumentShape.AllDescribe shape.arguments arguments inputs ∧
    field = ⟨⟨shape.name, none, .named shape.type, .object, arguments⟩, .byKey shape.type⟩

/-- The name of the query field for a key of a type. -/
def keyFieldName (k : String × KeyDeclaration) : String :=
  SelectionTree.fieldName k.1 k.2.selection

/-- With names of their own, next to those which are taken, keys leave names as distinct as before. -/
theorem nodup_append_keyFieldNames {taken : List String} {keys : List (String × KeyDeclaration)}
    (hdistinct : (keys.map keyFieldName).Nodup) (hfree : ∀ k ∈ keys, keyFieldName k ∉ taken) :
    (taken ++ keys.map keyFieldName).Nodup ↔ taken.Nodup := by
  rw [List.nodup_append]
  refine ⟨And.left, fun htaken => ⟨htaken, hdistinct, fun name hname other hother heq => ?_⟩⟩
  obtain ⟨k, hk, rfl⟩ := List.mem_map.1 hother
  exact hfree k hk (heq ▸ hname)

def keyFieldShape (k : String × KeyDeclaration) : Option KeyFieldShape :=
  (keyShapes types kinds k.1 k.2.selection).bind fun arguments =>
    some ⟨keyFieldName k, k.1, arguments⟩

/-- The shapes of the query fields of some keys, next to fields of the `taken` names. There are none
    if two fields would have one name. -/
def keyFieldShapes (taken : List String) (keys : List (String × KeyDeclaration)) :
    Option (List KeyFieldShape) :=
  if (keys.map keyFieldName).Nodup ∧ ∀ k ∈ keys, keyFieldName k ∉ taken then
    keys.mapM (keyFieldShape types kinds)
  else none

theorem name_of_keyFieldShape {k : String × KeyDeclaration} {shape : KeyFieldShape}
    (h : keyFieldShape types kinds k = some shape) : shape.name = keyFieldName k := by
  obtain ⟨arguments, -, h⟩ := Option.bind_eq_some_iff.1 h
  rw [← Option.some.inj h]

theorem keyFieldShapes_cons (taken : List String) (k : String × KeyDeclaration)
    (rest : List (String × KeyDeclaration)) :
    keyFieldShapes types kinds taken (k :: rest) =
      if keyFieldName k ∈ taken then none
      else (keyFieldShape types kinds k).bind fun shape =>
        (keyFieldShapes types kinds (taken ++ [keyFieldName k]) rest).map (shape :: ·) := by
  -- The name of the first key is one more which the others may not have.
  have hall : ((k :: rest).map keyFieldName).Nodup ∧
      (∀ other ∈ k :: rest, keyFieldName other ∉ taken) ↔ keyFieldName k ∉ taken ∧
        (rest.map keyFieldName).Nodup ∧
          ∀ other ∈ rest, keyFieldName other ∉ taken ++ [keyFieldName k] := by
    simp only [List.map_cons, List.nodup_cons, List.forall_mem_cons, List.mem_append, not_or,
      List.mem_singleton, List.mem_map, not_exists, not_and]
    grind
  simp only [keyFieldShapes, hall]
  by_cases hk : keyFieldName k ∈ taken
  · simp [hk]
  · rw [if_neg hk]
    by_cases hrest : (rest.map keyFieldName).Nodup ∧
        ∀ other ∈ rest, keyFieldName other ∉ taken ++ [keyFieldName k]
    · rw [if_pos ⟨hk, hrest⟩, if_pos hrest, List.mapM_cons]
      cases keyFieldShape types kinds k <;> cases rest.mapM (keyFieldShape types kinds) <;> rfl
    · rw [if_neg fun h => hrest h.2, if_neg hrest]
      cases keyFieldShape types kinds k <;> rfl

theorem names_of_keyFieldShapes {keys : List (String × KeyDeclaration)} {taken : List String}
    {shapes : List KeyFieldShape} (h : keyFieldShapes types kinds taken keys = some shapes) :
    shapes.map KeyFieldShape.name = keys.map keyFieldName := by
  induction keys generalizing taken shapes with
  | nil =>
    rw [keyFieldShapes, if_pos ⟨List.nodup_nil, fun _ h => nomatch h⟩] at h
    rw [← Option.some.inj h]
    rfl
  | cons k rest ih =>
    rw [keyFieldShapes_cons] at h
    split at h
    · cases h
    · obtain ⟨shape, hshape, h⟩ := Option.bind_eq_some_iff.1 h
      obtain ⟨others, hothers, rfl⟩ := Option.map_eq_some_iff.1 h
      rw [List.map_cons, List.map_cons, name_of_keyFieldShape types kinds hshape, ih hothers]

/-- The query fields have names of their own, next to those which are taken. -/
theorem nodup_of_keyFieldShapes {keys : List (String × KeyDeclaration)} {taken : List String}
    {shapes : List KeyFieldShape} (h : keyFieldShapes types kinds taken keys = some shapes) :
    (taken ++ shapes.map KeyFieldShape.name).Nodup ↔ taken.Nodup := by
  rw [names_of_keyFieldShapes types kinds h]
  rw [keyFieldShapes] at h
  split at h
  · next hfree => exact nodup_append_keyFieldNames hfree.1 hfree.2
  · cases h

/-- In another order the keys have the same shapes. -/
theorem keyFieldShapes_perm (taken : List String) {keys keys' : List (String × KeyDeclaration)}
    (h : keys.Perm keys') :
    (keyFieldShapes types kinds taken keys).map Multiset.ofList =
      (keyFieldShapes types kinds taken keys').map Multiset.ofList := by
  have hfree : (∀ k ∈ keys, keyFieldName k ∉ taken) ↔ ∀ k ∈ keys', keyFieldName k ∉ taken :=
    forall_congr' fun k => by rw [h.mem_iff]
  simp only [keyFieldShapes, (h.map keyFieldName).nodup_iff, hfree]
  split
  · exact ofList_mapM_perm h
  · rfl

end

section

open Generating ArgumentShape

variable {δ : Type} {ts : TypeSystem} {map : TypeMap δ} {suffixes : Suffixes}

mutual

theorem follows_argumentOf : ∀ (s : Selection) (t : SourceType) (path : String),
    Follows (argumentOf ts map suffixes t path s) (shapeOf ts.get? map.kind? t path s) Describes
  | .mk name children, t, path => by
    rw [argumentOf, shapeOf]
    cases t.field? name with
    | none => exact follows_fail _
    | some field =>
      cases children with
      | nil =>
        -- The type of a leaf has to be declared, and to be one which can be passed in.
        simp only [TypeMap.remapType_eq, TypeMap.contains]
        obtain hkind | ⟨kind, hkind⟩ := (map.kind? field.type.core).eq_none_or_eq_some
        · simp only [hkind]
          exact follows_fail_bind _
        · simp only [hkind, Option.isSome_some, if_true, Option.any_some]
          refine (follows_lift (.ok field.type)).bind_some ?_
          rintro _ _ ⟨rfl, rfl⟩
          simp only [hkind, Option.any_some]
          cases kind.isInput with
          | false => exact follows_fail_bind _
          | true => exact follows_pure ⟨rfl, rfl⟩
      | cons c cs =>
        -- Arguments of nested fields come first, so their types stand in front of their parent's.
        simp only
        cases ts.get? field.type.core with
        | none => exact follows_fail _
        | some inner =>
          refine (follows_argumentsOf (c :: cs) inner _).bind fun fields values below hfields => ?_
          refine (follows_nextSuffix suffixes).bind_some fun suffix _ hsuffix => ?_
          subst hsuffix
          have hnames := hfields.names
          -- The fields of the generated type are named as those of its shape.
          cases hrepeated : firstRepeated? (values.map (·.name)) with
          | some twice =>
            rw [if_neg fun hnodup => ?_]
            · exact follows_throw_bind _
            · rw [← hnames] at hnodup
              rw [firstRepeated?_eq_none.2 hnodup] at hrepeated
              cases hrepeated
          | none =>
            rw [if_pos (hnames ▸ firstRepeated?_eq_none.1 hrepeated)]
            refine (follows_push _).bind_some fun _ inputs hinputs => ?_
            subst hinputs
            refine follows_pure ?_
            rw [Describes]
            refine ⟨suffix, values, below, hfields, rfl, ?_⟩
            rw [List.nil_append, List.append_nil]

/-- Generating the arguments for selected fields follows their shapes. -/
theorem follows_argumentsOf : ∀ (tree : List Selection) (t : SourceType) (path : String),
    Follows (argumentsOf ts map suffixes t path tree)
      (shapesOf ts.get? map.kind? t path tree) AllDescribe
  | [], t, path => follows_pure ⟨rfl, rfl⟩
  | s :: rest, t, path => by
    rw [argumentsOf, shapesOf]
    refine (follows_argumentOf s t path).bind fun shape first below hfirst => ?_
    refine (follows_argumentsOf rest t path).bind fun shapes others more hothers => ?_
    refine follows_pure ⟨first, others, below, more, hfirst, hothers, rfl, ?_⟩
    rw [List.append_nil]

end

theorem follows_keyArguments (type : String) (selection : SelectionTree) :
    Follows (keyArguments ts map suffixes type selection)
      (keyShapes ts.get? map.kind? type selection) AllDescribe := by
  rw [keyArguments, keyShapes]
  cases ts.get? type with
  | none => exact follows_fail _
  | some t => exact follows_argumentsOf selection t type

theorem follows_addKeyField (fields : List ObjectField) (type : String) (key : KeyDeclaration) :
    Follows (addKeyField ts map suffixes fields type key)
      (if keyFieldName (type, key) ∈ fields.map ObjectField.name then none
        else keyFieldShape ts.get? map.kind? (type, key))
      fun shape fields' inputs => ∃ field, shape.Describes field inputs ∧
        fields' = fields ++ [field] := by
  rw [addKeyField]
  simp only [ObjectField.declared_eq_true]
  by_cases h : keyFieldName (type, key) ∈ fields.map ObjectField.name
  · rw [if_pos h]
    simp only [keyFieldName] at h
    rw [if_pos h]
    exact follows_fail_bind _
  · rw [if_neg h]
    simp only [keyFieldName] at h
    rw [if_neg h, keyFieldShape]
    refine (follows_keyArguments type key.selection).bind fun shapes arguments inputs hshapes => ?_
    refine (follows_log _ _ _).bind_some ?_
    rintro _ _ ⟨-, rfl⟩
    refine follows_pure ⟨_, ⟨arguments, ?_, rfl⟩, rfl⟩
    rw [List.append_nil, List.append_nil]
    exact hshapes

theorem follows_addKeyFieldsOf (keys : List (String × KeyDeclaration)) (fields : List ObjectField) :
    Follows (addKeyFieldsOf ts map suffixes fields keys)
      (keyFieldShapes ts.get? map.kind? (fields.map ObjectField.name) keys)
      fun shapes fields' inputs => ∃ added, Collected KeyFieldShape.Describes shapes added inputs ∧
        fields' = fields ++ added := by
  induction keys generalizing fields with
  | nil => exact follows_pure ⟨[], .nil, (List.append_nil _).symm⟩
  | cons k rest ih =>
    obtain ⟨type, key⟩ := k
    rw [addKeyFieldsOf_cons, keyFieldShapes_cons]
    have hfirst : Follows (addKeyField ts map suffixes fields type key) _ _ :=
      follows_addKeyField fields type key
    by_cases h : keyFieldName (type, key) ∈ fields.map ObjectField.name
    · rw [if_pos h] at hfirst ⊢
      exact hfirst.bind_none
    · rw [if_neg h] at hfirst ⊢
      cases hshape : keyFieldShape ts.get? map.kind? (type, key) with
      | none =>
        rw [hshape] at hfirst
        exact hfirst.bind_none
      | some shape =>
        rw [hshape] at hfirst
        refine hfirst.bind_some ?_
        rintro _ inputs ⟨field, hfield, rfl⟩
        have hrest := ih (fields ++ [field])
        have hname : field.name = keyFieldName (type, key) := by
          obtain ⟨arguments, -, rfl⟩ := hfield
          exact name_of_keyFieldShape _ _ hshape
        rw [List.map_append, List.map_singleton, hname] at hrest
        refine hrest.map (shape :: ·) ?_
        rintro shapes _ more ⟨added, hadded, rfl⟩
        exact ⟨field :: added, .cons hfield hadded, by simp⟩

/-- Adding the query fields follows the shapes of the keys. -/
theorem follows_addKeyFields (fields : List ObjectField) :
    Follows (addKeyFields ts map suffixes fields)
      (keyFieldShapes ts.get? map.kind? (fields.map ObjectField.name) ts.queryKeys)
      fun shapes fields' inputs => ∃ added, Collected KeyFieldShape.Describes shapes added inputs ∧
        fields' = fields ++ added :=
  follows_addKeyFieldsOf ts.queryKeys fields

end

end EntityGraph
