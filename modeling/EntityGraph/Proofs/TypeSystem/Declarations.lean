import Mathlib
import EntityGraph.Proofs.TypeSystem

/-!
# Declarations of a type

Loading goes through the declarations of a document in order, and types do not mix on the way:
what becomes of a type depends on the declarations of its name alone, in their order
(`TypeSystem.typeOf`). The types of a loaded document are those of its names, no two of one name.

* `TypeSystem.exists_load_iff`: which documents can be loaded;
* `TypeSystem.get?_of_load`: the types and the query root of a loaded document;
* `TypeSystem.typeOf_unplaced`: it does not matter where a declaration is written.
-/

namespace EntityGraph

/-! ### Positions -/

/-- The directive as if all of it was written at the start of a document. -/
def DirectiveUse.unplaced (use : DirectiveUse Empty) : DirectiveUse Empty :=
  ⟨.start, ⟨use.name.value, .start⟩, use.arguments.map fun argument =>
    ⟨⟨argument.name.value, .start⟩, ⟨argument.value.value, .start⟩⟩⟩

/-- The declaration apart from the positions it has in its document. -/
def TypeDeclaration.unplaced (d : TypeDeclaration) : TypeDeclaration :=
  { d with directives := d.directives.map DirectiveUse.unplaced }

theorem DirectiveUse.argument?_unplaced (use : DirectiveUse Empty) (name : String) :
    use.unplaced.argument? name = (use.argument? name).map fun value => ⟨value.value, .start⟩ := by
  rw [argument?, argument?, unplaced, List.find?_map, Option.map_map, Option.map_map]
  rfl

namespace Declaration

def type? : Declaration → Option TypeDeclaration
  | .type d => some d
  | _ => none

def schema? : Declaration → Option SchemaDeclaration
  | .schema s => some s
  | _ => none

/-- The declarations of types and their extensions. -/
def typesIn (declarations : List Declaration) : List TypeDeclaration :=
  declarations.filterMap type?

/-- The schema definitions and their extensions. -/
def schemasIn (declarations : List Declaration) : List SchemaDeclaration :=
  declarations.filterMap schema?

/-- The declarations of one type. -/
def declarationsOf (name : String) (declarations : List Declaration) : List TypeDeclaration :=
  (typesIn declarations).filter fun d => d.name = name

theorem declarationsOf_cons_type (d : TypeDeclaration) (rest : List Declaration) :
    declarationsOf d.name (.type d :: rest) = d :: declarationsOf d.name rest :=
  List.filter_cons_of_pos (decide_eq_true rfl)

theorem declarationsOf_cons_type_of_ne {name : String} {d : TypeDeclaration} (h : d.name ≠ name)
    (rest : List Declaration) :
    declarationsOf name (.type d :: rest) = declarationsOf name rest :=
  List.filter_cons_of_neg (by simpa using h)

end Declaration

namespace TypeSystem

open Declaration

/-! ### One type -/

/-- What becomes of a type with a further declaration of its name. -/
def joined (existing : SourceType) (d : TypeDeclaration) : Except BuildError SourceType := do
  let t ← ofDeclaration d
  if d.isExtension then extend existing t
  else if existing.isBuiltIn then return existing
  else throw (.schemaParse (.declaredTwice existing.name))

/-- What becomes of a type, or of none, with the declarations of its name. -/
def typeOf : Option SourceType → List TypeDeclaration → Except BuildError (Option SourceType)
  | existing, [] => .ok existing
  | none, d :: rest => ofDeclaration d >>= fun t => typeOf (some t) rest
  | some t, d :: rest => joined t d >>= fun t => typeOf (some t) rest

/-- The built-in type of a name. -/
def builtIn? (name : String) : Option SourceType :=
  if name ∈ builtInScalars then some (.builtIn name) else none

/-- The query root named by the last schema definition which names one. -/
def rootOf (schemas : List SchemaDeclaration) : String :=
  (schemas.foldl (fun root s => (s.root? "query").or root) none).getD defaultQueryType

theorem keyOf_unplaced (type : String) (use : DirectiveUse Empty) :
    keyOf type use.unplaced = keyOf type use := by
  rw [keyOf, keyOf, DirectiveUse.argument?_unplaced]
  rcases use.argument? keyFieldsArgument with _ | ⟨_ | _, _⟩ <;> rfl

/-- Where the directives of a declaration are written does not matter for the type. -/
theorem ofDeclaration_unplaced (d : TypeDeclaration) :
    ofDeclaration d.unplaced = ofDeclaration d := by
  suffices h : keysOfDeclaration d.unplaced = keysOfDeclaration d by
    rw [ofDeclaration, ofDeclaration, h]
    rfl
  have hkeys : (d.unplaced.directives.filter fun use => use.name.value = keyDirective).mapM
      (keyOf d.name) = (d.directives.filter fun use => use.name.value = keyDirective).mapM
        (keyOf d.name) := by
    rw [TypeDeclaration.unplaced, List.filter_map, List.mapM_map]
    exact congrArg (List.mapM · _) (funext (keyOf_unplaced d.name))
  rw [keysOfDeclaration, keysOfDeclaration]
  cases hbody : d.body <;> simp only [TypeDeclaration.unplaced, hbody] at hkeys ⊢ <;> exact hkeys

theorem typeOf_cons (existing : Option SourceType) (d : TypeDeclaration)
    (rest : List TypeDeclaration) :
    typeOf existing (d :: rest) = typeOf existing [d] >>= fun t => typeOf t rest := by
  cases existing with
  | none =>
    rw [typeOf, typeOf]
    cases ofDeclaration d <;> rfl
  | some t =>
    rw [typeOf, typeOf]
    cases joined t d <;> rfl

theorem typeOf_unplaced (existing : Option SourceType) (ds : List TypeDeclaration) :
    typeOf existing (ds.map TypeDeclaration.unplaced) = typeOf existing ds := by
  induction ds generalizing existing with
  | nil => cases existing <;> rfl
  | cons d rest ih =>
    have hjoined (t : SourceType) : joined t d.unplaced = joined t d := by
      rw [joined, joined, ofDeclaration_unplaced]
      rfl
    cases existing with
    | none =>
      rw [List.map_cons, typeOf, typeOf, ofDeclaration_unplaced]
      exact congrArg _ (funext fun t => ih _)
    | some t =>
      rw [List.map_cons, typeOf, typeOf, hjoined]
      exact congrArg _ (funext fun t => ih _)

theorem name_of_ofDeclaration {d : TypeDeclaration} {t : SourceType}
    (h : ofDeclaration d = .ok t) : t.name = d.name := by
  obtain ⟨keys, -, h⟩ := Outcome.bind_eq_ok.1 h
  rw [← Except.ok.inj h]

/-- An extension adds parts and keys to a type, and nothing else. -/
theorem extend_eq_ok {t extension merged : SourceType} :
    extend t extension = .ok merged ↔ ∃ kind, mergeKind? t.kind extension.kind = some kind ∧
      merged = { t with kind, keys := t.keys ++ extension.keys } := by
  rw [extend]
  cases mergeKind? t.kind extension.kind <;> simp [eq_comm]

theorem joined_of_eq_ok {existing t : SourceType} {d : TypeDeclaration}
    (h : ofDeclaration d = .ok t) :
    joined existing d = if d.isExtension then extend existing t
      else if existing.isBuiltIn then .ok existing
      else .error (.schemaParse (.declaredTwice existing.name)) := by
  rw [joined, h]
  rfl

/-- A further declaration is an extension, or does nothing as the type is built in. -/
theorem joined_eq_ok {existing t : SourceType} {d : TypeDeclaration} :
    joined existing d = .ok t ↔ ∃ other, ofDeclaration d = .ok other ∧
      (d.isExtension = true ∧ extend existing other = .ok t ∨
        d.isExtension = false ∧ existing.isBuiltIn = true ∧ t = existing) := by
  rw [joined, Outcome.bind_eq_ok]
  refine exists_congr fun other => and_congr_right fun _ => ?_
  cases d.isExtension with
  | true => simp
  | false =>
    cases existing.isBuiltIn with
    | true => simp [pure, Except.pure, eq_comm]
    | false => simp [throw, throwThe, MonadExceptOf.throw]

theorem name_of_joined {existing t : SourceType} {d : TypeDeclaration}
    (h : joined existing d = .ok t) : t.name = existing.name := by
  obtain ⟨other, -, ⟨-, h⟩ | ⟨-, -, rfl⟩⟩ := joined_eq_ok.1 h
  · obtain ⟨kind, -, rfl⟩ := extend_eq_ok.1 h
    rfl
  · rfl

namespace Loading

/-! ### All types -/

/-- The type of a name which is loaded so far. -/
def type? (l : Loading) (name : String) : Option SourceType :=
  l.types.find? fun t => t.name = name

/-- No two types which are loaded so far have one name. -/
def NamesOnce (l : Loading) : Prop := (l.types.map (·.name)).Nodup

theorem name_of_type? {l : Loading} {name : String} {t : SourceType}
    (h : l.type? name = some t) : t.name = name := by
  rw [type?] at h
  simpa using List.find?_some h

theorem namesOnce_empty : empty.NamesOnce := by
  rw [NamesOnce, empty, List.map_map]
  decide

theorem type?_empty (name : String) : empty.type? name = builtIn? name := by
  have hmap : empty.type? name =
      (builtInScalars.find? fun other => other = name).map SourceType.builtIn := by
    rw [type?, empty, List.find?_map]
    rfl
  rw [hmap, builtIn?]
  cases hfind : builtInScalars.find? fun other => other = name with
  | none =>
    rw [if_neg fun hmem => by simpa using List.find?_eq_none.1 hfind name hmem]
    rfl
  | some other =>
    obtain rfl : other = name := by simpa using List.find?_some hfind
    rw [if_pos (List.mem_of_find?_eq_some hfind)]
    rfl

/-- With a new type behind the others. -/
def push (l : Loading) (t : SourceType) : Loading := { l with types := l.types ++ [t] }

/-- With a type in place of the one of a name. -/
def replace (l : Loading) (name : String) (t : SourceType) : Loading :=
  { l with types := l.types.map fun other => if other.name = name then t else other }

theorem type?_push {l : Loading} {t : SourceType} (h : l.type? t.name = none) (name : String) :
    (l.push t).type? name = if t.name = name then some t else l.type? name := by
  rw [type?, push, List.find?_append]
  split
  · next heq =>
    rw [← heq, show l.types.find? _ = none from h]
    simp
  · next hne => simp [hne, type?]

theorem names_replace (l : Loading) (t : SourceType) :
    (l.replace t.name t).types.map (·.name) = l.types.map (·.name) := by
  rw [replace, List.map_map]
  refine List.map_congr_left fun other _ => ?_
  by_cases h : other.name = t.name <;> simp [h]

theorem type?_replace {l : Loading} {t existing : SourceType}
    (h : l.type? t.name = some existing) (name : String) :
    (l.replace t.name t).type? name = if t.name = name then some t else l.type? name := by
  have hfind : (l.replace t.name t).type? name =
      (l.type? name).map fun other => if other.name = t.name then t else other := by
    rw [type?, type?, replace, List.find?_map]
    congr 2
    funext other
    by_cases h : other.name = t.name <;> simp [h]
  rw [hfind]
  split
  · next heq =>
    subst heq
    rw [h, Option.map_some, if_pos (name_of_type? h)]
  · next hne =>
    cases hother : l.type? name with
    | none => rfl
    | some other => rw [Option.map_some, if_neg (name_of_type? hother ▸ Ne.symm hne)]

/-- Adding a declaration of a type joins the type with it. -/
theorem addType_eq (l : Loading) (d : TypeDeclaration) :
    l.addType d =
      match l.type? d.name with
      | none => (ofDeclaration d).map l.push
      | some existing => (joined existing d).map fun t =>
        if d.isExtension then l.replace d.name t
        else { l with records := l.records ++ [LogSource.typeSystem.record .trace
          s!"Ignore redeclaration of built-in scalar {existing.name}"] } := by
  -- Adding looks for a type of the name which was read, joining for one of the declared name.
  cases hd : ofDeclaration d with
  | error e =>
    simp only [addType, joined, hd]
    cases l.type? d.name <;> rfl
  | ok t =>
    rw [addType, hd, ← name_of_ofDeclaration hd]
    simp only [joined_of_eq_ok hd]
    change (match l.type? t.name with
      | none => _
      | some existing => _) = _
    cases l.type? t.name with
    | none => rfl
    | some existing =>
      simp only
      cases d.isExtension with
      | true =>
        simp only [if_true]
        cases extend existing t <;> rfl
      | false => cases existing.isBuiltIn <;> rfl

/-- Adding a declaration of a type does to this type what the declaration says, and nothing to any
    other. -/
theorem addType_eq_ok {l l' : Loading} {d : TypeDeclaration} (h : l.addType d = .ok l') :
    (∃ t, typeOf (l.type? d.name) [d] = .ok (some t) ∧
      ∀ name, l'.type? name = if d.name = name then some t else l.type? name) ∧
    l'.queryType = l.queryType ∧ (l.NamesOnce → l'.NamesOnce) := by
  rw [addType_eq] at h
  cases htype : l.type? d.name with
  | none =>
    rw [htype] at h
    obtain ⟨t, ht, rfl⟩ := Outcome.map_eq_ok.1 h
    have hname := name_of_ofDeclaration ht
    refine ⟨⟨t, by rw [typeOf, ht]; rfl, fun name => ?_⟩, rfl, fun hl => ?_⟩
    · rw [← hname]
      exact type?_push (hname ▸ htype) name
    · -- The name is new, as there was no type of it.
      have hnew : t.name ∉ l.types.map (·.name) := by
        rintro hmem
        obtain ⟨other, hother, heq⟩ := List.mem_map.1 hmem
        rw [type?, List.find?_eq_none] at htype
        exact htype other hother (decide_eq_true (heq.trans hname))
      rw [NamesOnce, push, List.map_append, List.map_singleton, ← List.concat_eq_append]
      exact hl.concat hnew
  | some existing =>
    rw [htype] at h
    obtain ⟨t, ht, h⟩ := Outcome.map_eq_ok.1 h
    have hname : t.name = d.name := (name_of_joined ht).trans (name_of_type? htype)
    have htypeOf : typeOf (some existing) [d] = .ok (some t) := by rw [typeOf, ht]; rfl
    obtain ⟨_, -, ⟨hextension, -⟩ | ⟨hextension, -, rfl⟩⟩ := joined_eq_ok.1 ht
    · rw [if_pos hextension, ← hname] at h
      subst h
      refine ⟨⟨t, htypeOf, fun name => ?_⟩, rfl, fun hl => ?_⟩
      · rw [← hname]
        exact type?_replace (hname ▸ htype) name
      · rwa [NamesOnce, names_replace]
    · rw [hextension, if_neg Bool.false_ne_true] at h
      subst h
      refine ⟨⟨t, htypeOf, fun name => ?_⟩, rfl, id⟩
      split
      · next heq => exact heq ▸ htype
      · rfl

/-- A declaration of a type can be added if its type can be joined with it. -/
theorem exists_addType {l : Loading} {d : TypeDeclaration} {t : Option SourceType}
    (h : typeOf (l.type? d.name) [d] = .ok t) : ∃ l', l.addType d = .ok l' := by
  rw [addType_eq]
  cases htype : l.type? d.name with
  | none =>
    rw [htype] at h
    obtain ⟨t, ht, -⟩ := Outcome.bind_eq_ok.1 h
    exact ⟨_, Outcome.map_eq_ok.2 ⟨t, ht, rfl⟩⟩
  | some existing =>
    rw [htype] at h
    obtain ⟨t, ht, -⟩ := Outcome.bind_eq_ok.1 h
    exact ⟨_, Outcome.map_eq_ok.2 ⟨t, ht, rfl⟩⟩

/-- A type which was joined with a declaration of its name has the further ones still to come. -/
theorem typeOf_add {l l' : Loading} {d : Declaration} (h : l.add d = .ok l') (name : String)
    (rest : List Declaration) :
    typeOf (l.type? name) (declarationsOf name (d :: rest)) =
      typeOf (l'.type? name) (declarationsOf name rest) := by
  cases d with
  | schema s =>
    obtain rfl := Except.ok.inj h
    rfl
  | directive =>
    obtain rfl := Except.ok.inj h
    rfl
  | type d =>
    obtain ⟨⟨t, ht, htype⟩, -⟩ := addType_eq_ok h
    rw [htype]
    split
    · next heq =>
      subst heq
      rw [declarationsOf_cons_type, typeOf_cons, ht]
      rfl
    · next hne => rw [declarationsOf_cons_type_of_ne hne]

/-- Types do not mix: each becomes what its own declarations make of it. -/
theorem addAll_eq_ok {declarations : List Declaration} {l l' : Loading}
    (h : (l.addAll declarations).1 = .ok l') :
    (∀ name, typeOf (l.type? name) (declarationsOf name declarations) = .ok (l'.type? name)) ∧
    l'.queryType = (schemasIn declarations).foldl (fun root s => (s.root? "query").or root)
      l.queryType ∧ (l.NamesOnce → l'.NamesOnce) := by
  induction declarations generalizing l with
  | nil =>
    obtain rfl := Except.ok.inj h
    exact ⟨fun name => by rw [declarationsOf, typesIn, List.filterMap_nil, List.filter_nil, typeOf],
      rfl, id⟩
  | cons d rest ih =>
    rw [addAll] at h
    split at h
    · next next hnext =>
      -- Each type starts the rest of the way with what the first declaration made of it.
      obtain ⟨htypes, hroot, hnames⟩ := ih h
      refine ⟨fun name => (typeOf_add hnext name rest).trans (htypes name), ?_⟩
      cases d with
      | schema s =>
        obtain rfl := Except.ok.inj hnext
        exact ⟨hroot, hnames⟩
      | directive =>
        obtain rfl := Except.ok.inj hnext
        exact ⟨hroot, hnames⟩
      | type d =>
        obtain ⟨-, hsame, honce⟩ := addType_eq_ok hnext
        exact ⟨hsame ▸ hroot, hnames ∘ honce⟩
    · cases h

/-- Declarations can be added if each type can be joined with its own. -/
theorem exists_addAll {declarations : List Declaration} {l : Loading}
    (h : ∀ name, ∃ t, typeOf (l.type? name) (declarationsOf name declarations) = .ok t) :
    ∃ l', (l.addAll declarations).1 = .ok l' := by
  induction declarations generalizing l with
  | nil => exact ⟨l, rfl⟩
  | cons d rest ih =>
    have hnext : ∃ next, l.add d = .ok next := by
      cases d with
      | schema s => exact ⟨_, rfl⟩
      | directive => exact ⟨_, rfl⟩
      | type d =>
        obtain ⟨t, ht⟩ := h d.name
        rw [declarationsOf_cons_type, typeOf_cons] at ht
        obtain ⟨joined, hjoined, -⟩ := Outcome.bind_eq_ok.1 ht
        exact exists_addType hjoined
    obtain ⟨next, hnext⟩ := hnext
    obtain ⟨l', hl'⟩ := ih fun name => by
      rw [← typeOf_add hnext]
      exact h name
    exact ⟨l', by rw [addAll, hnext]; exact hl'⟩

end Loading

/-! ### Documents -/

variable {sdl : String} {declarations : List Declaration}

theorem load_of_readAll (h : readAll sdl = .ok declarations) :
    load sdl = (Loading.empty.addAll declarations).1 >>= Loading.finish := by
  unfold load loadLogged
  rw [h]
  rfl

/-- The first type of a name is the only one. -/
theorem find?_of_mem {types : List SourceType} (h : (types.map (·.name)).Nodup) {t : SourceType}
    (ht : t ∈ types) : types.find? (fun other => other.name = t.name) = some t := by
  cases hfirst : types.find? fun other => other.name = t.name with
  | none => exact absurd (decide_eq_true rfl) (List.find?_eq_none.1 hfirst t ht)
  | some first =>
    have hname : first.name = t.name := by simpa using List.find?_some hfirst
    rw [List.inj_on_of_nodup_map h (List.mem_of_find?_eq_some hfirst) ht hname]

/-- A loaded query root has to be an object. -/
theorem Loading.finish_eq {l : Loading} (hl : l.NamesOnce) :
    l.finish =
      let root := l.queryType.getD defaultQueryType
      if (l.type? root).any SourceType.isObject then .ok ⟨l.types, root⟩
      else .error (.missingQueryType root) := by
  have hany (root : String) : (l.types.any fun t => t.name = root && t.isObject) =
      (l.type? root).any SourceType.isObject := by
    rw [Bool.eq_iff_iff, List.any_eq_true, Option.any_eq_true]
    constructor
    · rintro ⟨t, ht, hroot⟩
      rw [Bool.and_eq_true, decide_eq_true_eq] at hroot
      obtain ⟨rfl, hobject⟩ := hroot
      exact ⟨t, find?_of_mem hl ht, hobject⟩
    · rintro ⟨t, ht, hobject⟩
      exact ⟨t, List.mem_of_find?_eq_some ht, by simp [name_of_type? ht, hobject]⟩
  rw [finish]
  simp only [hany]

/-- Loading a document whose declarations were added. -/
theorem load_of_addAll (h : readAll sdl = .ok declarations) {l : Loading}
    (hl : (Loading.empty.addAll declarations).1 = .ok l) :
    load sdl =
      let root := rootOf (schemasIn declarations)
      if (l.type? root).any SourceType.isObject then .ok ⟨l.types, root⟩
      else .error (.missingQueryType root) := by
  obtain ⟨-, hroot, hnames⟩ := Loading.addAll_eq_ok hl
  -- Nothing named a query root before the document.
  have hqueryType : l.queryType.getD defaultQueryType = rootOf (schemasIn declarations) :=
    congrArg (Option.getD · defaultQueryType) hroot
  rw [load_of_readAll h, hl]
  refine (Loading.finish_eq (hnames Loading.namesOnce_empty)).trans ?_
  rw [hqueryType]

/-- The types of a loaded document are those of its names, no two of one name; the query root is
    the one named last, an object. -/
theorem get?_of_load (h : readAll sdl = .ok declarations) {ts : TypeSystem}
    (hts : load sdl = .ok ts) :
    (∀ name, typeOf (builtIn? name) (declarationsOf name declarations) = .ok (ts.get? name)) ∧
      ts.queryType = rootOf (schemasIn declarations) ∧ (ts.types.map (·.name)).Nodup ∧
      (ts.get? ts.queryType).any SourceType.isObject = true := by
  have hadded := hts
  rw [load_of_readAll h] at hadded
  obtain ⟨l, hl, -⟩ := Outcome.bind_eq_ok.1 hadded
  obtain ⟨htypes, -, hnames⟩ := Loading.addAll_eq_ok hl
  rw [load_of_addAll h hl] at hts
  simp only at hts
  split at hts
  · next hobject =>
    obtain rfl := Except.ok.inj hts
    refine ⟨fun name => ?_, rfl, hnames Loading.namesOnce_empty, hobject⟩
    rw [← Loading.type?_empty]
    exact htypes name
  · cases hts

/-- A document can be loaded exactly if each type can be joined with its declarations and the query
    root becomes an object. -/
theorem exists_load_iff (h : readAll sdl = .ok declarations) :
    (∃ ts, load sdl = .ok ts) ↔ ∃ types : String → Option SourceType,
      (∀ name, typeOf (builtIn? name) (declarationsOf name declarations) = .ok (types name)) ∧
        (types (rootOf (schemasIn declarations))).any SourceType.isObject = true := by
  constructor
  · rintro ⟨ts, hts⟩
    obtain ⟨htypes, hroot, -, hobject⟩ := get?_of_load h hts
    exact ⟨ts.get?, htypes, hroot ▸ hobject⟩
  · rintro ⟨types, htypes, hobject⟩
    obtain ⟨l, hl⟩ := Loading.exists_addAll (l := .empty) fun name =>
      ⟨_, (Loading.type?_empty name).symm ▸ htypes name⟩
    obtain ⟨hadded, -⟩ := Loading.addAll_eq_ok hl
    have hsame (name : String) : l.type? name = types name := by
      refine Except.ok.inj ((hadded name).symm.trans ?_)
      rw [Loading.type?_empty, htypes]
    refine ⟨_, (load_of_addAll h hl).trans (if_pos ?_)⟩
    rwa [hsame]

end TypeSystem

end EntityGraph
