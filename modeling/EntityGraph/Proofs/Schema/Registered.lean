import Mathlib
import EntityGraph.Proofs.QueryByKey.Naming
import EntityGraph.Proofs.Schema.References

/-!
# Registered types

The evaluated types of a document are registered by name, those generated for the query fields last.
Of several types of one name the last one is registered, so a declared type is lost if a generated
one has its name. Nothing keeps names apart: those of the generated types follow the keys of the
document (`TypeSystem.generatedNames`), and any of them may be the name of a declared type.

* `find?_lastByName`: of several items of one name the last one is kept;
* `Schema.registered_of_typesOf`: a declared type is registered unless its name is generated, and
  otherwise the generated type is.
-/

namespace EntityGraph

/-! ### Registering -/

section

variable {α : Type} {name : α → String}

theorem lastByName_concat (items : List α) (item : α) :
    lastByName name (items ++ [item]) =
      if (lastByName name items).any fun other => name other = name item then
        (lastByName name items).map fun other => if name other = name item then item else other
      else lastByName name items ++ [item] := by
  rw [lastByName, List.foldl_append]
  rfl

/-- Items which are kept have names of their own. -/
theorem nodup_lastByName (items : List α) : ((lastByName name items).map name).Nodup := by
  induction items using List.reverseRecOn with
  | nil => exact List.nodup_nil
  | append_singleton items item ih =>
    rw [lastByName_concat]
    split
    · -- An item is put in the place of one of the same name.
      rw [List.map_map, List.map_congr_left (g := name)]
      · exact ih
      · intro other _
        rw [Function.comp_apply]
        split
        · next hsame => exact hsame.symm
        · rfl
    · next hnew =>
      rw [List.map_append, List.map_singleton, ← List.concat_eq_append, List.nodup_concat]
      refine ⟨fun hold => hnew ?_, ih⟩
      obtain ⟨other, hother, hsame⟩ := List.mem_map.1 hold
      exact List.any_eq_true.2 ⟨other, hother, decide_eq_true hsame⟩

/-- An item in the place of those of its name is found under this name only. -/
theorem find?_map_replace (items : List α) (item : α) (n : String) :
    (items.map fun other => if name other = name item then item else other).find?
        (fun other => name other = n) =
      (items.find? fun other => name other = n).map fun other =>
        if name item = n then item else other := by
  have hname (other : α) :
      name (if name other = name item then item else other) = name other := by
    split
    · next heq => exact heq.symm
    · rfl
  rw [List.find?_map]
  simp only [Function.comp_def, hname]
  cases hfind : items.find? fun other => name other = n with
  | none => rfl
  | some found =>
    obtain rfl : name found = n := by simpa using List.find?_some hfind
    simp only [Option.map_some, eq_comm]

/-- Of several items of one name the last one is kept. -/
theorem find?_lastByName (items : List α) (n : String) :
    (lastByName name items).find? (fun item => name item = n) =
      (items.filter fun item => name item = n).getLast? := by
  induction items using List.reverseRecOn with
  | nil => rfl
  | append_singleton items item ih =>
    rw [lastByName_concat, List.filter_append]
    by_cases hname : name item = n
    · subst hname
      rw [List.filter_singleton, decide_eq_true rfl, cond_true, List.getLast?_concat]
      split
      · next hold =>
        obtain ⟨found, hfound⟩ := Option.isSome_iff_exists.1 (List.find?_isSome.2
          (List.any_eq_true.1 hold))
        rw [find?_map_replace, hfound, Option.map_some, if_pos rfl]
      · next hnew =>
        rw [List.find?_append, List.find?_eq_none.2 fun other hother hsame =>
          hnew (List.any_eq_true.2 ⟨other, hother, hsame⟩)]
        simp
    · rw [List.filter_singleton, decide_eq_false hname, cond_false, List.append_nil, ← ih]
      split
      · rw [find?_map_replace]
        simp only [if_neg hname, Option.map_id']
      · rw [List.find?_append]
        simp [hname]

/-- Of items whose names differ there is one of a name. -/
theorem filter_name_of_mem {items : List α} (hnames : (items.map name).Nodup) {item : α}
    (hitem : item ∈ items) : (items.filter fun other => name other = name item) = [item] := by
  induction items with
  | nil => cases hitem
  | cons first rest ih =>
    rw [List.map_cons, List.nodup_cons] at hnames
    rcases List.mem_cons.1 hitem with rfl | hrest
    · rw [List.filter_cons_of_pos (by simp), List.filter_eq_nil_iff.2]
      intro other hother hsame
      exact hnames.1 (of_decide_eq_true hsame ▸ List.mem_map_of_mem hother)
    · rw [List.filter_cons_of_neg, ih hnames.2 hrest]
      intro hsame
      exact hnames.1 (of_decide_eq_true hsame ▸ List.mem_map_of_mem hrest)

/-- Of items whose names differ each is found under its name. -/
theorem find?_name_of_mem {items : List α} (hnames : (items.map name).Nodup) {item : α}
    (hitem : item ∈ items) : items.find? (fun other => name other = name item) = some item := by
  rw [← List.head?_filter, filter_name_of_mem hnames hitem, List.head?_cons]

theorem filter_name_of_not_mem {items : List α} {n : String} (h : n ∉ items.map name) :
    (items.filter fun other => name other = n) = [] := by
  refine List.filter_eq_nil_iff.2 fun other hother hsame => h ?_
  exact of_decide_eq_true hsame ▸ List.mem_map_of_mem hother

/-- What stands for one name only stands there once. -/
theorem flatMap_ite_name {items : List α} (hnames : (items.map name).Nodup) (n : String)
    (paths : List String) :
    (items.flatMap fun item => if name item = n then paths else []) =
      if n ∈ items.map name then paths else [] := by
  induction items with
  | nil => rfl
  | cons first rest ih =>
    rw [List.map_cons, List.nodup_cons] at hnames
    rw [List.flatMap_cons, ih hnames.2, List.map_cons]
    by_cases hfirst : name first = n
    · subst hfirst
      rw [if_pos rfl, if_neg hnames.1, if_pos List.mem_cons_self, List.append_nil]
    · simp [hfirst, Ne.symm hfirst]

end

/-! ### Names of generated types -/

/-- The paths after which types are generated: those of all keys with a query field, none if the
    query root is left to introspection. -/
def TypeSystem.generatedPaths (ts : TypeSystem) : List String :=
  if isReserved ts.queryType then [] else ts.queryKeys.flatMap keyPaths

/-- The names of the types which are generated. -/
def TypeSystem.generatedNames (ts : TypeSystem) (suffixes : Suffixes) : List String :=
  suffixes.namesFrom 0 ts.generatedPaths

namespace Assembly

open Generating

variable {ts : TypeSystem} {map : Assembly} {suffixes : Suffixes}

/-- The paths after which evaluating the definition generates types. -/
def definitionPaths (ts : TypeSystem) : Definition → List String
  | .object _ _ true => ts.queryKeys.flatMap keyPaths
  | _ => []

theorem names_finishObject (t : SourceType) (parts : List ObjectField × List String) :
    Names suffixes (finishObject t parts) [] := by
  rw [finishObject]
  refine (names_log _ _ _).bind_nil fun _ => ?_
  refine (names_mk _).bind_nil fun _ => ?_
  exact (names_mk _).bind_nil fun _ => names_pure _

/-- Only for the query root types are generated. -/
theorem names_define (d : Definition) :
    Names suffixes (define ts map suffixes d) (definitionPaths ts d) := by
  cases d with
  | node => exact names_pure nodeType
  | copied t => exact names_mk (defineCopied map t)
  | object t firstKey isRoot =>
    change Names suffixes (defineObject ts map suffixes t firstKey isRoot) _
    rw [defineObject_eq]
    refine (names_lift _).bind_nil fun own => ?_
    rw [← List.append_nil (definitionPaths ts _)]
    refine Names.bind ?_ (names_finishObject t)
    cases isRoot with
    | false => exact names_pure own
    | true =>
      rw [rootParts, if_pos rfl]
      refine (names_lift _).bind_nil fun fields => ?_
      rw [← List.append_nil (definitionPaths ts _)]
      exact (names_addKeyFields fields).bind fun _ => names_pure _

/-- For the definition of a type, paths are those of the keys if it is the query root. -/
theorem definitionPaths_of_definitionOf (hroot : ∀ t ∈ ts.types, t.name = ts.queryType →
    t.isObject = true) {t : SourceType} (ht : t ∈ ts.types) {d : Definition}
    (hd : definitionOf ts t = .ok d) :
    definitionPaths ts d = if t.name = ts.queryType then ts.queryKeys.flatMap keyPaths else [] := by
  by_cases hobject : t.isObject = true
  · rw [definitionOf_of_isObject hobject] at hd
    obtain ⟨firstKey, rfl, -⟩ := objectDefinition_eq_ok hd
    by_cases hname : t.name = ts.queryType
    · rw [decide_eq_true hname, if_pos hname, definitionPaths]
    · rw [decide_eq_false hname, if_neg hname, definitionPaths]
      simp
  · have hname : t.name ≠ ts.queryType := fun hname => hobject (hroot t ht hname)
    rw [if_neg hname]
    obtain ⟨_, _, hkind, -⟩ | ⟨-, rfl⟩ := definitionOf_eq_ok hd
    · rw [SourceType.isObject, hkind] at hobject
      exact absurd rfl hobject
    · rfl

/-- The paths of the definitions are those after which types are generated. -/
theorem flatMap_definitionPaths {sdl : String} (hts : TypeSystem.load sdl = .ok ts)
    (hmap : (ofTypeSystem ts).1 = .ok map) :
    (definitions map).flatMap (definitionPaths ts) = ts.generatedPaths := by
  obtain ⟨declarations, hread⟩ := TypeSystem.exists_readAll_of_load hts
  obtain ⟨-, -, hnames, hobject⟩ := TypeSystem.get?_of_load hread hts
  obtain ⟨root, hget, hobject⟩ := (Option.any_eq_true _ _).1 hobject
  have hmem : root ∈ ts.types := List.mem_of_find?_eq_some hget
  have hroot : root.name = ts.queryType := TypeSystem.name_of_get? hget
  have hroots : ∀ t ∈ ts.types, t.name = ts.queryType → t.isObject = true := by
    intro t ht hname
    rwa [List.inj_on_of_nodup_map hnames ht hmem (hname.trans hroot.symm)]
  obtain ⟨ds, hds, hdefinitions⟩ := definitions_ofTypeSystem hmap
  have hpaths : ds.flatMap (definitionPaths ts) = (ts.types.filter SourceType.isDefined).flatMap
      fun t => if t.name = ts.queryType then ts.queryKeys.flatMap keyPaths else [] := by
    refine flatMap_eq_of_forall₂ ((List.forall₂_and_left _ _).2 ⟨fun t ht =>
      (List.mem_filter.1 ht).1, hds⟩) fun t d ⟨ht, hd⟩ => ?_
    exact definitionPaths_of_definitionOf hroots ht hd
  have hbuiltIn := TypeSystem.isBuiltIn_of_isObject (TypeSystem.scalar_of_load hts hmem) hobject
  have hdefined : ts.queryType ∈ (ts.types.filter SourceType.isDefined).map (·.name) ↔
      isReserved ts.queryType = false := by
    constructor
    · intro h
      obtain ⟨t, ht, hname⟩ := List.mem_map.1 h
      have hisDefined := (List.mem_filter.1 ht).2
      rw [SourceType.isDefined, Bool.and_eq_true, hname] at hisDefined
      simpa using hisDefined.1
    · intro h
      refine List.mem_map.2 ⟨root, List.mem_filter.2 ⟨hmem, ?_⟩, hroot⟩
      rw [SourceType.isDefined, hroot, h, hbuiltIn]
      rfl
  rw [hdefinitions, List.flatMap_cons, hpaths, flatMap_ite_name
    (hnames.sublist (List.filter_sublist.map _)), TypeSystem.generatedPaths]
  by_cases hreserved : isReserved ts.queryType = true
  · rw [if_neg, if_pos hreserved]
    · rfl
    · rw [hdefined, hreserved]
      simp
  · rw [if_pos, if_neg hreserved]
    · rfl
    · simpa [hdefined] using hreserved

end Assembly

namespace Schema

open Assembly Generating

variable {sdl : String} {ts : TypeSystem} {suffixes : Suffixes} {types defined : List SchemaType}
  {inputs : List GeneratedInput}

/-- The generated types have the names which the keys tell. -/
theorem names_of_typesOf (hts : TypeSystem.load sdl = .ok ts)
    (htypes : (typesOf ts suffixes).1 = .ok types) (hevaluated : Evaluated ts types defined inputs) :
    inputs.map (·.name) = ts.generatedNames suffixes := by
  rw [typesOf_fst] at htypes
  obtain ⟨map, hmap, htypes⟩ := Outcome.bind_eq_ok.1 htypes
  rw [Outcome.mapError_eq_ok] at hmap
  obtain ⟨evaluated, g, hrun, hget⟩ := run_bind_eq_ok
    (x := (definitions map).mapM (define ts map.begun suffixes))
    (f := fun types => do return types ++ (← get).generated.map GeneratedInput.type)
    (Prod.ext htypes rfl)
  obtain ⟨-, hnames⟩ := names_mapM (definitions map) names_define _ _ _ hrun
  obtain ⟨-, rfl⟩ := hevaluated.eq_of_append hmap (length_of_mapM hrun)
    (Except.ok.inj (congrArg Prod.fst hget)).symm
  rw [flatMap_definitionPaths hts hmap] at hnames
  exact hnames

/-- The types of a document have names of their own, and none the one of a built-in scalar. -/
theorem nodup_defined (hts : TypeSystem.load sdl = .ok ts)
    (hevaluated : Evaluated ts types defined inputs) {map : Assembly}
    (hmap : (ofTypeSystem ts).1 = .ok map) :
    ((nodeType :: defined).map SchemaType.name).Nodup ∧
      ∀ type ∈ nodeType :: defined, type.name ∉ builtInScalars := by
  obtain ⟨declarations, hread⟩ := TypeSystem.exists_readAll_of_load hts
  obtain ⟨-, -, hnames, -⟩ := TypeSystem.get?_of_load hread hts
  have hsame : defined.map SchemaType.name =
      (ts.types.filter SourceType.isDefined).map (·.name) :=
    map_eq_of_forall₂ hevaluated.defined fun _ _ h => h.name
  have hdefined : ∀ t ∈ ts.types.filter SourceType.isDefined,
      t.name ≠ nodeInterface ∧ t.name ∉ builtInScalars := by
    intro t ht
    obtain ⟨ht, hisDefined⟩ := List.mem_filter.1 ht
    rw [SourceType.isDefined, Bool.and_eq_true] at hisDefined
    constructor
    · -- A type of the name of the interface could not be declared.
      obtain hreserved | ⟨hnode, -⟩ := exists_declareAll_iff.1 ⟨map, hmap⟩ t ht
      · simp [hreserved] at hisDefined
      · exact hnode
    · rw [← TypeSystem.isBuiltIn_iff_of_load hts ht]
      simpa using hisDefined.2
  constructor
  · rw [List.map_cons, List.nodup_cons, hsame]
    refine ⟨fun h => ?_, hnames.sublist (List.filter_sublist.map _)⟩
    obtain ⟨t, ht, hname⟩ := List.mem_map.1 h
    exact (hdefined t ht).1 hname
  · intro type htype
    rcases List.mem_cons.1 htype with rfl | htype
    · decide
    · have hname : type.name ∈ (ts.types.filter SourceType.isDefined).map (·.name) :=
        hsame ▸ List.mem_map_of_mem htype
      obtain ⟨t, ht, hname⟩ := List.mem_map.1 hname
      exact hname ▸ (hdefined t ht).2

/-- Of the types which were evaluated, the last generated one of the name of a type is registered,
    and the type itself if none is generated. -/
theorem get?_ofTypes (hts : TypeSystem.load sdl = .ok ts)
    (hevaluated : Evaluated ts types defined inputs) {map : Assembly}
    (hmap : (ofTypeSystem ts).1 = .ok map) {type : SchemaType} (htype : type ∈ nodeType :: defined) :
    (ofTypes ts.queryType types).get? type.name = some
      (((inputs.filter fun input => input.name = type.name).getLast?.map
        GeneratedInput.type).getD type) := by
  obtain ⟨hnodup, hbuiltIn⟩ := nodup_defined hts hevaluated hmap
  have hscalars : (builtInScalars.map fun name => SchemaType.scalar ⟨name, none⟩).filter
      (fun other => other.name = type.name) = [] := by
    refine filter_name_of_not_mem fun h => hbuiltIn type htype ?_
    rw [List.map_map] at h
    obtain ⟨name, hname, heq⟩ := List.mem_map.1 h
    exact heq ▸ hname
  rw [get?, ofTypes, find?_lastByName, hevaluated.types, List.filter_append, List.filter_append,
    hscalars, List.append_nil, filter_name_of_mem hnodup htype, List.filter_map, List.getLast?_append,
    List.getLast?_map]
  change ((inputs.filter fun input => input.name = type.name).getLast?.map GeneratedInput.type).or
    (some type) = _
  cases (inputs.filter fun input => input.name = type.name).getLast? <;> rfl

/-- Which types are registered under the names of the declared ones, with suffixes which count from
    the start. The generated types have the names which the keys tell, each a different one and none
    the name of a built-in scalar or of the interface of global ids. A type is registered if its name
    is not one of them. If it is, the generated type of this name is registered instead. -/
theorem registered_of_typesOf (hts : TypeSystem.load sdl = .ok ts)
    (htypes : (typesOf ts .counting).1 = .ok types) :
    ∃ defined inputs, Evaluated ts types defined inputs ∧
      inputs.map (·.name) = ts.generatedNames .counting ∧
      (ts.generatedNames .counting).Nodup ∧
      (∀ name ∈ ts.generatedNames .counting, name ≠ nodeInterface ∧ name ∉ builtInScalars) ∧
      ∀ type ∈ nodeType :: defined,
        (type.name ∉ ts.generatedNames .counting →
          (ofTypes ts.queryType types).get? type.name = some type) ∧
        ∀ input ∈ inputs, input.name = type.name →
          (ofTypes ts.queryType types).get? type.name = some (GeneratedInput.type input) := by
  obtain ⟨map, defined, inputs, hmap, hevaluated⟩ := typesOf_eq_ok htypes
  have hnames := names_of_typesOf hts htypes hevaluated
  have hnodup : (ts.generatedNames .counting).Nodup := Suffixes.nodup_namesFrom_counting 0 _
  refine ⟨defined, inputs, hevaluated, hnames, hnodup, fun name hname => ?_, fun type htype => ?_⟩
  · have hletter : 'p' ∈ name.toList := Suffixes.mem_toList_of_mem_namesFrom hname
    constructor
    · rintro rfl
      revert hletter
      decide
    · intro hbuiltIn
      have hnone : ∀ scalar ∈ builtInScalars, 'p' ∉ scalar.toList := by decide
      exact hnone name hbuiltIn hletter
  · rw [← hnames, get?_ofTypes hts hevaluated hmap htype]
    constructor
    · intro hnew
      rw [filter_name_of_not_mem hnew]
      rfl
    · intro input hinput hname
      rw [← hname, filter_name_of_mem (hnames ▸ hnodup) hinput]
      rfl

/-- An input of the document is lost, as it has the name which is generated for the key of `T`. The
    other types are registered. -/
theorem registered_of_typesOf_lost :
    let sdl := "type Query \x7b f(v: TBInput0): Int \x7d input TBInput0 \x7b x: Int \x7d
      type T @key(fields: \"b \x7b c \x7d\") \x7b b: B \x7d type B \x7b c: Int \x7d"
    ∃ ts types defined inputs, TypeSystem.load sdl = .ok ts ∧
      (typesOf ts .counting).1 = .ok types ∧ Evaluated ts types defined inputs ∧
      ts.generatedNames .counting = ["TBInput0"] ∧
      (∃ type ∈ defined, type.name = "TBInput0" ∧ type.fieldNames = ["x"]) ∧
      (∃ input ∈ inputs, input.fields.map (·.name) = ["c"] ∧
        (ofTypes ts.queryType types).get? "TBInput0" = some (GeneratedInput.type input)) ∧
      ∃ type ∈ defined, type.name = "B" ∧ (ofTypes ts.queryType types).get? "B" = some type := by
  intro sdl
  let read (t : SchemaType) : String × List String := (t.name, t.fieldNames)
  have hfacts : ∃ ts ∈ (TypeSystem.load sdl).toOption, ts.generatedNames .counting = ["TBInput0"] ∧
      ∃ types ∈ (typesOf ts .counting).1.toOption, types.map read =
        ("Node", ["id"]) :: [("Query", ["f", "id", "node", "tByB_C_"]), ("TBInput0", ["x"]),
          ("T", ["b", "id"]), ("B", ["c"])] ++ [("TBInput0", ["c"])] := by
    decide +kernel
  obtain ⟨ts, hts, hgenerated, types, htypes, hread⟩ := hfacts
  rw [Option.mem_def, Outcome.toOption_eq_some] at hts htypes
  obtain ⟨defined, inputs, hevaluated, hnames, -, -, hregistered⟩ := registered_of_typesOf hts htypes
  rw [hgenerated] at hnames hregistered
  obtain ⟨input, rfl, hname⟩ := List.map_eq_singleton_iff.1 hnames
  rw [hevaluated.types, List.map_append] at hread
  obtain ⟨hdefined, hinput⟩ := List.append_inj' hread rfl
  have hmem (name : String) (fields : List String) (h : (name, fields) ∈ defined.map read) :
      ∃ type ∈ defined, type.name = name ∧ type.fieldNames = fields := by
    obtain ⟨type, htype, heq⟩ := List.mem_map.1 h
    exact ⟨type, htype, congrArg Prod.fst heq, congrArg Prod.snd heq⟩
  rw [List.map_cons] at hdefined
  obtain ⟨lost, hlost, hlostName, hlostFields⟩ := hmem "TBInput0" ["x"]
    (by rw [(List.cons.inj hdefined).2]; decide)
  obtain ⟨kept, hkept, hkeptName, -⟩ := hmem "B" ["c"] (by rw [(List.cons.inj hdefined).2]; decide)
  refine ⟨ts, types, defined, [input], hts, htypes, hevaluated, hgenerated,
    ⟨lost, hlost, hlostName, hlostFields⟩, ⟨input, List.mem_cons_self, ?_, ?_⟩,
    kept, hkept, hkeptName, ?_⟩
  · exact congrArg Prod.snd (List.cons.inj hinput).1
  · rw [← hlostName]
    exact (hregistered lost (List.mem_cons_of_mem _ hlost)).2 input List.mem_cons_self
      (hname.trans hlostName.symm)
  · rw [← hkeptName]
    refine (hregistered kept (List.mem_cons_of_mem _ hkept)).1 ?_
    rw [hkeptName]
    decide

end Schema

end EntityGraph
