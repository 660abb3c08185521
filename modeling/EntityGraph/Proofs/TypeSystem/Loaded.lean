import Mathlib
import EntityGraph.TypeMap
import EntityGraph.Proofs.TypeSystem.Extending

/-!
# What is loaded

Loading neither loses nor doubles anything. The built-in scalars come first and are what they were,
whatever a document declares anew. Behind them every other name has one type, in the order in which
the names first occur (`TypeSystem.names_addAll`), and the parts of this type are those of all
declarations of its name, one behind the other (`TypeSystem.collects_foldlM_joined`).

* `TypeSystem.Loaded`: a type system holds what the declarations of a document say;
* `TypeSystem.loaded_of_load`: a loaded type system does.
-/

namespace EntityGraph

/-! ### Parts -/

/-- The parts of a type, whatever its kind is. -/
structure TypeParts where
  interfaces : List String
  fields : List FieldDeclaration
  members : List String
  values : List String
  inputFields : List InputValue

/-- The parts a declaration writes down. -/
def TypeBody.parts : TypeBody → TypeParts
  | .scalar => ⟨[], [], [], [], []⟩
  | .object interfaces fields => ⟨interfaces, fields, [], [], []⟩
  | .interface interfaces fields => ⟨interfaces, fields, [], [], []⟩
  | .union members => ⟨[], [], members, [], []⟩
  | .enum values => ⟨[], [], [], values.map (·.name), []⟩
  | .inputObject fields => ⟨[], [], [], [], fields⟩

/-- The parts a type has. -/
def TypeKind.parts : TypeKind → TypeParts
  | .scalar => ⟨[], [], [], [], []⟩
  | .object interfaces fields => ⟨interfaces, fields, [], [], []⟩
  | .interface interfaces fields => ⟨interfaces, fields, [], [], []⟩
  | .union members => ⟨[], [], members, [], []⟩
  | .enum values => ⟨[], [], [], values, []⟩
  | .inputObject fields => ⟨[], [], [], [], fields⟩

/-- The parts of all declarations, one behind the other. -/
def TypeParts.ofDeclarations (ds : List TypeDeclaration) : TypeParts where
  interfaces := ds.flatMap (·.body.parts.interfaces)
  fields := ds.flatMap (·.body.parts.fields)
  members := ds.flatMap (·.body.parts.members)
  values := ds.flatMap (·.body.parts.values)
  inputFields := ds.flatMap (·.body.parts.inputFields)

/-- The kind of type a declaration writes down. -/
def TypeBody.tag : TypeBody → Kind
  | .scalar => .scalar
  | .object .. => .object
  | .interface .. => .interface
  | .union _ => .union
  | .enum _ => .enum
  | .inputObject _ => .inputObject

/-- The field set of a key as it is written; none if there is no text. -/
def DirectiveUse.fieldSet? (use : DirectiveUse Empty) : Option String :=
  match use.argument? TypeSystem.keyFieldsArgument with
  | some ⟨.string fields, _⟩ => some fields
  | _ => none

/-- The field sets of the keys which a declaration of an object or an interface writes down. -/
def TypeDeclaration.fieldSets (d : TypeDeclaration) : List (Option String) :=
  match d.body with
  | .object .. | .interface .. =>
    (d.directives.filter fun use => use.name.value = TypeSystem.keyDirective).map
      DirectiveUse.fieldSet?
  | _ => []

namespace TypeSystem

open Declaration

/-! ### One type -/

/-- The type, which is not built in, holds what its declarations say, all of it and nothing else. -/
structure Collects (t : SourceType) (ds : List TypeDeclaration) : Prop where
  isBuiltIn : t.isBuiltIn = false
  kind : ∀ d ∈ ds, d.body.tag = t.kind.tag
  parts : t.kind.parts = .ofDeclarations ds
  /-- Every key which is written down has a field set, and the type has these keys. -/
  keys : t.keys.map (fun key => some key.fields) = ds.flatMap (·.fieldSets)
  selections : ∀ key ∈ t.keys, SelectionTree.read key.fields = .ok key.selection

theorem tag_kindOf (body : TypeBody) : (kindOf body).tag = body.tag := by
  cases body <;> rfl

theorem parts_kindOf (body : TypeBody) : (kindOf body).parts = body.parts := by
  cases body <;> rfl

/-- Merging appends the parts of two types of one kind. -/
theorem parts_mergeKind? {k e merged : TypeKind} (h : mergeKind? k e = some merged) :
    merged.tag = k.tag ∧ merged.tag = e.tag ∧
      merged.parts = ⟨k.parts.interfaces ++ e.parts.interfaces, k.parts.fields ++ e.parts.fields,
        k.parts.members ++ e.parts.members, k.parts.values ++ e.parts.values,
        k.parts.inputFields ++ e.parts.inputFields⟩ := by
  cases k <;> cases e <;> cases h <;> exact ⟨rfl, rfl, rfl⟩

theorem keyOf_eq_ok {type : String} {use : DirectiveUse Empty} {key : KeyDeclaration}
    (h : keyOf type use = .ok key) :
    some key.fields = use.fieldSet? ∧ SelectionTree.read key.fields = .ok key.selection := by
  rw [keyOf] at h
  split at h
  · next fields hargument =>
    split at h
    · next selection hread =>
      obtain rfl := Except.ok.inj h
      exact ⟨by rw [DirectiveUse.fieldSet?, hargument], hread⟩
    · cases h
  · cases h

/-- The keys of a declaration are those it writes down. -/
theorem keysOfDeclaration_eq_ok {d : TypeDeclaration} {keys : List KeyDeclaration}
    (h : keysOfDeclaration d = .ok keys) :
    keys.map (fun key => some key.fields) = d.fieldSets ∧
      ∀ key ∈ keys, SelectionTree.read key.fields = .ok key.selection := by
  have hall {uses : List (DirectiveUse Empty)} (h : uses.mapM (keyOf d.name) = .ok keys) :
      keys.map (fun key => some key.fields) = uses.map DirectiveUse.fieldSet? ∧
        ∀ key ∈ keys, SelectionTree.read key.fields = .ok key.selection := by
    refine ⟨Outcome.map_eq_of_mapM_eq_ok _ _ (fun hkey => (keyOf_eq_ok hkey).1) h, ?_⟩
    intro key hkey
    obtain ⟨use, -, huse⟩ := Outcome.exists_of_mem_mapM h hkey
    exact (keyOf_eq_ok huse).2
  rw [keysOfDeclaration] at h
  rw [TypeDeclaration.fieldSets]
  cases hbody : d.body with
  | object | interface =>
    simp only [hbody] at h
    exact hall h
  | _ =>
    simp only [hbody] at h
    obtain rfl := Except.ok.inj h
    exact ⟨rfl, fun _ hkey => absurd hkey List.not_mem_nil⟩

/-- The first declaration of a name becomes its type. -/
theorem collects_ofDeclaration {d : TypeDeclaration} {t : SourceType}
    (h : ofDeclaration d = .ok t) : Collects t [d] := by
  obtain ⟨keys, hkeys, h⟩ := Outcome.bind_eq_ok.1 h
  obtain rfl := Except.ok.inj h
  obtain ⟨hsets, hselections⟩ := keysOfDeclaration_eq_ok hkeys
  refine ⟨rfl, fun other hother => ?_, ?_, ?_, hselections⟩
  · rw [List.mem_singleton.1 hother, tag_kindOf]
  · simp only [TypeParts.ofDeclarations, List.flatMap_singleton]
    exact parts_kindOf d.body
  · rwa [List.flatMap_singleton]

/-- A further declaration adds what it says behind the rest. -/
theorem collects_joined {t u : SourceType} {d : TypeDeclaration} {ds : List TypeDeclaration}
    (h : joined t d = .ok u) (hcollects : Collects t ds) : Collects u (ds ++ [d]) := by
  obtain ⟨other, hother, ⟨-, h⟩ | ⟨-, hbuiltIn, -⟩⟩ := joined_eq_ok.1 h
  · obtain ⟨kind, hkind, rfl⟩ := extend_eq_ok.1 h
    obtain ⟨htag, htag', hparts⟩ := parts_mergeKind? hkind
    have hnew := collects_ofDeclaration hother
    refine ⟨hcollects.isBuiltIn, fun e he => ?_, ?_, ?_, fun key hkey => ?_⟩
    · rcases List.mem_append.1 he with he | he
      · exact (hcollects.kind e he).trans htag.symm
      · exact (hnew.kind e he).trans htag'.symm
    · rw [hparts, hcollects.parts, hnew.parts]
      simp only [TypeParts.ofDeclarations, List.flatMap_append]
    · rw [List.map_append, hcollects.keys, hnew.keys, List.flatMap_append]
    · rcases List.mem_append.1 hkey with hkey | hkey
      · exact hcollects.selections key hkey
      · exact hnew.selections key hkey
  · rw [hcollects.isBuiltIn] at hbuiltIn
    cases hbuiltIn

theorem collects_foldlM_joined {rest ds : List TypeDeclaration} {t u : SourceType}
    (h : rest.foldlM joined t = .ok u) (hcollects : Collects t ds) : Collects u (ds ++ rest) := by
  -- `ds` grows by each declaration, as the type does.
  induction rest generalizing t ds with
  | nil =>
    obtain rfl := Except.ok.inj h
    rwa [List.append_nil]
  | cons d rest ih =>
    rw [List.foldlM_cons] at h
    obtain ⟨next, hnext, h⟩ := Outcome.bind_eq_ok.1 h
    rw [List.append_cons]
    exact ih h (collects_joined hnext hcollects)

/-- A type which was not there before holds what its declarations say. -/
theorem collects_of_typeOf {ds : List TypeDeclaration} {t : SourceType}
    (h : typeOf none ds = .ok (some t)) : Collects t ds := by
  cases ds with
  | nil => cases h
  | cons d rest =>
    rw [typeOf] at h
    obtain ⟨first, hfirst, h⟩ := Outcome.bind_eq_ok.1 h
    rw [typeOf_some] at h
    obtain ⟨u, hu, heq⟩ := Outcome.map_eq_ok.1 h
    obtain rfl := Option.some.inj heq
    exact collects_foldlM_joined hu (collects_ofDeclaration hfirst)

/-- Only objects and interfaces have keys. -/
theorem Collects.keyed {t : SourceType} {ds : List TypeDeclaration} (h : Collects t ds)
    (hkeys : t.keys ≠ []) : t.kind.tag = .object ∨ t.kind.tag = .interface := by
  obtain ⟨key, hkey⟩ := List.exists_mem_of_ne_nil _ hkeys
  have hset : some key.fields ∈ ds.flatMap (·.fieldSets) := by
    rw [← h.keys]
    exact List.mem_map_of_mem hkey
  obtain ⟨d, hd, hset⟩ := List.mem_flatMap.1 hset
  rw [← h.kind d hd]
  rw [TypeDeclaration.fieldSets] at hset
  cases hbody : d.body with
  | object => exact .inl rfl
  | interface => exact .inr rfl
  | _ =>
    simp only [hbody] at hset
    cases hset

/-- A built-in scalar stays the one it is: whatever is declared of it adds nothing. -/
theorem eq_builtIn_of_foldlM_joined {ds : List TypeDeclaration} {name : String} {u : SourceType}
    (h : ds.foldlM joined (.builtIn name) = .ok u) : u = .builtIn name := by
  induction ds with
  | nil => exact (Except.ok.inj h).symm
  | cons d rest ih =>
    rw [List.foldlM_cons] at h
    obtain ⟨next, hnext, h⟩ := Outcome.bind_eq_ok.1 h
    suffices hsame : next = .builtIn name by
      rw [hsame] at h
      exact ih h
    obtain ⟨other, hother, ⟨-, hextend⟩ | ⟨-, -, hsame⟩⟩ := joined_eq_ok.1 hnext
    · -- An extension of a scalar is one of a scalar, which has no keys.
      obtain ⟨kind, hkind, rfl⟩ := extend_eq_ok.1 hextend
      obtain ⟨htag, htag', -⟩ := parts_mergeKind? hkind
      have hkeys : other.keys = [] := by
        by_contra hne
        have hkeyed := (collects_ofDeclaration hother).keyed hne
        rw [← htag', htag] at hkeyed
        rcases hkeyed with hkeyed | hkeyed <;> cases hkeyed
      have hscalar : kind = .scalar := by
        cases kind with
        | scalar => rfl
        | _ => cases htag
      rw [hkeys, hscalar]
      rfl
    · exact hsame

/-! ### All names -/

theorem eraseDups_of_nodup {names : List String} (h : names.Nodup) : names.eraseDups = names := by
  induction names with
  | nil => rfl
  | cons n rest ih =>
    obtain ⟨hn, hrest⟩ := List.nodup_cons.1 h
    rw [List.eraseDups_cons, List.filter_eq_self.2, ih hrest]
    intro other hother
    simpa using fun heq : other = n => hn (heq ▸ hother)

/-- A name which occurred before does not count again. -/
theorem eraseDups_append_cons_of_mem {names rest : List String} {n : String} (h : n ∈ names) :
    (names ++ n :: rest).eraseDups = (names ++ rest).eraseDups := by
  rw [List.eraseDups_append, List.eraseDups_append, List.removeAll, List.removeAll,
    List.filter_cons_of_neg (by simpa using h)]

namespace Loading

/-- A declaration puts its name behind the others unless it is one of them. -/
theorem names_addType {l l' : Loading} {d : TypeDeclaration} (h : l.addType d = .ok l') :
    l'.types.map (·.name) = if d.name ∈ l.types.map (·.name) then l.types.map (·.name)
      else l.types.map (·.name) ++ [d.name] := by
  have hmem : (l.type? d.name).isSome = true ↔ d.name ∈ l.types.map (·.name) := by
    simp [type?, List.find?_isSome]
  rw [addType_eq] at h
  cases htype : l.type? d.name with
  | none =>
    rw [htype] at h hmem
    obtain ⟨t, ht, rfl⟩ := Outcome.map_eq_ok.1 h
    have hnew : d.name ∉ l.types.map (·.name) := by
      intro hold
      cases hmem.2 hold
    rw [if_neg hnew, push, List.map_append, List.map_singleton, name_of_ofDeclaration ht]
  | some existing =>
    rw [htype] at h hmem
    obtain ⟨t, ht, rfl⟩ := Outcome.map_eq_ok.1 h
    rw [if_pos (hmem.1 rfl)]
    split
    · rw [← (name_of_joined ht).trans (name_of_type? htype), names_replace]
    · rfl

/-- The names which are loaded are those declared, in the order in which they first occur. -/
theorem names_addAll {declarations : List Declaration} {l l' : Loading}
    (h : (l.addAll declarations).1 = .ok l') (hl : l.NamesOnce) :
    l'.types.map (·.name) =
      (l.types.map (·.name) ++ (typesIn declarations).map (·.name)).eraseDups := by
  induction declarations generalizing l with
  | nil =>
    obtain rfl := Except.ok.inj h
    rw [typesIn, List.filterMap_nil, List.map_nil, List.append_nil, eraseDups_of_nodup hl]
  | cons d rest ih =>
    rw [addAll] at h
    split at h
    · next next hnext =>
      cases d with
      | schema s =>
        obtain rfl := Except.ok.inj hnext
        rw [ih h hl]
        rfl
      | directive =>
        obtain rfl := Except.ok.inj hnext
        rw [ih h hl]
        rfl
      | type d =>
        -- A new name is put where it occurs first, an old one is there already.
        obtain ⟨-, -, honce⟩ := addType_eq_ok hnext
        rw [ih h (honce hl), names_addType hnext]
        change _ = (_ ++ d.name :: (typesIn rest).map (·.name)).eraseDups
        split
        · next hold => rw [eraseDups_append_cons_of_mem hold]
        · rw [← List.append_cons]
    · cases h

end Loading

/-! ### Documents -/

variable {sdl : String} {ds : List Declaration} {ts : TypeSystem}

/-- The type system holds what the declarations of a document say, all of it and nothing else. -/
structure Loaded (ds : List Declaration) (ts : TypeSystem) : Prop where
  names : (ts.types.map (·.name)).Nodup
  /-- The built-in scalars come first. Behind them every other name has one type, in the order in
      which the names first occur. -/
  types : ∃ declared, ts.types = builtInScalars.map SourceType.builtIn ++ declared ∧
    declared.map (·.name) =
      (((typesIn ds).map (·.name)).filter fun name => name ∉ builtInScalars).eraseDups ∧
    ∀ t ∈ declared, Collects t (declarationsOf t.name ds)
  keyed : ∀ t ∈ ts.types, t.keys ≠ [] → t.kind.tag = .object ∨ t.kind.tag = .interface
  keys : ∀ t ∈ ts.types, ∀ key ∈ t.keys,
    key.selection ≠ [] ∧ SelectionTree.read key.fields = .ok key.selection
  /-- The query root is the one named by the last schema definition which names one. -/
  root : ts.queryType =
    ((schemasIn ds).filterMap fun s => s.root? "query").getLast?.getD defaultQueryType
  rootIsObject : ∃ t ∈ ts.types, t.name = ts.queryType ∧ t.isObject = true

theorem rootOf_eq (schemas : List SchemaDeclaration) :
    rootOf schemas = (schemas.filterMap fun s => s.root? "query").getLast?.getD defaultQueryType := by
  have hfold (root : Option String) :
      schemas.foldl (fun root s => (s.root? "query").or root) root =
        (schemas.filterMap fun s => s.root? "query").getLast?.or root := by
    induction schemas generalizing root with
    | nil => rfl
    | cons s rest ih =>
      rw [List.foldl_cons, ih, List.filterMap_cons]
      cases s.root? "query" with
      | none => rfl
      | some name =>
        simp only
        rw [List.getLast?_cons]
        cases (rest.filterMap fun s => s.root? "query").getLast? <;> rfl
  rw [rootOf, hfold, Option.or_none]

theorem exists_readAll_of_load (hts : load sdl = .ok ts) : ∃ ds, readAll sdl = .ok ds := by
  unfold load loadLogged at hts
  cases hread : readAll sdl with
  | error fault =>
    rw [hread] at hts
    cases hts
  | ok ds => exact ⟨ds, rfl⟩

/-- A type of the name of a built-in scalar is this scalar. -/
theorem eq_builtIn_of_load (hread : readAll sdl = .ok ds) (hts : load sdl = .ok ts) {t : SourceType}
    (ht : t ∈ ts.types) (hname : t.name ∈ builtInScalars) : t = .builtIn t.name := by
  obtain ⟨htypes, -, hnames, -⟩ := get?_of_load hread hts
  have htype := htypes t.name
  rw [builtIn?, if_pos hname, typeOf_some, get?, find?_of_mem hnames ht] at htype
  obtain ⟨u, hu, heq⟩ := Outcome.map_eq_ok.1 htype
  obtain rfl := Option.some.inj heq
  exact eq_builtIn_of_foldlM_joined hu

/-- A type of any other name holds what the declarations of this name say. -/
theorem collects_of_load (hread : readAll sdl = .ok ds) (hts : load sdl = .ok ts) {t : SourceType}
    (ht : t ∈ ts.types) (hname : t.name ∉ builtInScalars) :
    Collects t (declarationsOf t.name ds) := by
  obtain ⟨htypes, -, hnames, -⟩ := get?_of_load hread hts
  have htype := htypes t.name
  rw [builtIn?, if_neg hname, get?, find?_of_mem hnames ht] at htype
  exact collects_of_typeOf htype

/-- The built-in types are those with the names of built-in scalars. -/
theorem isBuiltIn_iff_of_load (hts : load sdl = .ok ts) {t : SourceType} (ht : t ∈ ts.types) :
    t.isBuiltIn = true ↔ t.name ∈ builtInScalars := by
  obtain ⟨ds, hread⟩ := exists_readAll_of_load hts
  constructor
  · intro hbuiltIn
    by_contra hname
    rw [(collects_of_load hread hts ht hname).isBuiltIn] at hbuiltIn
    cases hbuiltIn
  · intro hname
    rw [eq_builtIn_of_load hread hts ht hname]
    rfl

/-- The names of a loaded type system are those of the built-in scalars and of the declarations,
    each where it first occurs. -/
theorem names_of_load (hread : readAll sdl = .ok ds) (hts : load sdl = .ok ts) :
    ts.types.map (·.name) = (builtInScalars ++ (typesIn ds).map (·.name)).eraseDups := by
  have hadded := hts
  rw [load_of_readAll hread] at hadded
  obtain ⟨l, hl, -⟩ := Outcome.bind_eq_ok.1 hadded
  rw [load_of_addAll hread hl] at hts
  simp only at hts
  split at hts
  · obtain rfl := Except.ok.inj hts
    rw [Loading.names_addAll hl Loading.namesOnce_empty, Loading.empty, List.map_map]
    rfl
  · cases hts

/-- A field set which was read selects something. -/
theorem ne_nil_of_read {fields : String} {tree : SelectionTree}
    (h : SelectionTree.read fields = .ok tree) : tree ≠ [] := by
  rintro rfl
  unfold SelectionTree.read at h
  split at h
  · cases h
  · next document _ =>
    rw [SelectionTree.ofDocument] at h
    split at h
    · split at h
      · cases h
      · split at h
        · cases h
        · cases h
        · next hne _ => exact hne (Except.ok.inj h)
    · cases h

/-- A loaded type system starts with the built-in scalars. The names behind them are those of the
    other declarations, each where it first occurs. -/
theorem types_of_load (hread : readAll sdl = .ok ds) (hts : load sdl = .ok ts) :
    ∃ declared, ts.types = builtInScalars.map SourceType.builtIn ++ declared ∧
      declared.map (·.name) =
        (((typesIn ds).map (·.name)).filter fun name => name ∉ builtInScalars).eraseDups ∧
      ∀ t ∈ declared, t.name ∉ builtInScalars := by
  obtain ⟨-, -, hnodup, -⟩ := get?_of_load hread hts
  have hnames := names_of_load hread hts
  rw [hnames] at hnodup
  rw [List.eraseDups_append, eraseDups_of_nodup (by decide)] at hnames hnodup
  obtain ⟨builtIns, declared, htypes, hbuiltIns, hdeclared⟩ := List.map_eq_append_iff.1 hnames
  refine ⟨declared, ?_, ?_, fun t ht hname => ?_⟩
  · -- Each of the first types has the name of a built-in scalar, so it is this scalar.
    have hsame : builtIns.map (fun t => SourceType.builtIn t.name) = builtIns := by
      refine (List.map_congr_left fun t ht => ?_).trans builtIns.map_id
      exact (eq_builtIn_of_load hread hts (htypes ▸ List.mem_append_left _ ht)
        (hbuiltIns ▸ List.mem_map_of_mem ht)).symm
    rw [htypes, ← hbuiltIns, List.map_map]
    exact congrArg (· ++ declared) hsame.symm
  · rw [hdeclared, List.removeAll]
    congr 1
    exact List.filter_congr fun name _ => by simp
  · exact List.disjoint_of_nodup_append hnodup hname (hdeclared ▸ List.mem_map_of_mem ht)

/-- A loaded type system holds what the declarations of its document say. -/
theorem loaded_of_load (hts : load sdl = .ok ts) : ∃ ds, readAll sdl = .ok ds ∧ Loaded ds ts := by
  obtain ⟨ds, hread⟩ := exists_readAll_of_load hts
  obtain ⟨-, hroot, hnodup, hobject⟩ := get?_of_load hread hts
  obtain ⟨declared, htypes, hdeclared, hnew⟩ := types_of_load hread hts
  have hcollects : ∀ t ∈ declared, Collects t (declarationsOf t.name ds) := by
    intro t ht
    exact collects_of_load hread hts (htypes ▸ List.mem_append_right _ ht) (hnew t ht)
  -- A type with a key was declared, as built-in scalars have none.
  have hkeys : ∀ t ∈ ts.types, ∀ key ∈ t.keys, t ∈ declared := by
    intro t ht key hkey
    rw [htypes] at ht
    rcases List.mem_append.1 ht with hbuiltIn | ht
    · obtain ⟨name, -, rfl⟩ := List.mem_map.1 hbuiltIn
      cases hkey
    · exact ht
  refine ⟨ds, hread, hnodup, ⟨declared, htypes, hdeclared, hcollects⟩, ?_, ?_,
    hroot.trans (rootOf_eq _), ?_⟩
  · intro t ht hne
    obtain ⟨key, hkey⟩ := List.exists_mem_of_ne_nil _ hne
    exact (hcollects t (hkeys t ht key hkey)).keyed hne
  · intro t ht key hkey
    have hread := (hcollects t (hkeys t ht key hkey)).selections key hkey
    exact ⟨ne_nil_of_read hread, hread⟩
  · obtain ⟨root, hget, hobject⟩ := (Option.any_eq_true _ _).1 hobject
    exact ⟨root, List.mem_of_find?_eq_some hget, by simpa using List.find?_some hget, hobject⟩

/-- `Int` is declared anew, `T` is only extended, and an extension of `Root` brings its key. -/
theorem loaded_of_load_extended :
    let sdl := "scalar Int extend type T @key(fields: \"c\") \x7b c: Int \x7d schema \x7b query: Root \x7d
      type Root \x7b t: T \x7d extend type Root @key(fields: \"t \x7b c \x7d\")"
    ∃ ts, load sdl = .ok ts ∧ ts.queryType = "Root" ∧
      ts.types.map (fun t => (t.name, t.keys.map (·.fields))) =
        builtInScalars.map (fun name => (name, [])) ++ [("T", ["c"]), ("Root", ["t \x7b c \x7d"])] ∧
      ∃ ds, readAll sdl = .ok ds ∧ Loaded ds ts := by
  intro sdl
  have hfacts : ∃ ts ∈ (load sdl).toOption, ts.queryType = "Root" ∧
      ts.types.map (fun t => (t.name, t.keys.map (·.fields))) =
        builtInScalars.map (fun name => (name, [])) ++
          [("T", ["c"]), ("Root", ["t \x7b c \x7d"])] := by
    decide +kernel
  obtain ⟨ts, hts, hroot, htypes⟩ := hfacts
  have hloaded : load sdl = .ok ts := Outcome.toOption_eq_some.1 hts
  exact ⟨ts, hloaded, hroot, htypes, loaded_of_load hloaded⟩

end TypeSystem

end EntityGraph
