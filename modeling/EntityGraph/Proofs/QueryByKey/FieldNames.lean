import Mathlib
import EntityGraph.Proofs.Language.Scanning
import EntityGraph.Proofs.QueryByKey.Adding
import EntityGraph.Proofs.QueryByKey.Walks
import EntityGraph.Proofs.Schema.Rearranged

/-!
# Names of query fields

The name of a query field joins the names of the selected fields and puts an underscore on either
side of a nested selection. Both underscores look the same, so a name does not tell its key: the
keys `a { b { c } d }` and `a { b } c { d }` are both written `A_B_C_D_`. The types tell them apart:
a field may be passed in or has fields of its own, but never both
(`TypeMap.not_takesLeaf_of_known`). Read along the types from left to right, a name is the name of
one key only, if the names in it can be told apart where they are joined (`isPlainName`).

* `selection_eq_of_fieldName_eq`: keys of one type which both have arguments differ in their names.
* `queryFieldExists_of_rejected_key`: a key without arguments may be given the name of another one.
-/

namespace EntityGraph

/-! ### Plain names -/

/-- The character goes on with a name. -/
def goesOn (c : Char) : Bool := c.isLower || c.isDigit

/-- A lower-case letter, with lower-case letters and digits behind it. -/
def isPlainName (name : String) : Bool :=
  match name.toList with
  | [] => false
  | c :: rest => c.isLower && rest.all goesOn

theorem toNat_of_isLower {c : Char} : c.isLower = true ↔ 97 ≤ c.toNat ∧ c.toNat ≤ 122 := by
  simp only [Char.isLower, Bool.and_eq_true, decide_eq_true_eq, ge_iff_le, UInt32.le_iff_toNat_le]
  rfl

/-- Upper case moves a lower-case letter by a fixed distance. -/
theorem toNat_toUpper {c : Char} (h : c.isLower = true) : c.toUpper.toNat + 32 = c.toNat := by
  have hc := toNat_of_isLower.1 h
  have hrange : 'a'.val ≤ c.val ∧ c.val ≤ 'z'.val := by simpa [Char.isLower] using h
  have hdistance : ('A'.val - 'a'.val).toNat = 2 ^ 32 - 32 := by decide
  rw [Char.toUpper, dif_pos hrange]
  simp only [Char.toNat, UInt32.toNat_add, hdistance] at *
  omega

theorem not_goesOn_toUpper {c : Char} (h : c.isLower = true) : goesOn c.toUpper = false := by
  have hc := toNat_of_isLower.1 h
  have hupper := toNat_toUpper h
  have hlower : ¬ c.toUpper.isLower = true := fun h => by
    have := toNat_of_isLower.1 h
    omega
  have hdigit : ¬ c.toUpper.isDigit = true := fun h => by
    simp only [Char.isDigit, Bool.and_eq_true, decide_eq_true_eq, ge_iff_le,
      UInt32.le_iff_toNat_le] at h
    have hle : c.toUpper.toNat ≤ 57 := h.2
    omega
  rw [goesOn, Bool.eq_false_iff.2 hlower, Bool.eq_false_iff.2 hdigit]
  rfl

/-- In upper case a plain name has one letter which does not go on with a name, its first. -/
theorem upperFirst_of_isPlainName {name : String} (h : isPlainName name = true) :
    ∃ c rest, name.toList = c :: rest ∧ c.isLower = true ∧ (∀ d ∈ rest, goesOn d = true) ∧
      (upperFirst name).toList = c.toUpper :: rest := by
  rw [isPlainName] at h
  split at h
  · cases h
  · next c rest hname =>
    rw [Bool.and_eq_true, List.all_eq_true] at h
    refine ⟨c, rest, hname, h.1, h.2, ?_⟩
    have hascii : c.toNat < 0x80 := by
      have := toNat_of_isLower.1 h.1
      omega
    rw [upperFirst, hname]
    simp only [LetterCase.upper, if_pos hascii, String.toList_ofList, List.singleton_append]

/-- Where nothing goes on with a plain name, it can be read off its upper case. -/
theorem eq_of_upperFirst_append_eq {name name' : String} (h : isPlainName name = true)
    (h' : isPlainName name' = true) {rest rest' : List Char}
    (hrest : ∀ c ∈ rest.head?, goesOn c = false) (hrest' : ∀ c ∈ rest'.head?, goesOn c = false)
    (heq : (upperFirst name).toList ++ rest = (upperFirst name').toList ++ rest') :
    name = name' ∧ rest = rest' := by
  obtain ⟨c, cs, hname, hc, hcs, hupper⟩ := upperFirst_of_isPlainName h
  obtain ⟨d, ds, hname', hd, hds, hupper'⟩ := upperFirst_of_isPlainName h'
  rw [hupper, hupper', List.cons_append, List.cons_append, List.cons.injEq] at heq
  obtain ⟨hfirst, heq⟩ := heq
  have hcd : c = d := by
    have hsame := congrArg Char.toNat hfirst
    rw [← Char.toNat_inj]
    have := toNat_toUpper hc
    have := toNat_toUpper hd
    omega
  obtain ⟨htake, hdrop⟩ := Lexical.takeWhile_run hcs hrest
  obtain ⟨htake', hdrop'⟩ := Lexical.takeWhile_run hds hrest'
  rw [heq, htake'] at htake
  rw [heq, hdrop'] at hdrop
  refine ⟨String.toList_inj.1 ?_, hdrop.symm⟩
  rw [hname, hname', hcd, htake]

namespace Selection

mutual

/-- All names in a selection, at any depth. -/
def allNames : Selection → List String
  | .mk name children => name :: allNamesOfList children

def allNamesOfList : List Selection → List String
  | [] => []
  | s :: rest => allNames s ++ allNamesOfList rest

end

end Selection

/-- All names in a selection are plain, at any depth. -/
def SelectionTree.Plain (tree : SelectionTree) : Prop :=
  ∀ name ∈ Selection.allNamesOfList tree, isPlainName name = true

instance (tree : SelectionTree) : Decidable tree.Plain :=
  inferInstanceAs (Decidable (∀ _ ∈ _, _))

namespace SelectionTree

theorem plain_cons {name : String} {children rest : SelectionTree} :
    Plain (.mk name children :: rest) ↔ isPlainName name = true ∧ children.Plain ∧ Plain rest := by
  simp only [Plain, Selection.allNamesOfList, Selection.allNames, List.cons_append,
    List.forall_mem_cons, List.forall_mem_append]

end SelectionTree

/-! ### Leaves and nested fields -/

/-- The kind a name is declared with: that of the interface of global ids, or of the type. -/
def TypeSystem.declaredKind? (ts : TypeSystem) (name : String) : Option Kind :=
  (if nodeInterface = name then some .interface else none).or
    (if isReserved name then none else (ts.get? name).map (·.kind.tag))

/-- The type map of a type system knows the declared kinds. -/
theorem Assembly.kind?_eq_declaredKind? {ts : TypeSystem} {map : Assembly}
    (h : (ofTypeSystem ts).1 = .ok map) : map.begun.kind? = ts.declaredKind? :=
  funext (kind?_ofTypeSystem h)

section

variable {δ : Type} {ts : TypeSystem} {map : TypeMap δ}

/-- Only objects and interfaces have fields. -/
theorem SourceType.isInput_tag_of_field? {t : SourceType} {name : String} {field : FieldDeclaration}
    (h : t.field? name = some field) : t.kind.tag.isInput = false := by
  rw [field?, fields] at h
  cases hkind : t.kind with
  | object => rfl
  | interface => rfl
  | _ =>
    rw [hkind] at h
    cases h

/-- A type on which a field is known may not be passed in. -/
theorem TypeMap.not_takesLeaf_of_known (hmap : map.kind? = ts.declaredKind?) {type : TypeRef}
    {inner : SourceType} {c : Selection} {cs : SelectionTree}
    (hinner : ts.get? type.core = some inner) (hknown : Selection.AllKnown ts inner (c :: cs)) :
    ¬ ∃ kind, map.kind? type.core = some kind ∧ kind.isInput = true := by
  rintro ⟨kind, hkind, hinput⟩
  obtain ⟨name, children⟩ := c
  obtain ⟨⟨field, hfield, -⟩, -⟩ := hknown
  rw [hmap, TypeSystem.declaredKind?, hinner, Option.or_eq_some_iff] at hkind
  -- The name is the one of the interface of global ids, or of the type itself.
  rcases hkind with hkind | ⟨-, hkind⟩
  · split at hkind
    · cases hkind
      cases hinput
    · cases hkind
  · split at hkind
    · cases hkind
    · cases hkind
      rw [SourceType.isInput_tag_of_field? hfield] at hinput
      cases hinput

/-- The selection can be made on the type with leaves which may be passed in, and its names can be
    told apart. -/
structure SelectionTree.Readable (ts : TypeSystem) (map : TypeMap δ) (t : SourceType)
    (tree : SelectionTree) : Prop where
  known : Selection.AllKnown ts t tree
  leaves : map.TakesLeaves ts t tree
  plain : tree.Plain

namespace SelectionTree.Readable

variable {t : SourceType} {name : String} {c : Selection} {children cs rest : SelectionTree}
  {field : FieldDeclaration}

theorem tail (h : Readable ts map t (.mk name children :: rest)) : Readable ts map t rest :=
  ⟨h.known.2, (TypeMap.takesLeaves_cons.1 h.leaves).2, (plain_cons.1 h.plain).2.2⟩

theorem exists_field (h : Readable ts map t (.mk name children :: rest)) :
    ∃ field, t.field? name = some field := by
  obtain ⟨⟨field, hfield, -⟩, -⟩ := h.known
  exact ⟨field, hfield⟩

theorem leaf (h : Readable ts map t (.mk name [] :: rest)) (hfield : t.field? name = some field) :
    ∃ kind, map.kind? field.type.core = some kind ∧ kind.isInput = true :=
  (TypeMap.takesLeaves_leaf hfield).1 (TypeMap.takesLeaves_cons.1 h.leaves).1

theorem nested (h : Readable ts map t (.mk name (c :: cs) :: rest))
    (hfield : t.field? name = some field) :
    ∃ inner, ts.get? field.type.core = some inner ∧ Readable ts map inner (c :: cs) := by
  obtain ⟨⟨field', hfield', hbelow⟩, -⟩ := h.known
  cases hfield.symm.trans hfield'
  obtain ⟨inner, hinner, hknown⟩ := hbelow.resolve_left (List.cons_ne_nil c cs)
  refine ⟨inner, hinner, hknown, ?_, (plain_cons.1 h.plain).2.1⟩
  exact (TypeMap.takesLeaves_nested hfield hinner).1 (TypeMap.takesLeaves_cons.1 h.leaves).1

/-- A field is a leaf in one selection and nested in another one for no type. -/
theorem not_leaf_and_nested (hmap : map.kind? = ts.declaredKind?) {rest' : SelectionTree}
    (hleaf : Readable ts map t (.mk name [] :: rest))
    (hnested : Readable ts map t (.mk name (c :: cs) :: rest')) : False := by
  obtain ⟨field, hfield⟩ := hleaf.exists_field
  obtain ⟨inner, hinner, hbelow⟩ := hnested.nested hfield
  exact TypeMap.not_takesLeaf_of_known hmap hinner hbelow.known (hleaf.leaf hfield)

end SelectionTree.Readable

/-! ### Reading a name -/

/-- The part of a name behind the name of a selected field. -/
def nestedName : SelectionTree → List Char
  | [] => []
  | c :: cs => '_' :: ((keyNames (c :: cs)).toList ++ ['_'])

theorem toList_keyNames_nil : (keyNames []).toList = [] := by
  rw [keyNames]
  rfl

theorem toList_keyNames_cons (name : String) (children rest : SelectionTree) :
    (keyNames (.mk name children :: rest)).toList =
      (upperFirst name).toList ++ (nestedName children ++ (keyNames rest).toList) := by
  rw [keyNames, String.toList_append]
  cases children with
  | nil => rw [keyName, nestedName, List.nil_append]
  | cons c cs =>
    have hunderscore : "_".toList = ['_'] := rfl
    rw [keyName, nestedName, String.toList_append, String.toList_append, String.toList_append,
      hunderscore]
    simp only [List.append_assoc, List.cons_append, List.nil_append]

/-- The name of a field is over, or the selection it is in. -/
def Closes (behind : List Char) : Prop := ∀ c ∈ behind.head?, c = '_'

theorem closes_nil : Closes [] := fun _ h => nomatch h

theorem closes_underscore (behind : List Char) : Closes ('_' :: behind) := by
  rintro c ⟨⟩
  rfl

/-- Names of fields begin with a letter in upper case. -/
theorem head?_keyNames_cons {name : String} {children rest : SelectionTree} {behind : List Char}
    (h : isPlainName name = true) :
    ∃ c : Char, c.isLower = true ∧
      ((keyNames (.mk name children :: rest)).toList ++ behind).head? = some c.toUpper := by
  obtain ⟨c, cs, -, hc, -, hupper⟩ := upperFirst_of_isPlainName h
  refine ⟨c, hc, ?_⟩
  rw [toList_keyNames_cons, hupper, List.cons_append, List.cons_append, List.head?_cons]

theorem not_goesOn_keyNames {tree : SelectionTree} {behind : List Char} (htree : tree.Plain)
    (hbehind : Closes behind) :
    ∀ c ∈ ((keyNames tree).toList ++ behind).head?, goesOn c = false := by
  intro c hc
  cases tree with
  | nil =>
    obtain rfl := hbehind c hc
    rfl
  | cons s rest =>
    obtain ⟨name, children⟩ := s
    obtain ⟨d, hd, hhead⟩ := head?_keyNames_cons (SelectionTree.plain_cons.1 htree).1
    cases hhead.symm.trans hc
    exact not_goesOn_toUpper hd

theorem not_goesOn_nestedName {children rest : SelectionTree} {behind : List Char}
    (hrest : rest.Plain) (hbehind : Closes behind) :
    ∀ c ∈ (nestedName children ++ ((keyNames rest).toList ++ behind)).head?, goesOn c = false := by
  cases children with
  | nil => exact not_goesOn_keyNames hrest hbehind
  | cons =>
    rintro c ⟨⟩
    rfl

/-- Nothing is selected where no name of a field comes next. -/
theorem not_closes_keyNames_cons {name : String} {children rest : SelectionTree}
    {behind : List Char} (h : isPlainName name = true) :
    ¬ Closes ((keyNames (.mk name children :: rest)).toList ++ behind) := by
  intro hcloses
  obtain ⟨c, hc, hhead⟩ : ∃ c : Char, c.isLower = true ∧
      ((keyNames (.mk name children :: rest)).toList ++ behind).head? = some c.toUpper :=
    head?_keyNames_cons h
  have hunderscore := congrArg Char.toNat (hcloses _ hhead)
  have := toNat_of_isLower.1 hc
  have := toNat_toUpper hc
  have : '_'.toNat = 95 := rfl
  omega

/-- Selections on one type which are written alike are the same. The induction is on one of them,
    with anything behind both which closes the selection. -/
theorem eq_of_keyNames_append_eq (hmap : map.kind? = ts.declaredKind?) :
    ∀ (tree tree' : SelectionTree) {t : SourceType} {behind behind' : List Char},
      tree.Readable ts map t → tree'.Readable ts map t → Closes behind → Closes behind' →
      (keyNames tree).toList ++ behind = (keyNames tree').toList ++ behind' →
        tree = tree' ∧ behind = behind'
  | [], [], t, behind, behind', _, _, _, _, h => ⟨rfl, h⟩
  | [], .mk name' children' :: rest', t, behind, behind', _, htree', hbehind, _, h => by
    rw [toList_keyNames_nil, List.nil_append] at h
    rw [h] at hbehind
    exact absurd hbehind (not_closes_keyNames_cons (SelectionTree.plain_cons.1 htree'.plain).1)
  | .mk name children :: rest, [], t, behind, behind', htree, _, _, hbehind', h => by
    rw [toList_keyNames_nil, List.nil_append] at h
    rw [← h] at hbehind'
    exact absurd hbehind' (not_closes_keyNames_cons (SelectionTree.plain_cons.1 htree.plain).1)
  | .mk name children :: rest, .mk name' children' :: rest', t, behind, behind', htree, htree',
      hbehind, hbehind', h => by
    obtain ⟨hname, -, hrest⟩ := SelectionTree.plain_cons.1 htree.plain
    obtain ⟨hname', -, hrest'⟩ := SelectionTree.plain_cons.1 htree'.plain
    rw [toList_keyNames_cons, toList_keyNames_cons] at h
    simp only [List.append_assoc] at h
    obtain ⟨rfl, hfields⟩ := eq_of_upperFirst_append_eq hname hname'
      (not_goesOn_nestedName hrest hbehind) (not_goesOn_nestedName hrest' hbehind') h
    cases children with
    | nil =>
      cases children' with
      | nil =>
        obtain ⟨rfl, rfl⟩ := eq_of_keyNames_append_eq hmap rest rest' htree.tail htree'.tail
          hbehind hbehind' hfields
        exact ⟨rfl, rfl⟩
      | cons c' cs' => exact (htree.not_leaf_and_nested hmap htree').elim
    | cons c cs =>
      cases children' with
      | nil => exact (htree'.not_leaf_and_nested hmap htree).elim
      | cons c' cs' =>
        -- The selections below are closed by the second underscore, behind which the others follow.
        obtain ⟨field, hfield⟩ := htree.exists_field
        obtain ⟨inner, hinner, hbelow⟩ := htree.nested hfield
        obtain ⟨inner', hinner', hbelow'⟩ := htree'.nested hfield
        cases hinner.symm.trans hinner'
        simp only [nestedName, List.cons_append, List.append_assoc, List.cons.injEq, true_and,
          List.nil_append] at hfields
        obtain ⟨hchildren, hothers⟩ := eq_of_keyNames_append_eq hmap (c :: cs) (c' :: cs') hbelow
          hbelow' (closes_underscore _) (closes_underscore _) hfields
        obtain ⟨rfl, rfl⟩ := eq_of_keyNames_append_eq hmap rest rest' htree.tail htree'.tail
          hbehind hbehind' (List.cons.inj hothers).2
        exact ⟨by rw [hchildren], rfl⟩

/-- A key with arguments can be read off its name, if its names can be told apart. -/
theorem exists_readable {suffixes : Suffixes} {type : String} {selection : SelectionTree}
    {g : Generation} {arguments : List InputValue} (hplain : selection.Plain)
    (h : ((keyArguments ts map suffixes type selection).run g).1 = .ok arguments) :
    ∃ t, ts.get? type = some t ∧ selection.Readable ts map t := by
  have hwalk : Generating.Agrees (keyArguments ts map suffixes type selection) _ _ _ _ :=
    agrees_keyArguments type selection
  obtain ⟨-, hleaves, -, hresolves⟩ := hwalk.ok (Prod.ext h rfl)
  obtain ⟨t, ht, hknown⟩ := KeyProjection.exists_ofSelection_iff.1 hresolves
  exact ⟨t, ht, hknown, hleaves t ht, hplain⟩

end

/-- Keys of one type differ in the names of their query fields if both have arguments. So a key
    which has arguments is refused under the name of another one only if it is the same key written
    twice. -/
theorem selection_eq_of_fieldName_eq {δ : Type} {ts : TypeSystem} {map : TypeMap δ}
    (hmap : map.kind? = ts.declaredKind?) {type : String} {key key' : KeyDeclaration}
    (hplain : key.selection.Plain) (hplain' : key'.selection.Plain) {suffixes suffixes' : Suffixes}
    {g g' : Generation} {arguments arguments' : List InputValue}
    (h : ((keyArguments ts map suffixes type key.selection).run g).1 = .ok arguments)
    (h' : ((keyArguments ts map suffixes' type key'.selection).run g').1 = .ok arguments') :
    (SelectionTree.fieldName type key.selection = SelectionTree.fieldName type key'.selection →
      key.selection = key'.selection) ∧
    ∀ suffixes fields g, ((addKeyField ts map suffixes fields type key').run g).1 =
        .error (.error (.queryFieldExists (SelectionTree.fieldName type key.selection))) →
      key.selection = key'.selection := by
  have heq (hname : SelectionTree.fieldName type key.selection =
      SelectionTree.fieldName type key'.selection) : key.selection = key'.selection := by
    obtain ⟨t, ht, hreadable⟩ := exists_readable hplain h
    obtain ⟨t', ht', hreadable'⟩ := exists_readable hplain' h'
    cases ht.symm.trans ht'
    have hnames : keyNames key.selection = keyNames key'.selection :=
      (String.append_right_inj _).1 hname
    refine (eq_of_keyNames_append_eq hmap key.selection key'.selection hreadable hreadable'
      closes_nil closes_nil ?_).1
    rw [hnames]
  refine ⟨heq, fun suffixes fields g hrefused => heq ?_⟩
  have haccepted : KeyAccepted ts map (type, key') :=
    keyAccepted_iff.2 ⟨suffixes', g', arguments', h'⟩
  exact BuildError.queryFieldExists.inj (BuildFailure.error.inj (haccepted.failure_eq hrefused))

/-- Two keys whose names differ in an underscore only. -/
theorem selection_eq_of_fieldName_eq_nested :
    let sdl := "type Query \x7b t: T \x7d type T @key(fields: \"a \x7b b c \x7d\")
      @key(fields: \"a \x7b b \x7d c\") \x7b a: A c: Int \x7d type A \x7b b: Int c: Int \x7d"
    ∃ ts map key key', TypeSystem.load sdl = .ok ts ∧ (Assembly.ofTypeSystem ts).1 = .ok map ∧
      ("T", key) ∈ ts.queryKeys ∧ ("T", key') ∈ ts.queryKeys ∧
      KeyAccepted ts map.begun ("T", key) ∧ KeyAccepted ts map.begun ("T", key') ∧
      key.selection ≠ key'.selection ∧
      SelectionTree.fieldName "T" key.selection ≠ SelectionTree.fieldName "T" key'.selection := by
  intro sdl
  have hfacts : ∃ ts ∈ (TypeSystem.load sdl).toOption,
      ∃ map ∈ (Assembly.ofTypeSystem ts).1.toOption,
      ∃ k ∈ ts.queryKeys, ∃ k' ∈ ts.queryKeys, k.1 = "T" ∧ k'.1 = "T" ∧
      k.2.selection.Plain ∧ k'.2.selection.Plain ∧ k.2.selection.names ≠ k'.2.selection.names ∧
      ((keyArguments ts map.begun .counting "T" k.2.selection).run .empty).1.toOption.isSome =
        true ∧
      ((keyArguments ts map.begun .counting "T" k'.2.selection).run .empty).1.toOption.isSome =
        true := by
    decide +kernel
  obtain ⟨ts, hts, map, hmap, ⟨_, key⟩, hk, ⟨_, key'⟩, hk', rfl, rfl, hplain, hplain', hne,
    harguments, harguments'⟩ := hfacts
  rw [Option.mem_def, Outcome.toOption_eq_some] at hts hmap
  replace hne : key.selection ≠ key'.selection := fun h => hne (congrArg SelectionTree.names h)
  obtain ⟨arguments, harguments⟩ := Outcome.isSome_toOption.1 harguments
  obtain ⟨arguments', harguments'⟩ := Outcome.isSome_toOption.1 harguments'
  refine ⟨ts, map, key, key', hts, hmap, hk, hk', keyAccepted_iff.2 ⟨_, _, _, harguments⟩,
    keyAccepted_iff.2 ⟨_, _, _, harguments'⟩, hne, fun hname => hne ?_⟩
  exact (selection_eq_of_fieldName_eq (Assembly.kind?_eq_declaredKind? hmap) hplain hplain'
    harguments harguments').1 hname

/-- The name is looked at before the arguments: a key which has none, as one of its leaves is an
    object, is refused for the name of another key. -/
theorem queryFieldExists_of_rejected_key :
    let sdl := "type Query \x7b t: T \x7d type T @key(fields: \"a \x7b b \x7b c \x7d d \x7d\")
      @key(fields: \"a \x7b b \x7d c \x7b d \x7d\") \x7b a: A c: C \x7d
      type A \x7b b: B d: Int \x7d type B \x7b c: Int \x7d type C \x7b d: Int \x7d"
    ∃ ts key key', TypeSystem.load sdl = .ok ts ∧
      ("T", key) ∈ ts.queryKeys ∧ ("T", key') ∈ ts.queryKeys ∧
      key.selection.Plain ∧ key'.selection.Plain ∧ key.selection ≠ key'.selection ∧
      SelectionTree.fieldName "T" key.selection = SelectionTree.fieldName "T" key'.selection ∧
      (Schema.build sdl .counting).1 =
        .error (.error (.queryFieldExists (SelectionTree.fieldName "T" key.selection))) := by
  intro sdl
  have hfacts : ∃ ts ∈ (TypeSystem.load sdl).toOption,
      ∃ k ∈ ts.queryKeys, ∃ k' ∈ ts.queryKeys, k.1 = "T" ∧ k'.1 = "T" ∧
      k.2.selection.Plain ∧ k'.2.selection.Plain ∧ k.2.selection.names ≠ k'.2.selection.names ∧
      SelectionTree.fieldName "T" k.2.selection = SelectionTree.fieldName "T" k'.2.selection ∧
      (Schema.build sdl .counting).1.map (fun _ => ()) =
        .error (.error (.queryFieldExists (SelectionTree.fieldName "T" k.2.selection))) := by
    decide +kernel
  obtain ⟨ts, hts, ⟨_, key⟩, hk, ⟨_, key'⟩, hk', rfl, rfl, hplain, hplain', hne, hname, hbuild⟩ :=
    hfacts
  rw [Option.mem_def, Outcome.toOption_eq_some] at hts
  exact ⟨ts, key, key', hts, hk, hk', hplain, hplain',
    fun h => hne (congrArg SelectionTree.names h), hname, Outcome.map_eq_error.1 hbuild⟩

end EntityGraph
