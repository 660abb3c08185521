import Mathlib
import EntityGraph.Json.Basic

/-!
# The order of fields

The fields of an object are in the order of their names, at every depth (`Json.Ordered`). Inserting
a field keeps the order, so every object which is put together field by field has it.

In which order the fields come does not matter: `Fields.ofList` gives the same object for every
order of fields with different names (`ofList_perm`), and so does putting together a value at
every depth (`arrange_eq_of_reordered`).
-/

namespace EntityGraph.Json

namespace Fields

/-- The names increase, so none of them is repeated. -/
def Increasing (fields : Fields) : Prop := fields.Pairwise fun f g => f.1 < g.1

theorem get?_cons (n m : String) (v : Json) (rest : Fields) :
    get? n ((m, v) :: rest) = if n = m then some v else get? n rest := rfl

theorem get?_insert (name n : String) (value : Json) (fields : Fields) :
    get? n (insert name value fields) = if n = name then some value else get? n fields := by
  induction fields with
  | nil => rfl
  | cons f rest ih =>
    obtain ⟨m, v⟩ := f
    by_cases hm : name = m
    · subst hm
      rw [insert, if_pos rfl, get?_cons, get?_cons]
      split_ifs <;> rfl
    · by_cases hlt : name < m
      · rw [insert, if_neg hm, if_pos hlt, get?_cons]
      · rw [insert, if_neg hm, if_neg hlt, get?_cons, ih, get?_cons]
        split_ifs with hnm hname
        · exact absurd (hname.symm.trans hnm) hm
        · rfl
        · rfl
        · rfl

/-- What is among the fields after inserting one: that field and fields of before. -/
theorem mem_insert {name : String} {value : Json} {fields : Fields} {f : String × Json}
    (h : f ∈ insert name value fields) : f = (name, value) ∨ f ∈ fields := by
  induction fields with
  | nil => exact .inl (List.mem_singleton.1 h)
  | cons g rest ih =>
    obtain ⟨m, v⟩ := g
    rw [insert] at h
    split_ifs at h
    · rcases List.mem_cons.1 h with h | h
      · exact .inl h
      · exact .inr (List.mem_cons_of_mem _ h)
    · rcases List.mem_cons.1 h with h | h
      · exact .inl h
      · exact .inr h
    · rcases List.mem_cons.1 h with h | h
      · exact .inr (h ▸ List.mem_cons_self)
      · rcases ih h with h | h
        · exact .inl h
        · exact .inr (List.mem_cons_of_mem _ h)

theorem increasing_insert {name : String} {value : Json} {fields : Fields}
    (h : Increasing fields) : Increasing (insert name value fields) := by
  induction fields with
  | nil => exact List.pairwise_singleton _ _
  | cons g rest ih =>
    obtain ⟨m, v⟩ := g
    obtain ⟨hfirst, hrest⟩ := List.pairwise_cons.1 h
    rw [insert]
    split_ifs with hm hlt
    · exact List.pairwise_cons.2 ⟨fun f hf => hm ▸ hfirst f hf, hrest⟩
    · refine List.pairwise_cons.2 ⟨fun f hf => ?_, h⟩
      rcases List.mem_cons.1 hf with rfl | hf
      · exact hlt
      · exact lt_trans hlt (hfirst f hf)
    · refine List.pairwise_cons.2 ⟨fun f hf => ?_, ih hrest⟩
      rcases mem_insert hf with rfl | hf
      · exact lt_of_le_of_ne (not_lt.1 hlt) (Ne.symm hm)
      · exact hfirst f hf

theorem get?_eq_none {n : String} {fields : Fields} (h : ∀ f ∈ fields, n ≠ f.1) :
    get? n fields = none := by
  induction fields with
  | nil => rfl
  | cons f rest ih =>
    obtain ⟨m, v⟩ := f
    rw [get?_cons, if_neg (h _ List.mem_cons_self),
      ih fun g hg => h g (List.mem_cons_of_mem _ hg)]

/-- Objects with the same fields are the same. -/
theorem Increasing.ext {fields fields' : Fields} (h : Increasing fields)
    (h' : Increasing fields') (hget : ∀ n, get? n fields = get? n fields') :
    fields = fields' := by
  induction fields generalizing fields' with
  | nil =>
    cases fields' with
    | nil => rfl
    | cons g rest' =>
      have := hget g.1
      rw [get?_cons g.1 g.1, if_pos rfl] at this
      cases this
  | cons f rest ih =>
    obtain ⟨n, v⟩ := f
    obtain ⟨hfirst, hrest⟩ := List.pairwise_cons.1 h
    cases fields' with
    | nil =>
      have := hget n
      rw [get?_cons, if_pos rfl] at this
      cases this
    | cons g rest' =>
      obtain ⟨m, w⟩ := g
      obtain ⟨hfirst', hrest'⟩ := List.pairwise_cons.1 h'
      -- The smaller one of two first names would be missing on the other side.
      have hnm : n = m := by
        rcases lt_trichotomy n m with hlt | heq | hlt
        · have hnone : get? n ((m, w) :: rest') = none := by
            refine get?_eq_none fun g hg => ?_
            rcases List.mem_cons.1 hg with rfl | hg
            · exact hlt.ne
            · exact (hlt.trans (hfirst' g hg)).ne
          rw [← hget n, get?_cons, if_pos rfl] at hnone
          cases hnone
        · exact heq
        · have hnone : get? m ((n, v) :: rest) = none := by
            refine get?_eq_none fun g hg => ?_
            rcases List.mem_cons.1 hg with rfl | hg
            · exact hlt.ne
            · exact (hlt.trans (hfirst g hg)).ne
          rw [hget m, get?_cons, if_pos rfl] at hnone
          cases hnone
      subst hnm
      have hvw : v = w := by simpa [get?_cons] using hget n
      have hget' : ∀ k, get? k rest = get? k rest' := by
        intro k
        by_cases hk : k = n
        · rw [hk, get?_eq_none fun g hg => (hfirst g hg).ne,
            get?_eq_none fun g hg => (hfirst' g hg).ne]
        · simpa [get?_cons, hk] using hget k
      rw [hvw, ih hrest hrest' hget']

/-- A field which is there already is put at its own place. -/
theorem insert_eq_self {name : String} {value : Json} {fields : Fields} (h : Increasing fields)
    (hget : get? name fields = some value) : insert name value fields = fields := by
  refine (increasing_insert h).ext h fun n => ?_
  rw [get?_insert]
  split_ifs with hn
  · rw [hn, hget]
  · rfl

/-- A field behind all others is put at the end. -/
theorem insert_eq_append {name : String} {value : Json} {fields : Fields}
    (h : ∀ f ∈ fields, f.1 < name) : insert name value fields = fields ++ [(name, value)] := by
  induction fields with
  | nil => rfl
  | cons g rest ih =>
    obtain ⟨m, v⟩ := g
    have hm : m < name := h _ List.mem_cons_self
    rw [insert, if_neg hm.ne', if_neg (not_lt.2 hm.le), ih fun f hf => h f (List.mem_cons_of_mem _ hf)]
    rfl

theorem foldl_insert_increasing {fields acc : Fields} (h : Increasing acc) :
    Increasing (fields.foldl (fun acc f => insert f.1 f.2 acc) acc) := by
  induction fields generalizing acc with
  | nil => exact h
  | cons f rest ih => exact ih (increasing_insert h)

theorem increasing_ofList (fields : List (String × Json)) : Increasing (ofList fields) :=
  foldl_insert_increasing List.Pairwise.nil

/-- Fields in order stay as they are. -/
theorem ofList_eq_self {fields : Fields} (h : Increasing fields) : ofList fields = fields := by
  have key : ∀ rest acc : Fields, Increasing (acc ++ rest) →
      rest.foldl (fun acc f => insert f.1 f.2 acc) acc = acc ++ rest := by
    intro rest
    induction rest with
    | nil => intro acc _; simp
    | cons f rest ih =>
      intro acc h
      have hlt : ∀ g ∈ acc, g.1 < f.1 :=
        fun g hg => (List.pairwise_append.1 h).2.2 g hg f List.mem_cons_self
      rw [List.foldl_cons, insert_eq_append hlt, ih _ (by simpa using h)]
      simp
  exact key fields [] h

theorem get?_foldl_insert {n : String} {fields acc : Fields} (hn : n ∉ names fields) :
    get? n (fields.foldl (fun acc f => insert f.1 f.2 acc) acc) = get? n acc := by
  induction fields generalizing acc with
  | nil => rfl
  | cons f rest ih =>
    rw [names, List.map_cons, List.mem_cons, not_or] at hn
    rw [List.foldl_cons, ih hn.2, get?_insert, if_neg hn.1]

/-- Every field is found in an object of fields with different names. -/
theorem get?_ofList {fields : List (String × Json)} (hnames : (names fields).Nodup)
    {f : String × Json} (hf : f ∈ fields) : get? f.1 (ofList fields) = some f.2 := by
  have key : ∀ (fields : List (String × Json)) (acc : Fields), (names fields).Nodup →
      f ∈ fields → get? f.1 (fields.foldl (fun acc g => insert g.1 g.2 acc) acc) = some f.2 := by
    intro fields
    induction fields with
    | nil => exact fun acc _ hf => nomatch hf
    | cons g rest ih =>
      intro acc hnames hf
      obtain ⟨hfirst, hrest⟩ := List.nodup_cons.1 hnames
      rcases List.mem_cons.1 hf with rfl | hf
      -- Nothing behind the field replaces it.
      · rw [List.foldl_cons, get?_foldl_insert hfirst, get?_insert, if_pos rfl]
      · exact ih _ hrest hf
  exact key fields [] hnames hf

/-- Of several fields of one name the last one is found. -/
theorem get?_ofList_eq_last (n : String) (fields : List (String × Json)) :
    get? n (ofList fields) = (fields.filter fun f => f.1 = n).getLast?.map Prod.snd := by
  induction fields using List.reverseRecOn with
  | nil => rfl
  | append_singleton fields f ih =>
    have hlast : ofList (fields ++ [f]) = insert f.1 f.2 (ofList fields) := by
      rw [ofList, List.foldl_append]
      rfl
    rw [hlast, get?_insert, List.filter_append]
    by_cases hn : n = f.1
    · simp [hn]
    · rw [if_neg hn, ih]
      simp [Ne.symm hn]

theorem exists_get?_iff {n : String} {fields : Fields} :
    (∃ v, get? n fields = some v) ↔ n ∈ names fields := by
  induction fields with
  | nil => simp [get?, names]
  | cons f rest ih =>
    obtain ⟨m, v⟩ := f
    rw [get?_cons, names, List.map_cons, List.mem_cons, ← names, ← ih]
    by_cases hn : n = m
    · simp [hn]
    · simp [hn]

theorem mem_names_ofList {n : String} {fields : List (String × Json)} :
    n ∈ names (ofList fields) ↔ n ∈ names fields := by
  rw [← exists_get?_iff, get?_ofList_eq_last]
  constructor
  · rintro ⟨v, hv⟩
    obtain ⟨f, hf, -⟩ := Option.map_eq_some_iff.1 hv
    obtain ⟨hmem, hname⟩ := List.mem_filter.1 (List.mem_of_getLast? hf)
    exact List.mem_map.2 ⟨f, hmem, by simpa using hname⟩
  · intro hn
    obtain ⟨f, hf, rfl⟩ := List.mem_map.1 hn
    have hmem : f ∈ fields.filter fun g => g.1 = f.1 := List.mem_filter.2 ⟨hf, by simp⟩
    obtain ⟨g, hg⟩ := Option.isSome_iff_exists.1
      (List.getLast?_isSome.2 (List.ne_nil_of_mem hmem))
    exact ⟨g.2, by rw [hg]; rfl⟩

/-- Fields with different names give one object in whatever order they are inserted. -/
theorem ofList_perm {fields fields' : List (String × Json)} (h : fields.Perm fields')
    (hnames : (names fields).Nodup) : ofList fields = ofList fields' := by
  have hperm : (names fields).Perm (names fields') := h.map _
  have hnames' : (names fields').Nodup := hperm.nodup_iff.1 hnames
  refine (increasing_ofList fields).ext (increasing_ofList fields') fun n => ?_
  by_cases hn : n ∈ names fields
  · obtain ⟨f, hf, rfl⟩ := List.mem_map.1 hn
    rw [get?_ofList hnames hf, get?_ofList hnames' (h.mem_iff.1 hf)]
  · have hn' : n ∉ names fields' := fun hmem => hn (hperm.mem_iff.2 hmem)
    rw [ofList, ofList, get?_foldl_insert hn, get?_foldl_insert hn']

end Fields

/-! ### Order at every depth -/

mutual

/-- In every object of the value the names of the fields increase. -/
def Ordered : Json → Prop
  | .array items => OrderedItems items
  | .object fields => Fields.Increasing fields ∧ OrderedFields fields
  | _ => True

def OrderedItems : List Json → Prop
  | [] => True
  | v :: rest => Ordered v ∧ OrderedItems rest

def OrderedFields : List (String × Json) → Prop
  | [] => True
  | (_, v) :: rest => Ordered v ∧ OrderedFields rest

end

theorem orderedItems_iff {items : List Json} : OrderedItems items ↔ ∀ v ∈ items, Ordered v := by
  induction items with
  | nil => simp [OrderedItems]
  | cons v rest ih => simp [OrderedItems, ih]

theorem orderedFields_iff {fields : List (String × Json)} :
    OrderedFields fields ↔ ∀ f ∈ fields, Ordered f.2 := by
  induction fields with
  | nil => simp [OrderedFields]
  | cons f rest ih => simp [OrderedFields, ih]

/-- The fields of an object, in order at every depth. -/
def Fields.Ordered (fields : Fields) : Prop := Json.Ordered (.object fields)

namespace Fields

theorem Ordered.of_get? {fields : Fields} (h : Fields.Ordered fields) {n : String} {v : Json}
    (hv : get? n fields = some v) : Json.Ordered v := by
  have hall := orderedFields_iff.1 h.2
  clear h
  induction fields with
  | nil => cases hv
  | cons f rest ih =>
    obtain ⟨m, w⟩ := f
    rw [get?_cons] at hv
    split_ifs at hv with hm
    · obtain rfl := Option.some.inj hv
      exact hall _ List.mem_cons_self
    · exact ih hv fun g hg => hall g (List.mem_cons_of_mem _ hg)

theorem ordered_nil : Fields.Ordered [] := ⟨List.Pairwise.nil, trivial⟩

theorem Ordered.insert {fields : Fields} (h : Fields.Ordered fields) (name : String) {v : Json}
    (hv : Json.Ordered v) : Fields.Ordered (insert name v fields) := by
  refine ⟨increasing_insert h.1, orderedFields_iff.2 fun f hf => ?_⟩
  rcases mem_insert hf with rfl | hf
  · exact hv
  · exact orderedFields_iff.1 h.2 f hf

theorem ordered_ofList {fields : List (String × Json)} (h : ∀ f ∈ fields, Json.Ordered f.2) :
    Fields.Ordered (ofList fields) := by
  have key : ∀ (fields : List (String × Json)) (acc : Fields), (∀ f ∈ fields, Json.Ordered f.2) →
      Fields.Ordered acc → Fields.Ordered (fields.foldl (fun acc f => Fields.insert f.1 f.2 acc) acc) := by
    intro fields
    induction fields with
    | nil => exact fun acc _ hacc => hacc
    | cons f rest ih =>
      intro acc h hacc
      exact ih _ (fun g hg => h g (List.mem_cons_of_mem _ hg))
        (hacc.insert f.1 (h f List.mem_cons_self))
  exact key fields [] h ordered_nil

end Fields

/-! ### Putting a value together -/

mutual

/-- The value put together from its parts, which may hold the fields of their objects in any
    order. -/
def arrange : Json → Json
  | .array items => .array (arrangeItems items)
  | .object fields => .object (Fields.ofList (arrangeFields fields))
  | v => v

def arrangeItems : List Json → List Json
  | [] => []
  | v :: rest => arrange v :: arrangeItems rest

def arrangeFields : List (String × Json) → List (String × Json)
  | [] => []
  | (n, v) :: rest => (n, arrange v) :: arrangeFields rest

end

theorem arrangeItems_eq (items : List Json) : arrangeItems items = items.map arrange := by
  induction items with
  | nil => rfl
  | cons v rest ih => rw [arrangeItems, ih, List.map_cons]

theorem arrangeFields_eq (fields : List (String × Json)) :
    arrangeFields fields = fields.map fun f => (f.1, arrange f.2) := by
  induction fields with
  | nil => rfl
  | cons f rest ih => rw [arrangeFields, ih, List.map_cons]

/-- Two values differ only in the order in which the fields of their objects come, at any depth.
    Objects whose fields change places name each field once. -/
inductive Reordered : Json → Json → Prop
  | refl (v : Json) : Reordered v v
  | symm {v w : Json} : Reordered v w → Reordered w v
  | trans {u v w : Json} : Reordered u v → Reordered v w → Reordered u w
  | item {v w : Json} (before behind : List Json) : Reordered v w →
      Reordered (.array (before ++ v :: behind)) (.array (before ++ w :: behind))
  | field {v w : Json} (before : List (String × Json)) (name : String)
      (behind : List (String × Json)) : Reordered v w →
      Reordered (.object (before ++ (name, v) :: behind)) (.object (before ++ (name, w) :: behind))
  | fields {fields fields' : List (String × Json)} : fields.Perm fields' →
      (Fields.names fields).Nodup → Reordered (.object fields) (.object fields')

/-- The order of the parts does not matter. -/
theorem arrange_eq_of_reordered {v w : Json} (h : Reordered v w) : arrange v = arrange w := by
  induction h with
  | refl => rfl
  | symm _ ih => exact ih.symm
  | trans _ _ ih ih' => exact ih.trans ih'
  | item before behind _ ih => simp [arrange, arrangeItems_eq, ih]
  | field before name behind _ ih => simp [arrange, arrangeFields_eq, ih]
  | fields hperm hnames =>
    rw [arrange, arrange, arrangeFields_eq, arrangeFields_eq,
      Fields.ofList_perm (hperm.map _) (by rw [Fields.names, List.map_map]; exact hnames)]

mutual

theorem ordered_arrange : ∀ v : Json, Ordered (arrange v)
  | .null | .bool _ | .number _ | .string _ => trivial
  | .array items => by
    rw [arrange, Ordered, orderedItems_iff]
    exact ordered_arrangeItems items
  | .object fields => by
    rw [arrange]
    exact Fields.ordered_ofList (ordered_arrangeFields fields)

theorem ordered_arrangeItems : ∀ items : List Json, ∀ v ∈ arrangeItems items, Ordered v
  | [] => by simp [arrangeItems]
  | v :: rest => by
    simp only [arrangeItems, List.mem_cons, forall_eq_or_imp]
    exact ⟨ordered_arrange v, ordered_arrangeItems rest⟩

theorem ordered_arrangeFields : ∀ fields : List (String × Json),
    ∀ f ∈ arrangeFields fields, Ordered f.2
  | [] => by simp [arrangeFields]
  | (_, v) :: rest => by
    simp only [arrangeFields, List.mem_cons, forall_eq_or_imp]
    exact ⟨ordered_arrange v, ordered_arrangeFields rest⟩

end

mutual

/-- A value in order is put together as it is. -/
theorem arrange_eq_self : ∀ v : Json, Ordered v → arrange v = v
  | .null, _ | .bool _, _ | .number _, _ | .string _, _ => rfl
  | .array items, h => by rw [arrange, arrangeItems_eq_self items h]
  | .object fields, h => by
    rw [arrange, arrangeFields_eq_self fields h.2, Fields.ofList_eq_self h.1]

theorem arrangeItems_eq_self : ∀ items : List Json, OrderedItems items → arrangeItems items = items
  | [], _ => rfl
  | v :: rest, h => by rw [arrangeItems, arrange_eq_self v h.1, arrangeItems_eq_self rest h.2]

theorem arrangeFields_eq_self : ∀ fields : List (String × Json),
    OrderedFields fields → arrangeFields fields = fields
  | [], _ => rfl
  | (n, v) :: rest, h => by
    rw [arrangeFields, arrange_eq_self v h.1, arrangeFields_eq_self rest h.2]

end

end EntityGraph.Json
