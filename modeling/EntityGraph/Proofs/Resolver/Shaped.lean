import Mathlib
import EntityGraph.Proofs.GlobalId
import EntityGraph.Proofs.KeyProjection.Resolved

/-!
# The shape of an id

An id is the encoded key of an object which has `__typename` and the fields that the first key of
its type selects. So has every object in it, at every level and in every list, the fields which are
selected there (`Shaped`).

What is selected below a field is a matter of counting. In a query all selections of one field of a
layer count together (`SelectionTree.below`). In a key the last one replaces those before it
(`SelectionTree.lastBelow`), so they count together only if no layer names a field twice.

`FieldSource.shaped_of_globalId` is the main statement, for every selection which can be resolved,
every storage and every parent with an id.
-/

namespace EntityGraph

namespace SelectionTree

/-- What is selected below a field, by all selections of it together. -/
def below (tree : SelectionTree) (name : String) : SelectionTree :=
  (tree.filter fun s => s.name = name).flatMap Selection.children

/-- What is selected below a field by the last selection of it. -/
def lastBelow (tree : SelectionTree) (name : String) : SelectionTree :=
  ((tree.last? name).map Selection.children).getD []

theorem lastBelow_of_last? {tree : SelectionTree} {name : String} {s : Selection}
    (h : tree.last? name = some s) : tree.lastBelow name = s.children := by
  rw [lastBelow, h, Option.map_some, Option.getD_some]

/-- One selection of a field is all selections of it. -/
theorem lastBelow_eq_below {tree : SelectionTree} (h : tree.EachOnce) (name : String) :
    tree.lastBelow name = tree.below name := by
  rw [lastBelow, last?, below]
  have hle : (tree.filter fun s => s.name = name).length ≤ 1 := by
    rw [← List.countP_eq_length_filter]
    have hcount := List.nodup_iff_count_le_one.1 h name
    rwa [names, List.count_eq_countP, List.countP_map] at hcount
  generalize tree.filter (fun s => s.name = name) = found at hle
  match found, hle with
  | [], _ => rfl
  | [s], _ => simp

theorem EveryLayer.children {P : SelectionTree → Prop} {tree : SelectionTree}
    (h : tree.EveryLayer P) {s : Selection} (hs : s ∈ tree) : s.children.EveryLayer P := by
  have hbelow : ∀ tree : SelectionTree, Selection.AllBelow P tree → s ∈ tree →
      s.children.EveryLayer P := by
    intro tree
    induction tree with
    | nil => exact fun _ hs => nomatch hs
    | cons first rest ih =>
      intro hall hs
      rcases List.mem_cons.1 hs with rfl | hs
      · cases s
        exact hall.1
      · exact ih hall.2 hs
  exact hbelow tree h.2 hs

end SelectionTree

/-- Every object of the value has exactly the selected fields, at every level. Only `null`, arrays
    and objects stand at a nested selection. -/
inductive Shaped (below : SelectionTree → String → SelectionTree) : SelectionTree → Json → Prop
  | null {tree : SelectionTree} : Shaped below tree .null
  | array {tree : SelectionTree} {items : List Json} :
      (∀ v ∈ items, Shaped below tree v) → Shaped below tree (.array items)
  | object {tree : SelectionTree} {map : Json.Fields} :
      (∀ name, name ∈ Json.Fields.names map ↔ name ∈ tree.names) →
      (∀ name v, Json.Fields.get? name map = some v → below tree name ≠ [] →
        Shaped below (below tree name) v) → Shaped below tree (.object map)

/-- If every layer names each field once, it does not matter how selections of one field count. -/
theorem Shaped.below_of_lastBelow {tree : SelectionTree} {v : Json}
    (h : Shaped SelectionTree.lastBelow tree v)
    (honce : tree.EveryLayer SelectionTree.EachOnce) : Shaped SelectionTree.below tree v := by
  induction h with
  | null => exact .null
  | array _ ih => exact .array fun v hv => ih v hv honce
  | @object tree map hnames _ ih =>
    refine .object hnames fun name v hget hne => ?_
    rw [← SelectionTree.lastBelow_eq_below honce.1] at hne ⊢
    refine ih name v hget hne ?_
    cases hlast : tree.last? name with
    | none =>
      rw [SelectionTree.lastBelow, hlast] at hne
      exact absurd rfl hne
    | some s =>
      rw [SelectionTree.lastBelow_of_last? hlast]
      exact honce.children (List.mem_filter.1 (List.mem_of_getLast? hlast)).1

namespace KeyProjection

variable {ts : TypeSystem} {storage : Storage}

/-- What is selected has the shape of the selection, wherever it was found. -/
theorem shaped_of_select {tree : SelectionTree} : ∀ {type : String} {projection : KeyProjection},
    ofSelection ts type tree = .ok projection → ∀ {v w : Json},
      (select storage projection v).wait = .ok w → Shaped SelectionTree.lastBelow tree w := by
  induction tree using SelectionTree.layer_induction with
  | layer tree ih =>
    intro type projection hprojection v
    induction v using Json.items_induction with
    | array items ihitems =>
      intro w h
      obtain ⟨items', rfl, hitems⟩ := select_array h
      refine .array fun w hw => ?_
      obtain ⟨v, hv, hselect⟩ := exists_of_mem_forall₂ hitems.flip hw
      exact ihitems v hv hselect
    | other v hv =>
      intro w h
      obtain ⟨t, -, hselected⟩ := selected_of_select hprojection h
      cases hselected with
      | null => exact .null
      | array => exact absurd rfl (hv _)
      | object _ _ _ hpicked =>
        refine .object (fun name => mem_names_of_fieldSelected hpicked) fun name v hget hne => ?_
        obtain ⟨s, hlast, hs⟩ := fieldSelected_of_get? hpicked hget
        rw [SelectionTree.lastBelow_of_last? hlast] at hne ⊢
        have hmem : s ∈ tree := (List.mem_filter.1 (List.mem_of_getLast? hlast)).1
        cases hs with
        | leaf => exact absurd rfl hne
        | nested _ _ hprojection hselect => exact ih _ hmem hprojection hselect

end KeyProjection

/-! ### A key which leads on -/

namespace Sample

/-- The key of an entity has the keys of the next two entities in it. -/
def chainKey : KeyDeclaration :=
  ⟨"n next \x7b n next \x7b n \x7d \x7d",
    [.leaf "n", .nested "next" [.leaf "n", .nested "next" [.leaf "n"]]]⟩

def chain : SourceType :=
  ⟨"T", none,
    .object [] [⟨"n", none, .named "Boolean", []⟩, ⟨"next", none, .named "T", []⟩], [chainKey], false⟩

def chainTypes : TypeSystem := ⟨[chain], TypeSystem.defaultQueryType⟩

def chainProjection : KeyProjection :=
  .mk "T" true [.leaf "n", .nested "next" (.mk "T" true [.leaf "n", .nested "next"
    (.mk "T" true [.leaf "n"])])]

theorem firstKey_chain : FirstKey chainTypes chain chainKey chainProjection :=
  ⟨rfl, ⟨[], rfl⟩, rfl⟩

theorem eachOnce_chain : chainKey.selection.EveryLayer SelectionTree.EachOnce := by
  simp [chainKey, SelectionTree.EveryLayer, SelectionTree.EachOnce, SelectionTree.names,
    Selection.AllBelow, Selection.Below, Selection.leaf, Selection.nested, Selection.name]

/-- A document whose next entity is only known by a field which is not selected. -/
def chainDocument : Json.Fields := [("n", .bool true), ("next", .object [("m", .null)])]

def chainStorage : Storage := storage (Json.compact (.object chainDocument))

/-- Every entity has the document, so it is its own next one. -/
theorem wait_entity_chain (key : EntityKey) :
    (chainStorage.entity key).wait = .ok chainDocument := by
  have hdocument : Storage.parseDocument "t.json" (Json.compact (.object chainDocument)) =
      .ok chainDocument := by
    rw [Storage.parseDocument, Json.read?_compact]
    rfl
  exact Storage.wait_entity_eq_ok.2 ⟨"t.json", _, rfl, rfl, hdocument⟩

def chainSelected : Json.Fields :=
  [("n", .bool true), ("next", .object [("n", .bool true), ("next", .object [("n", .bool true)])])]

theorem wait_select_chain :
    (chainProjection.select chainStorage (.object [])).wait = .ok (.object chainSelected) := by
  have hlast : (KeyProjection.select chainStorage (.mk "T" true [.leaf "n"])
      (.object [("m", .null)])).wait = .ok (.object [("n", .bool true)]) := by
    rw [KeyProjection.wait_select_of_entity rfl (wait_entity_chain _)]
    rfl
  have hnext : (KeyProjection.select chainStorage
      (.mk "T" true [.leaf "n", .nested "next" (.mk "T" true [.leaf "n"])])
      (.object [("m", .null)])).wait =
        .ok (.object [("n", .bool true), ("next", .object [("n", .bool true)])]) := by
    rw [KeyProjection.wait_select_of_entity rfl (wait_entity_chain _)]
    exact KeyProjection.wait_gather.2
      ⟨_, .cons rfl (.cons (Outcome.map_eq_ok.2 ⟨_, hlast, rfl⟩) .nil), rfl⟩
  rw [chainProjection, KeyProjection.wait_select_of_entity rfl (wait_entity_chain _)]
  exact KeyProjection.wait_gather.2
    ⟨_, .cons rfl (.cons (Outcome.map_eq_ok.2 ⟨_, hnext, rfl⟩) .nil), rfl⟩

/-- The field `id` of an entity of which nothing is known. -/
def chainParams : ResolveParams := ⟨.object [], [], idField, "T"⟩

def chainId : String :=
  EntityKey.encode (Json.Fields.insert typenameField (.string "T") chainSelected)

theorem wait_globalId_chain :
    (FieldSource.resolve chainStorage (.globalId (some chainProjection)) chainParams).wait =
      .ok (.string chainId) :=
  FieldSource.wait_globalId_eq_ok.2 ⟨chainSelected, wait_select_chain, rfl⟩

end Sample

namespace FieldSource

variable {storage : Storage}

/-- An id is the encoded key of an object which has, beside `__typename`, exactly the selected
    fields, and so has every object in it. Of several selections of one field in a layer the last
    one counts; they count together if there are none. -/
theorem shaped_of_globalId {ts : TypeSystem} {type : String} {selection : SelectionTree}
    {projection : KeyProjection}
    (hresolved : KeyProjection.ofSelection ts type selection = .ok projection)
    {p : ResolveParams} (hp : p.parentType = type) {id : String}
    (hid : (resolve storage (.globalId (some projection)) p).wait = .ok (.string id)) :
    ∃ map, id = EntityKey.encode (Json.Fields.insert typenameField (.string type) map) ∧
      Shaped SelectionTree.lastBelow selection (.object map) ∧
      (selection.EveryLayer SelectionTree.EachOnce →
        Shaped SelectionTree.below selection (.object map)) := by
  obtain ⟨map, hselect, heq⟩ := wait_globalId_eq_ok.1 hid
  rw [hp] at heq
  have hshaped := KeyProjection.shaped_of_select hresolved hselect
  exact ⟨map, Json.string.inj heq, hshaped, hshaped.below_of_lastBelow⟩

/-- An id of three layers, the fields of each taken from a document. -/
theorem shaped_of_globalId_chain :
    (resolve Sample.chainStorage (.globalId (some Sample.chainProjection)) Sample.chainParams).wait =
      .ok (.string Sample.chainId) ∧
    ∃ map, Sample.chainId =
        EntityKey.encode (Json.Fields.insert typenameField (.string "T") map) ∧
      Shaped SelectionTree.below Sample.chainKey.selection (.object map) := by
  obtain ⟨map, hid, -, hshaped⟩ :=
    shaped_of_globalId Sample.firstKey_chain.resolved rfl Sample.wait_globalId_chain
  exact ⟨Sample.wait_globalId_chain, map, hid, hshaped Sample.eachOnce_chain⟩

end FieldSource

end EntityGraph
