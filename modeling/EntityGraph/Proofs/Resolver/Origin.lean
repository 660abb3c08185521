import Mathlib
import EntityGraph.Proofs.Resolver.Shaped

/-!
# Where the fields of an id come from

Each value in an id was selected from a value which was read, on a type and by a part of the first
key (`Origin`). From there to the next value it goes through the items of arrays and through nested
selections, whose values are fields of the value which was read or of the document of its entity
(`Origin.Step`).

A value is selected at every origin which is reached in this way (`Origin.IsSelected.of_reached`).
So its fields are its own, if it has all of them, and those of the document which its key leads to
otherwise, if the type of the origin is primary (`FieldSource.kept_of_globalId`): that is the type
which the nested field is declared with. A type which is not primary, as an interface, has no
documents, and what the value lacks is `null`.
-/

namespace EntityGraph

open KeyProjection (FieldsFrom Selected select ofSelection)

/-- A value in an id and what it was selected from. -/
structure Origin where
  /-- The declared type of the value. -/
  type : SourceType
  /-- What is selected there. -/
  selection : SelectionTree
  /-- The value which was read. -/
  value : Json
  /-- The value which stands in the id. -/
  shown : Json

namespace Origin

variable {ts : TypeSystem} {storage : Storage}

/-- From one value in an id to the next one, and the same in what was read. -/
inductive Step (ts : TypeSystem) (storage : Storage) : Origin → Origin → Prop
  | item {t : SourceType} {tree : SelectionTree} {items items' : List Json} {i : Nat}
      {v w : Json} : items[i]? = some v → items'[i]? = some w →
      Step ts storage ⟨t, tree, .array items, .array items'⟩ ⟨t, tree, v, w⟩
  | nested {t inner : SourceType} {tree : SelectionTree} {s : Selection} {v w : Json}
      {map shown : Json.Fields} {declared : FieldDeclaration} :
      FieldsFrom ts storage t tree v map → tree.last? s.name = some s → s.children ≠ [] →
      t.field? s.name = some declared → ts.get? declared.type.core = some inner →
      Json.Fields.get? s.name shown = some w →
      Step ts storage ⟨t, tree, v, .object shown⟩
        ⟨inner, s.children, (Json.Fields.get? s.name map).getD .null, w⟩

/-- The value in the id is what is selected of the value which was read. -/
def IsSelected (ts : TypeSystem) (storage : Storage) (o : Origin) : Prop :=
  ∃ projection, ts.get? o.type.name = some o.type ∧
    ofSelection ts o.type.name o.selection = .ok projection ∧
    (select storage projection o.value).wait = .ok o.shown

/-- A value in an id is `null` only if the value which was read is. An object has the selected
    fields and no others, all of them taken from the value which was read or from its document. -/
structure Kept (ts : TypeSystem) (storage : Storage) (o : Origin) : Prop where
  null_iff : o.shown = .null ↔ o.value = .null
  object : ∀ r, o.value = .object r → ∃ map shown,
    FieldsFrom ts storage o.type o.selection (.object r) map ∧ o.shown = .object shown ∧
    (∀ name, name ∈ Json.Fields.names shown ↔ name ∈ o.selection.names) ∧
    ∀ s, o.selection.last? s.name = some s →
      (s.children = [] →
        Json.Fields.get? s.name shown = some ((Json.Fields.get? s.name map).getD .null)) ∧
      (s.children ≠ [] → ∃ declared inner w, o.type.field? s.name = some declared ∧
        ts.get? declared.type.core = some inner ∧ Json.Fields.get? s.name shown = some w ∧
        Step ts storage o ⟨inner, s.children, (Json.Fields.get? s.name map).getD .null, w⟩)

/-! ### Steps -/

theorem IsSelected.selected {o : Origin} (h : o.IsSelected ts storage) :
    ∃ projection, Selected ts storage o.type o.selection projection o.value o.shown := by
  obtain ⟨projection, htype, hprojection, hselect⟩ := h
  obtain ⟨t, ht, hselected⟩ := KeyProjection.selected_of_select hprojection hselect
  obtain rfl := Option.some.inj (htype.symm.trans ht)
  exact ⟨projection, hselected⟩

/-- The next value is selected as well. -/
theorem IsSelected.of_step {o next : Origin} (h : o.IsSelected ts storage)
    (hstep : Step ts storage o next) : next.IsSelected ts storage := by
  cases hstep with
  | item hv hw =>
    obtain ⟨projection, htype, hprojection, hselect⟩ := h
    obtain ⟨items', heq, hitems⟩ := KeyProjection.select_array hselect
    obtain rfl := Json.array.inj heq
    obtain ⟨hi, rfl⟩ := List.getElem?_eq_some_iff.1 hv
    obtain ⟨hi', rfl⟩ := List.getElem?_eq_some_iff.1 hw
    exact ⟨projection, htype, hprojection, (List.forall₂_iff_get.1 hitems).2 _ hi hi'⟩
  | @nested t inner tree s _ _ _ _ declared hmap hlast hchildren hdeclared hinner hget =>
    obtain ⟨projection, hselected⟩ := h.selected
    cases hselected with
    | object _ _ hmap' hpicked =>
      obtain rfl := hmap.unique hmap'
      obtain ⟨s', hlast', hs⟩ := KeyProjection.fieldSelected_of_get? hpicked hget
      obtain rfl := Option.some.inj (hlast.symm.trans hlast')
      cases hs with
      | leaf => exact absurd rfl hchildren
      | nested _ hdeclared' hprojection hselect =>
        obtain rfl := Option.some.inj (hdeclared.symm.trans hdeclared')
        have hname := TypeSystem.name_of_get? hinner
        rw [← hname] at hinner hprojection
        exact ⟨_, hinner, hprojection, hselect⟩

theorem IsSelected.of_reached {o o' : Origin} (h : o.IsSelected ts storage)
    (hreached : Relation.ReflTransGen (Step ts storage) o o') : o'.IsSelected ts storage := by
  induction hreached with
  | refl => exact h
  | tail _ hstep ih => exact ih.of_step hstep

/-- What is shown of a selected object. -/
theorem IsSelected.kept {o : Origin} (h : o.IsSelected ts storage) : o.Kept ts storage := by
  obtain ⟨t, tree, v, w⟩ := o
  obtain ⟨projection, hselected⟩ := h.selected
  cases hselected with
  | null => exact ⟨iff_of_true rfl rfl, by simp⟩
  | array => exact ⟨iff_of_false (by simp) (by simp), by simp⟩
  | @object _ map picked hnull _ hmap hpicked =>
    refine ⟨iff_of_false (by simp) hnull, ?_⟩
    rintro r rfl
    refine ⟨map, _, hmap, rfl, fun name => KeyProjection.mem_names_of_fieldSelected hpicked,
      fun s hlast => ?_⟩
    -- A selected field is there, and it is the one which was selected last under its name.
    have hmem : s.name ∈ Json.Fields.names (Json.Fields.ofList picked) := by
      refine (KeyProjection.mem_names_of_fieldSelected hpicked).2 ?_
      exact List.mem_map_of_mem (List.mem_filter.1 (List.mem_of_getLast? hlast)).1
    obtain ⟨shown, hshown⟩ := Json.Fields.exists_get?_iff.2 hmem
    obtain ⟨s', hlast', hs⟩ := KeyProjection.fieldSelected_of_get? hpicked hshown
    obtain rfl := Option.some.inj (hlast.symm.trans hlast')
    cases hs with
    | leaf => exact ⟨fun _ => hshown, fun hne => absurd rfl hne⟩
    | nested hchildren hdeclared hprojection hselect =>
      obtain ⟨inner, hinner, -⟩ := KeyProjection.selected_of_select hprojection hselect
      exact ⟨fun heq => absurd heq hchildren, fun _ =>
        ⟨_, _, _, hdeclared, hinner, hshown, .nested hmap hlast hchildren hdeclared hinner hshown⟩⟩

end Origin

namespace FieldSource

variable {storage : Storage}

/-- Every value in an id is what is selected at its origin: `null` if `null` was read, and otherwise
    with fields of the value which was read, if this has all of them or its type is not primary, and
    with those of the document its key leads to if it has not. -/
theorem kept_of_globalId {ts : TypeSystem} {t : SourceType} {key : KeyDeclaration}
    {projection : KeyProjection} (hkey : FirstKey ts t key projection) {p : ResolveParams}
    (hp : p.parentType = t.name) {id : String}
    (hid : (resolve storage (.globalId (some projection)) p).wait = .ok (.string id)) :
    ∃ map, id = EntityKey.encode (Json.Fields.insert typenameField (.string t.name) map) ∧
      ∀ o, Relation.ReflTransGen (Origin.Step ts storage)
        ⟨t, key.selection, idParent p.parent, .object map⟩ o → o.Kept ts storage := by
  obtain ⟨map, hselect, heq⟩ := wait_globalId_eq_ok.1 hid
  rw [hp] at heq
  refine ⟨map, Json.string.inj heq, fun o ho => ?_⟩
  have hroot : Origin.IsSelected ts storage
      ⟨t, key.selection, idParent p.parent, .object map⟩ :=
    ⟨projection, hkey.declared, hkey.resolved, hselect⟩
  exact (hroot.of_reached ho).kept

/-- The next entity is only known by a field which is not selected, and the id has what is in its
    document. -/
theorem kept_of_globalId_chain :
    (resolve Sample.chainStorage (.globalId (some Sample.chainProjection)) Sample.chainParams).wait =
      .ok (.string Sample.chainId) ∧
    ∃ map o shown, Sample.chainId =
        EntityKey.encode (Json.Fields.insert typenameField (.string "T") map) ∧
      Relation.ReflTransGen (Origin.Step Sample.chainTypes Sample.chainStorage)
        ⟨Sample.chain, Sample.chainKey.selection, .object [], .object map⟩ o ∧
      o.value = .object [("m", .null)] ∧ o.shown = .object shown ∧
      Json.Fields.get? "n" shown = some (.bool true) := by
  obtain ⟨map, hid, hkept⟩ :=
    kept_of_globalId Sample.firstKey_chain rfl Sample.wait_globalId_chain
  have hmissing : ∀ tree : SelectionTree, ∀ fields : Json.Fields, Selection.leaf "n" ∈ tree →
      Json.Fields.get? "n" fields = none → ¬ tree.CoveredBy (.object fields) := by
    intro tree fields hn hget hcovered
    obtain ⟨⟨v, hv⟩, -⟩ := SelectionTree.coveredBy_object.1 hcovered _ hn
    exact absurd (hget.symm.trans hv) (by simp)
  obtain ⟨fields, root, hfrom, -, -, hfields⟩ := (hkept _ .refl).object [] rfl
  obtain rfl := hfrom.unique
    (.document rfl (hmissing _ _ List.mem_cons_self rfl) (Sample.wait_entity_chain _))
  obtain ⟨declared, inner, w, hdeclared, hinner, -, hstep⟩ :=
    (hfields (.nested "next" [.leaf "n", .nested "next" [.leaf "n"]]) rfl).2 (List.cons_ne_nil _ _)
  obtain rfl := Option.some.inj hdeclared
  obtain rfl := Option.some.inj hinner
  obtain ⟨fields, shown, hfrom, hshown, -, hfields⟩ := (hkept _ (.single hstep)).object _ rfl
  obtain rfl := hfrom.unique
    (.document rfl (hmissing _ _ List.mem_cons_self rfl) (Sample.wait_entity_chain _))
  exact ⟨Sample.wait_globalId_chain, map, _, shown, hid, .single hstep, rfl, hshown,
    (hfields (.leaf "n") rfl).1 rfl⟩

end FieldSource

end EntityGraph
