import Mathlib
import EntityGraph.Proofs.Resolver.Answers
import EntityGraph.Proofs.Resolver.Shaped

/-!
# What an id asks for

Selecting an id looks up entities, whose documents may refer to each other in any way, also in
circles. It does not follow the documents but the selection: an entity is looked up for a value in a
layer, and if no document holds a list where something is selected below, there is one value for
each nested selection.

* What a part of the selection does is what is done for the keys it asks for, one after the other or
  side by side (`KeyProjection.Asks`): each is looked up, and at most one document is fetched.
* Nothing is asked for exactly if the parent has every selected field, and the number of keys is at
  most one more than that of the nested selections (`FieldSource.asked_of_globalId`).
-/

namespace EntityGraph

open Storage (SameAnswers)
open scoped List

namespace Selection

mutual

/-- The number of selections, among this one and those below it, which have a selection below
    them. -/
def nestedCount : Selection → Nat
  | .mk _ [] => 0
  | .mk _ (c :: cs) => 1 + nestedCountOfList (c :: cs)

def nestedCountOfList : List Selection → Nat
  | [] => 0
  | s :: rest => nestedCount s + nestedCountOfList rest

end

theorem nestedCount_eq {s : Selection} (h : s.children ≠ []) :
    s.nestedCount = 1 + nestedCountOfList s.children := by
  match s, h with
  | .mk _ (c :: cs), _ => rw [nestedCount, children]

end Selection

/-- The number of nested selections of a selection. -/
def SelectionTree.nestedCount (tree : SelectionTree) : Nat := Selection.nestedCountOfList tree

namespace KeyProjection

mutual

/-- No list stands at a nested field, neither of the object nor of those in it. -/
def ListFree : KeyProjection → Json.Fields → Prop
  | .mk _ _ fields, map => FieldsListFree fields map

def FieldsListFree : List KeyField → Json.Fields → Prop
  | [], _ => True
  | field :: rest, map => FieldListFree field map ∧ FieldsListFree rest map

def FieldListFree : KeyField → Json.Fields → Prop
  | .leaf _, _ => True
  | .nested name projection, map => ∀ v, Json.Fields.get? name map = some v →
      (∀ items, v ≠ .array items) ∧ ListFree projection v.fields

end

theorem listFree_nil (projection : KeyProjection) : projection.ListFree [] := by
  obtain ⟨type, isPrimary, fields⟩ := projection
  rw [ListFree]
  induction fields with
  | nil => trivial
  | cons field rest ih =>
    refine ⟨?_, ih⟩
    cases field with
    | leaf => trivial
    | nested => exact fun v hv => nomatch hv

/-- No document of an entity of the layer holds a list at a nested field. -/
def DocumentsListFree (s : Storage) (layer : KeyProjection) : Prop :=
  layer.isPrimary = true → ∀ v document,
    (s.entity (EntityKey.ofValue v layer.type)).wait = .ok document → layer.ListFree document

/-- What happens to have the document of a key: it is looked up, and the document is fetched if the
    key has a path. -/
def documentEvents (s : Storage) (key : EntityKey) : List Event :=
  .log (LogSource.node.record .trace
      s!"Look up {EntityKey.encode key} to select its key fields") ::
    .lookup key :: (s.eventsBehind (.lookup key) ++
      match (s.path? key).wait with
      | .ok (some path) => .fetch path :: s.eventsBehind (.fetch path)
      | _ => [])

theorem events_entityOf (s : Storage) (type : String) (v : Json) :
    (entityOf s type v).events = documentEvents s (EntityKey.ofValue v type) := by
  rw [entityOf, Eventual.events_andThen, EventualResult.mapError, Eventual.events_map,
    Storage.events_entity]
  rfl

/-- Over every storage with the same answers the run does what is done for the keys, in some
    order. -/
def Asks {α : Type} (s : Storage) (run : Storage → Run α) (asked : List EntityKey) : Prop :=
  ∀ s', SameAnswers s s' → (run s').events ~ asked.flatMap (documentEvents s')

/-- The run asks for keys, for no more than `n` of them if `free` holds. -/
def AsksAtMost {α : Type} (s : Storage) (run : Storage → Run α) (free : Prop) (n : Nat) : Prop :=
  ∃ asked, Asks s run asked ∧ (free → asked.length ≤ n)

namespace AsksAtMost

variable {s : Storage} {α : Type} {free free' : Prop} {n m : Nat}

theorem mono {run : Storage → Run α} (h : AsksAtMost s run free n) (hfree : free' → free)
    (hn : n ≤ m) : AsksAtMost s run free' m := by
  obtain ⟨asked, hasked, hlength⟩ := h
  exact ⟨asked, hasked, fun h => (hlength (hfree h)).trans hn⟩

theorem of_events_eq_nil {run : Storage → Run α} (h : ∀ s', (run s').events = []) :
    AsksAtMost s run free n :=
  ⟨[], fun s' _ => by rw [h s']; rfl, fun _ => Nat.zero_le n⟩

/-- What is waited for together asks for all keys together. -/
theorem joinAll_cons {first : Storage → RunResult ResolveError α}
    {rest : Storage → List (RunResult ResolveError α)} (hfirst : AsksAtMost s first free n)
    (hrest : AsksAtMost s (fun s' => EventualResult.joinAll (rest s')) free' m) :
    AsksAtMost s (fun s' => EventualResult.joinAll (first s' :: rest s')) (free ∧ free')
      (n + m) := by
  obtain ⟨asked, hasked, hlength⟩ := hfirst
  obtain ⟨more, hmore, hlength'⟩ := hrest
  refine ⟨asked ++ more, fun s' hs' => ?_, fun ⟨h, h'⟩ => ?_⟩
  · rw [List.flatMap_append]
    exact (Eventual.interleaved_events_joinAll _ _).perm.trans
      ((hasked s' hs').append (hmore s' hs'))
  · rw [List.length_append]
    exact Nat.add_le_add (hlength h) (hlength' h')

/-- One key more is asked for to have a document. -/
theorem entityOf {type : String} {v : Json}
    {run : Storage → Json.Fields → RunResult ResolveError α} {free : Json.Fields → Prop}
    (h : ∀ document, AsksAtMost s (fun s' => run s' document) (free document) n) :
    AsksAtMost s (fun s' => EventualResult.andThen (KeyProjection.entityOf s' type v) (run s'))
      (∀ document, (s.entity (EntityKey.ofValue v type)).wait = .ok document → free document)
      (1 + n) := by
  have hwait : ∀ s', SameAnswers s s' →
      (KeyProjection.entityOf s' type v).wait = (KeyProjection.entityOf s type v).wait := by
    intro s' hs'
    rw [(outline_entityOf (.refl s') type v).wait, (outline_entityOf hs' type v).wait]
  cases hentity : (KeyProjection.entityOf s type v).wait with
  | error e =>
    -- Without a document nothing is asked for behind it.
    refine ⟨[EntityKey.ofValue v type], fun s' hs' => ?_, fun _ => Nat.le_add_right 1 n⟩
    change (EventualResult.andThen (KeyProjection.entityOf s' type v) (run s')).events ~ _
    rw [EventualResult.andThen, Eventual.events_andThen, hwait s' hs', hentity, events_entityOf]
    rfl
  | ok document =>
    obtain ⟨asked, hasked, hlength⟩ := h document
    refine ⟨EntityKey.ofValue v type :: asked, fun s' hs' => ?_, fun hfree => ?_⟩
    · change (EventualResult.andThen (KeyProjection.entityOf s' type v) (run s')).events ~ _
      rw [EventualResult.andThen, Eventual.events_andThen, hwait s' hs', hentity, events_entityOf,
        List.flatMap_cons]
      exact (hasked s' hs').append_left _
    · rw [List.length_cons, Nat.add_comm]
      exact Nat.add_le_add_left (hlength (hfree document ((wait_entityOf type v).1 hentity))) 1

end AsksAtMost

variable {ts : TypeSystem} {s : Storage}

/-- What is asked for to select a value of the projection of a selection. -/
def SelectAsks (ts : TypeSystem) (s : Storage) (tree : SelectionTree) : Prop :=
  ∀ type projection, ofSelection ts type tree = .ok projection → ∀ v,
    AsksAtMost s (fun s' => select s' projection v)
      (projection.EveryLayer (DocumentsListFree s) ∧ (∀ items, v ≠ .array items) ∧
        (projection.isPrimary = false → projection.ListFree v.fields))
      (1 + tree.nestedCount)

theorem asksAtMost_selectField {t : SourceType} {sel : Selection} {field : KeyField}
    (hfield : Resolved ts t sel field) (hbelow : SelectAsks ts s sel.children)
    (map : Json.Fields) : AsksAtMost s (fun s' => selectField s' field map)
      (FieldBelow (DocumentsListFree s) field ∧ FieldListFree field map) sel.nestedCount := by
  cases hfield with
  | leaf => exact .of_events_eq_nil fun _ => rfl
  | @nested name children declared projection hchildren _ hprojection =>
    have hcount : (Selection.mk name children).nestedCount = 1 + SelectionTree.nestedCount children :=
      Selection.nestedCount_eq hchildren
    rw [hcount]
    refine (hbelow _ _ hprojection ((Json.Fields.get? name map).getD .null)).mono ?_ le_rfl
    rintro ⟨hlayer, hfree⟩
    refine ⟨hlayer, ?_⟩
    cases hget : Json.Fields.get? name map with
    | none => exact ⟨fun items => nofun, fun _ => listFree_nil projection⟩
    | some v => exact ⟨(hfree v hget).1, fun _ => (hfree v hget).2⟩

theorem asksAtMost_selectFields {t : SourceType} {tree : SelectionTree} {fields : List KeyField}
    (hfields : List.Forall₂ (Resolved ts t) tree fields)
    (hbelow : ∀ sel ∈ tree, SelectAsks ts s sel.children) (map : Json.Fields) :
    AsksAtMost s (fun s' => gather (selectFields s' fields map))
      (EveryBelow (DocumentsListFree s) fields ∧ FieldsListFree fields map) tree.nestedCount := by
  induction hfields with
  | nil => exact .of_events_eq_nil fun _ => rfl
  | cons hfirst _ ih =>
    obtain ⟨hfirstBelow, hrestBelow⟩ := List.forall_mem_cons.1 hbelow
    have hcons := AsksAtMost.joinAll_cons (asksAtMost_selectField hfirst hfirstBelow map)
      (ih hrestBelow)
    exact hcons.mono (fun ⟨h, h'⟩ => ⟨⟨h.1, h'.1⟩, h.2, h'.2⟩) le_rfl

/-- An array asks for what its items ask for together, and there may be any number of them. -/
theorem asksAtMost_array {projection : KeyProjection} {items : List Json} {free : Json → Prop}
    {n : Nat} (h : ∀ v ∈ items, AsksAtMost s (fun s' => select s' projection v) (free v) n) :
    AsksAtMost s (fun s' => select s' projection (.array items)) (∀ v ∈ items, free v)
      (items.length * n) := by
  cases hproject : projection.project (.array items) with
  | some w => exact .of_events_eq_nil fun s' => by rw [select_eq_ok hproject]; rfl
  | none =>
    have hitems : AsksAtMost s
        (fun s' => EventualResult.joinAll (items.map (select s' projection)))
        (∀ v ∈ items, free v) (items.length * n) := by
      clear hproject
      induction items with
      | nil => exact .of_events_eq_nil fun _ => rfl
      | cons v rest ih =>
        obtain ⟨hv, hrest⟩ := List.forall_mem_cons.1 h
        refine (AsksAtMost.joinAll_cons hv (ih hrest)).mono List.forall_mem_cons.1 ?_
        rw [List.length_cons, Nat.succ_mul, Nat.add_comm]
    obtain ⟨asked, hasked, hlength⟩ := hitems
    refine ⟨asked, fun s' hs' => ?_, hlength⟩
    change (select s' projection (.array items)).events ~ _
    rw [select_array_eq hproject]
    exact hasked s' hs'

/-- Selecting asks for the entity of the value, if it is not complete, and for what is selected
    below. -/
theorem selectAsks (tree : SelectionTree) : SelectAsks ts s tree := by
  induction tree using SelectionTree.layer_induction with
  | layer tree ih =>
    intro type projection hprojection v
    obtain ⟨t, fields, ht, rfl, hfields⟩ := resolved_of_ofSelection hprojection
    have hbelow := asksAtMost_selectFields hfields ih
    -- The bound is by layers: the documents may lead on in circles, the selection does not.
    induction v using Json.items_induction with
    | array items ihitems =>
      obtain ⟨asked, hasked, -⟩ := asksAtMost_array ihitems
      exact ⟨asked, hasked, fun h => absurd rfl (h.2.1 items)⟩
    | other v hv =>
      cases hproject : project (.mk type (ts.isPrimary t) fields) v with
      | some w => exact .of_events_eq_nil fun s' => by rw [select_eq_ok hproject]; rfl
      | none =>
        simp only [select, selectWith_eq_complete hv hproject]
        split_ifs with hprimary
        · refine (AsksAtMost.entityOf hbelow).mono ?_ le_rfl
          rintro ⟨hlayer, -⟩ document hdocument
          exact ⟨hlayer.2, hlayer.1 hprimary v document hdocument⟩
        · refine (hbelow v.fields).mono ?_ (Nat.le_add_left _ 1)
          rintro ⟨hlayer, -, hfree⟩
          exact ⟨hlayer.2, hfree (Bool.eq_false_iff.2 hprimary)⟩

/-- A storage without events of its own shows which key was looked up. -/
theorem lookups_documentEvents_silent (s : Storage) (key : EntityKey) :
    (documentEvents s.silent key).filterMap Event.lookup? = [key] := by
  simp only [documentEvents, Storage.eventsBehind_silent, List.nil_append]
  split <;> rfl

end KeyProjection

namespace FieldSource

open KeyProjection (DocumentsListFree documentEvents)

theorem events_globalId (s : Storage) (projection : KeyProjection) (p : ResolveParams) :
    (resolve s (.globalId (some projection)) p).events =
      (projection.select s (idParent p.parent)).events := by
  rw [resolve_globalId, Eventual.events_map]

theorem idParent_ne_array (parent : Json) (items : List Json) : idParent parent ≠ .array items := by
  cases parent <;> simp [idParent, Json.isObject]

/-- A parent which is not complete is looked up. -/
theorem lookup_mem_events_globalId {type : String} {fields : List KeyField} {p : ResolveParams}
    (h : KeyProjection.project (.mk type true fields) (idParent p.parent) = none) (s : Storage) :
    .lookup (EntityKey.ofValue (idParent p.parent) type) ∈
      (resolve s (.globalId (some (.mk type true fields))) p).events := by
  rw [events_globalId, KeyProjection.select,
    KeyProjection.selectWith_eq_complete (idParent_ne_array _) h, if_pos rfl,
    EventualResult.andThen, Eventual.events_andThen, KeyProjection.events_entityOf, documentEvents]
  simp

/-- An id looks up nothing exactly if the parent has every field of the first key. All that happens
    is that keys are looked up, each with at most one document fetched for it, and unless a document
    holds a list where something is selected below, there are no more of them than one and the
    nested selections of the key. -/
theorem asked_of_globalId {ts : TypeSystem} {t : SourceType} {key : KeyDeclaration}
    {projection : KeyProjection} (hkey : FirstKey ts t key projection) (s : Storage)
    (p : ResolveParams) :
    let source : FieldSource := .globalId (some projection)
    let asked := (issued s source p).filterMap Event.lookup?
    ((∀ k, Event.lookup k ∉ (resolve s source p).events) ↔
      key.selection.CoveredBy (idParent p.parent)) ∧
    (resolve s source p).events ~ asked.flatMap (documentEvents s) ∧
    (projection.EveryLayer (DocumentsListFree s) →
      asked.length ≤ 1 + key.selection.nestedCount) := by
  intro source asked
  obtain ⟨keys, hkeys, hlength⟩ :=
    KeyProjection.selectAsks key.selection t.name projection hkey.resolved (idParent p.parent)
  have hcovered := KeyProjection.exists_project_iff hkey.resolved (idParent p.parent)
  obtain ⟨fields, rfl⟩ := hkey.eq_mk
  -- Over the silent storage nothing but the keys is looked up.
  have hasked : asked ~ keys := by
    have hissued := (hkeys s.silent s.sameAnswers_silent).filterMap Event.lookup?
    rw [List.filterMap_flatMap] at hissued
    simpa [KeyProjection.lookups_documentEvents_silent, asked, issued, source, events_globalId]
      using hissued
  refine ⟨?_, ?_, fun hdocuments => ?_⟩
  · rw [← hcovered]
    constructor
    · intro hnone
      cases hproject : KeyProjection.project (.mk t.name true fields) (idParent p.parent) with
      | some w => exact ⟨w, rfl⟩
      | none => exact absurd (lookup_mem_events_globalId hproject s) (hnone _)
    · rintro ⟨w, hw⟩ k
      rw [events_globalId, KeyProjection.select_eq_ok hw]
      exact List.not_mem_nil
  · rw [events_globalId]
    exact (hkeys s (.refl s)).trans (hasked.symm.flatMap_right _)
  · rw [hasked.length_eq]
    exact hlength ⟨hdocuments, idParent_ne_array _, fun hprimary => nomatch hprimary⟩

/-- Two nested selections, each for an entity which its own document refers to: three keys. -/
theorem asked_of_globalId_chain :
    let asked := (issued Sample.chainStorage (.globalId (some Sample.chainProjection))
      Sample.chainParams).filterMap Event.lookup?
    asked.length = 3 ∧ asked.length ≤ 1 + Sample.chainKey.selection.nestedCount := by
  have hdocuments : ∀ fields : List KeyField,
      KeyProjection.ListFree (.mk "T" true fields) Sample.chainDocument →
      DocumentsListFree Sample.chainStorage (.mk "T" true fields) := by
    intro fields hfree _ v document hdocument
    obtain rfl := Except.ok.inj ((Sample.wait_entity_chain _).symm.trans hdocument)
    exact hfree
  refine ⟨by decide +kernel, (asked_of_globalId Sample.firstKey_chain _ _).2.2 ?_⟩
  refine ⟨hdocuments _ ?_, trivial, ⟨hdocuments _ ?_, trivial, ⟨hdocuments _ ?_, trivial, trivial⟩,
    trivial⟩, trivial⟩
  all_goals simp [KeyProjection.ListFree, KeyProjection.FieldsListFree,
    KeyProjection.FieldListFree, Sample.chainDocument, Json.Fields.get?, Json.fields]

end FieldSource

end EntityGraph
