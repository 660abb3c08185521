import Mathlib
import EntityGraph.Proofs.KeyProjection.Answers
import EntityGraph.Resolver
import EntityGraph.Schema.Assembly

/-!
# Resolving over different storages

Whether the answers of a storage are there right away or have to be waited for can not be told from
what is resolved. It can be told from how it is resolved: a field is ready before it is waited for
exactly if everything that was asked for on the way was answered right away
(`FieldSource.resolve_of_sameAnswers`).
-/

namespace EntityGraph

open Storage (Outline SameAnswers)

/-- A fetcher which answers everything a round later can not be told from the fetcher itself, not
    even by a look-up in an index. -/
theorem Storage.sameAnswers_deferred (fetcher : Fetcher) (indexPath : String) :
    SameAnswers ⟨fetcher, Lookup.index indexPath⟩ ⟨fetcher.deferred, Lookup.index indexPath⟩ where
  path key := by
    simp only [Lookup.index, EventualResult.wait_andThen, EventualResult.mapError,
      Eventual.wait_map, Fetcher.fetch, Eventual.wait_andThen, Fetcher.deferred,
      Eventual.wait_later]
  document _ := rfl

theorem Schema.wait_create {f₁ f₂ : Fetcher}
    (h : ∀ path, (f₁.answer path).wait = (f₂.answer path).wait) (config : Configuration)
    (suffixes : Suffixes) :
    (Schema.create f₁ config suffixes).wait = (Schema.create f₂ config suffixes).wait := by
  simp only [Schema.create, Eventual.wait_andThen, EventualResult.wait_andThen,
    EventualResult.mapError, Eventual.wait_map, Fetcher.fetch, h]

namespace FieldSource

variable {s s' : Storage}

theorem outline_resolveNode (h : SameAnswers s s') (id : String) :
    Outline s (resolveNode s id) (resolveNode s'.silent id) := by
  rw [resolveNode, resolveNode]
  split
  · exact .andThen (.log ..) fun _ => .ok _
  · exact .map (.path? h _) _

theorem outline_resolve (h : SameAnswers s s') (source : FieldSource) (p : ResolveParams) :
    Outline s (resolve s source p) (resolve s'.silent source p) := by
  cases source with
  | parentValue => exact .ok _
  | document => exact .andThen (.log ..) fun _ => .map (.entity h _) _
  | globalId key =>
    cases key with
    | none => exact .ok _
    | some projection =>
      rw [resolve, resolve, resolveId, resolveId]
      exact .map (KeyProjection.outline_select h projection _) _
  | node =>
    rw [resolve, resolve]
    split
    · exact outline_resolveNode h _
    · exact .fail _
  | byKey type => exact outline_resolveNode h _

/-- What a field asks for itself while it is resolved, and the log records it writes. -/
def issued (s : Storage) (source : FieldSource) (p : ResolveParams) : List Event :=
  (resolve s.silent source p).events

/-- Storages with the same answers resolve every field to the same value or failure and build the
    same schema, and over each of them a field is ready exactly if all that it asks for is answered
    right away. What is reported of several failures is the first one in order. -/
theorem resolve_of_sameAnswers {s₁ s₂ : Storage} (h : SameAnswers s₁ s₂) :
    (∀ source p, (resolve s₁ source p).wait = (resolve s₂ source p).wait) ∧
    (∀ config suffixes, (Schema.create s₁.fetcher config suffixes).wait =
      (Schema.create s₂.fetcher config suffixes).wait) ∧
    ∀ s : Storage, s = s₁ ∨ s = s₂ →
      (∀ source p,
        ((resolve s source p).isReady = true ↔ ∀ e ∈ issued s source p, s.AnswersAtOnce e) ∧
        ∀ e, e ∈ (resolve s source p).events ↔ e ∈ issued s source p ∨
          ∃ asked ∈ issued s source p, e ∈ s.eventsBehind asked) ∧
      (∀ (projection : KeyProjection) (items : List Json) (e : ResolveError),
        (projection.select s (.array items)).wait = .error e ↔
          ∃ (values : List Json) (behind : List (Except ResolveError Json)),
            items.map (fun v => (projection.select s v).wait) =
              values.map .ok ++ .error e :: behind) ∧
      ∀ (projection : KeyProjection) (v : Json) (map : Json.Fields) (e : ResolveError),
        (∀ items, v ≠ .array items) → projection.project v = none →
        (projection.fieldsFrom s v).wait = .ok map →
          ((projection.select s v).wait = .error e ↔
            ∃ (picked : List (String × Json))
              (behind : List (Except ResolveError (String × Json))),
              projection.fields.map (fun field => (KeyProjection.selectField s field map).wait) =
                picked.map .ok ++ .error e :: behind) := by
  refine ⟨fun source p => ?_, Schema.wait_create h.document, fun s _ =>
    ⟨fun source p => ?_, fun projection items e => ?_,
      fun projection v map e hv hproject hmap => ?_⟩⟩
  · -- Both come to the value of the outline over the second storage.
    rw [(outline_resolve h source p).wait, (outline_resolve (.refl s₂) source p).wait]
  · have houtline := outline_resolve (.refl s) source p
    exact ⟨houtline.isReady, houtline.mem_events⟩
  · exact KeyProjection.wait_select_array_eq_error projection items
  · exact KeyProjection.wait_select_eq_error hv hproject hmap

/-- The id of an entity which is looked up, over documents in memory and over the same documents
    answered later. -/
theorem resolve_of_sameAnswers_deferred :
    let documents : Documents :=
      [("index.json", "\x7b\"\x7b\\\"__typename\\\":\\\"T\\\",\\\"y\\\":true\x7d\":\"t.json\"\x7d"),
        ("t.json", "\x7b\"x\":7\x7d")]
    let s₁ : Storage := ⟨Fetcher.memory documents, Lookup.index "index.json"⟩
    let s₂ : Storage := ⟨(Fetcher.memory documents).deferred, Lookup.index "index.json"⟩
    let source : FieldSource := .globalId (some (.mk "T" true [.leaf "x"]))
    let p : ResolveParams := ⟨.object [("y", .bool true)], [], idField, "T"⟩
    SameAnswers s₁ s₂ ∧ (resolve s₁ source p).wait = (resolve s₂ source p).wait ∧
      (resolve s₁ source p).isReady = true ∧ (resolve s₂ source p).isReady = false := by
  intro documents s₁ s₂ source p
  have hsame : SameAnswers s₁ s₂ := Storage.sameAnswers_deferred _ _
  exact ⟨hsame, (resolve_of_sameAnswers hsame).1 source p, by decide +kernel, by decide +kernel⟩

end FieldSource

end EntityGraph
