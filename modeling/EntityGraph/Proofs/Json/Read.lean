import Mathlib
import EntityGraph.Json.Reader
import EntityGraph.Proofs.Json.Order
import EntityGraph.Proofs.Outcome

/-!
# Values which are read

Whatever the text, the fields of every object in a value which is read are in order
(`Json.ordered_of_read?`): an object is put together by `Fields.ofList`, at every depth.
-/

namespace EntityGraph.Json

open Outcome (bind_eq_ok map_eq_ok)

namespace Reader

theorem ordered_number {negative : Bool} {s r : List Char} {v : Json}
    (h : number negative s = .ok (v, r)) : Ordered v := by
  obtain ⟨⟨n, s'⟩, _, h⟩ := bind_eq_ok.1 h
  simp only at h
  split at h
  · cases h
    trivial
  · cases h

/-- All that the reader yields with some fuel is in order. -/
def YieldsOrdered (fuel : Nat) : Prop :=
  (∀ depth s v r, value fuel depth s = .ok (v, r) → Ordered v) ∧
  (∀ depth s vs r, itemsRest fuel depth s = .ok (vs, r) → OrderedItems vs) ∧
  (∀ depth s f r, field fuel depth s = .ok (f, r) → Ordered f.2) ∧
  (∀ depth s fs r, fieldsRest fuel depth s = .ok (fs, r) → OrderedFields fs)

variable {fuel : Nat}

theorem ordered_value (ih : YieldsOrdered fuel) {depth : Nat} {s r : List Char} {v : Json}
    (h : value (fuel + 1) depth s = .ok (v, r)) : Ordered v := by
  obtain ⟨hvalue, hitems, hfield, hfields⟩ := ih
  rw [value] at h
  split at h
  · cases h
  · obtain ⟨_, _, h⟩ := bind_eq_ok.1 h
    cases h
    trivial
  · split at h
    · cases h
    · split at h
      · cases h
      · cases h
        trivial
      · obtain ⟨⟨w, s₁⟩, hw, h⟩ := bind_eq_ok.1 h
        obtain ⟨⟨ws, s₂⟩, hws, h⟩ := bind_eq_ok.1 h
        cases h
        exact ⟨hvalue _ _ _ _ hw, hitems _ _ _ _ hws⟩
  · split at h
    · cases h
    · split at h
      · cases h
      · cases h
        exact Fields.ordered_nil
      · obtain ⟨⟨f, s₁⟩, hf, h⟩ := bind_eq_ok.1 h
        obtain ⟨⟨fs, s₂⟩, hfs, h⟩ := bind_eq_ok.1 h
        cases h
        refine Fields.ordered_ofList fun g hg => ?_
        rcases List.mem_cons.1 hg with rfl | hg
        · exact hfield _ _ _ _ hf
        · exact orderedFields_iff.1 (hfields _ _ _ _ hfs) g hg
  · obtain ⟨_, _, h⟩ := map_eq_ok.1 h
    cases h
    trivial
  · obtain ⟨_, _, h⟩ := map_eq_ok.1 h
    cases h
    trivial
  · obtain ⟨_, _, h⟩ := map_eq_ok.1 h
    cases h
    trivial
  · exact ordered_number h
  · split_ifs at h
    · exact ordered_number h
    · cases h

theorem ordered_itemsRest (ih : YieldsOrdered fuel) {depth : Nat} {s r : List Char}
    {vs : List Json} (h : itemsRest (fuel + 1) depth s = .ok (vs, r)) : OrderedItems vs := by
  rw [itemsRest] at h
  split at h
  · cases h
  · cases h
    trivial
  · split at h
    · cases h
    · cases h
    · obtain ⟨⟨w, s₁⟩, hw, h⟩ := bind_eq_ok.1 h
      obtain ⟨⟨ws, s₂⟩, hws, h⟩ := bind_eq_ok.1 h
      cases h
      exact ⟨ih.1 _ _ _ _ hw, ih.2.1 _ _ _ _ hws⟩
  · cases h

theorem ordered_field (ih : YieldsOrdered fuel) {depth : Nat} {s r : List Char}
    {f : String × Json} (h : field (fuel + 1) depth s = .ok (f, r)) : Ordered f.2 := by
  unfold field at h
  split at h
  · obtain ⟨⟨name, s₁⟩, _, h⟩ := bind_eq_ok.1 h
    simp only at h
    split at h
    · cases h
    · obtain ⟨⟨w, s₂⟩, hw, h⟩ := bind_eq_ok.1 h
      cases h
      exact ih.1 _ _ _ _ hw
    · cases h
  · cases h

theorem ordered_fieldsRest (ih : YieldsOrdered fuel) {depth : Nat} {s r : List Char}
    {fs : List (String × Json)} (h : fieldsRest (fuel + 1) depth s = .ok (fs, r)) :
    OrderedFields fs := by
  rw [fieldsRest] at h
  split at h
  · cases h
  · cases h
    trivial
  · split at h
    · cases h
    · cases h
    · obtain ⟨⟨g, s₁⟩, hg, h⟩ := bind_eq_ok.1 h
      obtain ⟨⟨gs, s₂⟩, hgs, h⟩ := bind_eq_ok.1 h
      cases h
      exact ⟨ih.2.2.1 _ _ _ _ hg, ih.2.2.2 _ _ _ _ hgs⟩
  · cases h

theorem yieldsOrdered (fuel : Nat) : YieldsOrdered fuel := by
  induction fuel with
  | zero =>
    simp [YieldsOrdered, value, itemsRest, field, fieldsRest, failOn]
  | succ fuel ih =>
    exact ⟨fun _ _ _ _ h => ordered_value ih h, fun _ _ _ _ h => ordered_itemsRest ih h,
      fun _ _ _ _ h => ordered_field ih h, fun _ _ _ _ h => ordered_fieldsRest ih h⟩

end Reader

/-- A value which is read is in order. -/
theorem ordered_of_read? {text : String} {v : Json} (h : read? text = some v) : Ordered v := by
  have hread : read text = .ok v := Outcome.toOption_eq_some.1 h
  unfold read at hread
  simp only at hread
  split at hread
  · cases hread
  · next w r hvalue =>
    split at hread
    · cases hread
      exact (Reader.yieldsOrdered _).1 _ _ _ _ hvalue
    · cases hread

end EntityGraph.Json
