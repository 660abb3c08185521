import Mathlib
import EntityGraph.Key
import EntityGraph.Proofs.Json.Reread

/-!
# Encoded keys

The text of an encoded key stands for the canonical form of the key.

* Keys share a text exactly if they share a canonical form, and the order in which their fields
  were inserted does not matter (`encode_eq_iff_canonical_eq`). So no entity answers for another.
  What keys may differ in and still share a text are doubles in place of the integers they are, up
  to a magnitude of `2 ^ 53 - 1` (`encode_insert_float_eq_whole`).
* The text is decoded to the canonical form if the doubles in it read back
  (`decode_encode_of_readsBack`). Otherwise it is decoded to a key with another text
  (`decode?_encode`).

A key is in order if the fields of its objects are, as they are in every value which is read or put
together field by field.
-/

namespace EntityGraph.EntityKey

open Json (Reordered arrangeFields canonicalFields mapFields)

/-- The key of fields which were inserted in this order, at every depth. -/
def ofFields (fields : List (String × Json)) : EntityKey :=
  Json.Fields.ofList (arrangeFields fields)

theorem ordered_ofFields (fields : List (String × Json)) :
    Json.Fields.Ordered (ofFields fields) :=
  Json.ordered_arrange (.object fields)

theorem ofFields_eq_self {k : EntityKey} (ho : Json.Fields.Ordered k) : ofFields k = k :=
  Json.object.inj (Json.arrange_eq_self (.object k) ho)

theorem encode_eq_iff {a b : EntityKey} :
    encode a = encode b ↔ canonicalFields a = canonicalFields b := by
  rw [encode, encode, Json.canonicalText_eq_iff, Json.canonical, Json.canonical,
    Json.object.injEq]

@[simp]
theorem encode_canonicalFields (k : EntityKey) : encode (canonicalFields k) = encode k := by
  have h := Json.canonical_canonical (.object k)
  rw [Json.canonical, Json.canonical, Json.object.injEq] at h
  exact encode_eq_iff.2 h

/-- Fields with one canonical form make keys with one text. -/
theorem encode_insert_eq (name : String) (v : Json) {fields fields' : Json.Fields}
    (h : canonicalFields fields = canonicalFields fields') :
    encode (Json.Fields.insert name v fields) = encode (Json.Fields.insert name v fields') := by
  rw [encode_eq_iff]
  rw [Json.canonicalFields_eq, Json.canonicalFields_eq] at h ⊢
  rw [Json.mapFields_insert, Json.mapFields_insert, h]

/-- Numbers in one place of two keys make the same text exactly if they share a canonical form. -/
theorem encode_insert_number_eq_iff {name : String} {n n' : Number} {fields : Json.Fields} :
    encode (Json.Fields.insert name (.number n) fields) =
      encode (Json.Fields.insert name (.number n') fields) ↔ n.canonical = n'.canonical := by
  rw [encode_eq_iff, Json.canonicalFields_eq, Json.canonicalFields_eq, Json.mapFields_insert,
    Json.mapFields_insert]
  constructor
  · intro h
    have hget := congrArg (Json.Fields.get? name) h
    rw [Json.Fields.get?_insert, Json.Fields.get?_insert, if_pos rfl, if_pos rfl] at hget
    exact Json.number.inj (Option.some.inj hget)
  · intro h
    rw [Json.mapNumbers, Json.mapNumbers, h]

/-- A double makes the same text as an integer exactly if it has the value of the integer, and a
    magnitude up to `2 ^ 53 - 1`. -/
theorem encode_insert_float_eq_whole {name : String} {d : Double} {w : Whole}
    {fields : Json.Fields} :
    encode (Json.Fields.insert name (.number (.float d)) fields) =
      encode (Json.Fields.insert name (.number (.whole w)) fields) ↔
        d.value = w.val ∧ w.val.natAbs ≤ 0x1fffffffffffff := by
  rw [encode_insert_number_eq_iff, Number.canonical_whole, Number.canonical_float_eq_whole]

/-- Encoded keys are free of collisions, whatever the size and the depth of the keys. -/
theorem encode_eq_iff_canonical_eq :
    (∀ a b : EntityKey, encode a = encode b ↔ canonicalFields a = canonicalFields b) ∧
      ∀ fields fields' : List (String × Json), Reordered (.object fields) (.object fields') →
        encode (ofFields fields) = encode (ofFields fields') := by
  refine ⟨fun a b => encode_eq_iff, fun fields fields' h => ?_⟩
  have harrange := Json.arrange_eq_of_reordered h
  rw [Json.arrange, Json.arrange, Json.object.injEq] at harrange
  rw [ofFields, ofFields, harrange]

/-- Two fields of an object inside a key change places, and the doubles `1.0`, `-0.0` and
    `2 ^ 53 - 1` stand for the integers they are. The double `2 ^ 53` does not. -/
theorem encode_swapped :
    encode (ofFields [("of", .object [("y", .null), ("x", .bool true)])]) =
      encode (ofFields [("of", .object [("x", .bool true), ("y", .null)])]) ∧
    encode [("x", .number (.float ⟨false, 1023, 0⟩)), ("y", .number (.float ⟨true, 0, 0⟩)),
        ("z", .number (.float ⟨false, 1075, 0xFFFFFFFFFFFFF⟩))] =
      encode [("x", .number (.whole ⟨1, by decide⟩)), ("y", .number (.whole ⟨0, by decide⟩)),
        ("z", .number (.whole ⟨0x1FFFFFFFFFFFFF, by decide⟩))] ∧
    encode [("z", .number (.float ⟨false, 1076, 0⟩))] ≠
      encode [("z", .number (.whole ⟨0x20000000000000, by decide⟩))] := by
  obtain ⟨hencode, hreordered⟩ := encode_eq_iff_canonical_eq
  have hlast : (Number.float ⟨false, 1075, 0xFFFFFFFFFFFFF⟩).canonical =
      .whole ⟨0x1FFFFFFFFFFFFF, by decide⟩ := by
    decide +kernel
  have hnext : (Number.float ⟨false, 1076, 0⟩).canonical = .float ⟨false, 1076, 0⟩ := by
    decide +kernel
  refine ⟨?_, ?_, ?_⟩
  · exact hreordered _ _ (.field [] "of" [] (.fields (List.Perm.swap _ _ _) (by decide)))
  · rw [hencode]
    simp only [canonicalFields, Json.canonical, Number.canonical_one, Number.canonical_negativeZero,
      hlast, Number.canonical_whole]
  · rw [ne_eq, hencode]
    simp [canonicalFields, Json.canonical, hnext]

/-- What an encoded key is decoded to differs from the key in numbers only, and has the same text
    exactly if the doubles of the key read back. -/
theorem decode?_encode {k k' : EntityKey} (ho : Json.Fields.Ordered k)
    (h : decode? (encode k) = some k') :
    k' = mapFields (Number.reread ∘ Number.canonical) k ∧
      (encode k' = encode k ↔ (Json.object k).ReadsBack) := by
  rw [decode?] at h
  split at h
  · next fields hread =>
    obtain rfl := Option.some.inj h
    obtain ⟨hfields, hiff⟩ := Json.canonicalText_of_read? ho hread
    rw [Json.mapNumbers, Json.object.injEq] at hfields
    exact ⟨hfields, hiff⟩
  · cases h

/-- Whether the doubles of a key read back can be told from its text. -/
theorem readsBack_congr {a b : EntityKey} (h : encode a = encode b) :
    (Json.object a).ReadsBack ↔ (Json.object b).ReadsBack := by
  rw [Json.ReadsBack, Json.ReadsBack, Json.canonical, Json.canonical, encode_eq_iff.1 h]

/-- Decoding undoes encoding up to canonical form, and canonical text is its own canonical
    text. -/
theorem decode_encode_of_readsBack :
    (∀ k : EntityKey, Json.Fields.Ordered k → (Json.object k).depth ≤ Json.maxDepth →
      (Json.object k).ReadsBack →
        decode? (encode k) = some (canonicalFields k) ∧
        (decode? (encode k)).map encode = some (encode k)) ∧
    (∀ k : EntityKey, encode (canonicalFields k) = encode k) ∧
    ∀ v : Json, v.Ordered → v.depth ≤ Json.maxDepth → v.ReadsBack →
      (Json.read? v.canonicalText).map Json.canonicalText = some v.canonicalText := by
  refine ⟨fun k ho hd hback => ?_, encode_canonicalFields, fun v ho hd hback => ?_⟩
  · have hdecode : decode? (encode k) = some (canonicalFields k) := by
      rw [decode?, encode, Json.read?_canonicalText_of_readsBack ho hd hback, Json.canonical]
    exact ⟨hdecode, by rw [hdecode, Option.map_some, encode_canonicalFields]⟩
  · rw [Json.read?_canonicalText_of_readsBack ho hd hback, Option.map_some,
      Json.canonicalText_eq_iff.2 v.canonical_canonical]

/-- A key with the double `7.5`, which reads back, and with `1.0` and `-0.0`, which are decoded as
    the integers `1` and `0`. -/
theorem decode_encode_rating :
    let k : EntityKey := [("__typename", .string "Movie"),
      ("change", .number (.float ⟨true, 0, 0⟩)), ("part", .number (.float ⟨false, 1023, 0⟩)),
      ("rating", .number (.float ⟨false, 1025, 0xE000000000000⟩))]
    decode? (encode k) = some (canonicalFields k) ∧
      (decode? (encode k)).map encode = some (encode k) ∧
      canonicalFields k = [("__typename", .string "Movie"),
        ("change", .number (.whole ⟨0, by decide⟩)), ("part", .number (.whole ⟨1, by decide⟩)),
        ("rating", .number (.float ⟨false, 1025, 0xE000000000000⟩))] := by
  intro k
  have hrating : (Number.float ⟨false, 1025, 0xE000000000000⟩).canonical =
      .float ⟨false, 1025, 0xE000000000000⟩ := by
    decide +kernel
  have hcanonical : canonicalFields k = [("__typename", .string "Movie"),
      ("change", .number (.whole ⟨0, by decide⟩)), ("part", .number (.whole ⟨1, by decide⟩)),
      ("rating", .number (.float ⟨false, 1025, 0xE000000000000⟩))] := by
    simp only [k, canonicalFields, Json.canonical, Number.canonical_negativeZero,
      Number.canonical_one, hrating]
  have hordered : Json.Fields.Ordered k := by
    refine ⟨?_, trivial, trivial, trivial, trivial, trivial⟩
    rw [Json.Fields.Increasing]
    decide
  have hback : (Json.object k).ReadsBack := by
    intro d hd
    obtain rfl : d = ⟨false, 1025, 0xE000000000000⟩ := by
      simpa [Json.canonical, hcanonical, Json.numbers, Json.fieldNumbers] using hd
    decide +kernel
  obtain ⟨hdecode, hencode⟩ := decode_encode_of_readsBack.1 k hordered (by decide) hback
  exact ⟨hdecode, hencode, hcanonical⟩

end EntityGraph.EntityKey
