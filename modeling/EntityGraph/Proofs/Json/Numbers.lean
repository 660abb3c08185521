import Mathlib
import EntityGraph.Proofs.Json.Order
import EntityGraph.Proofs.Json.Text

/-!
# The numbers of a value

Neither canonical form nor reading a text back changes anything but numbers. Both replace every
number by another one, wherever it stands in a value: they are `Json.mapNumbers f` for some `f`,
which keeps the shape of the value and the names and the order of its fields. What two such
replacements have in common is decided by the numbers of the value alone (`mapNumbers_eq_iff`).

The canonical form of a number is decided by its value: a double which is an integer of magnitude
up to `2 ^ 53 - 1` becomes that integer (`Number.canonical_float_eq_whole`), everything else stays
(`Number.canonical_eq_self`).
-/

namespace EntityGraph

namespace Double

/-- The number a double stands for. Zero has no sign here. -/
def value (d : Double) : ℚ := (if d.negative then -1 else 1) * (d.scaled / one)

attribute [local irreducible] one

/-- Without its sign the value is a natural number if the division by `one` leaves nothing over. -/
theorem scaled_div_one_eq {d : Double} {m : ℕ} :
    (d.scaled : ℚ) / one = m ↔ d.scaled % one = 0 ∧ d.scaled / one = m := by
  have hone : (one : ℚ) ≠ 0 := by exact_mod_cast one_pos.ne'
  rw [div_eq_iff hone]
  constructor
  · intro h
    have hm : d.scaled = m * one := by exact_mod_cast h
    rw [hm]
    exact ⟨Nat.mul_mod_left _ _, Nat.mul_div_cancel _ one_pos⟩
  · rintro ⟨hmod, rfl⟩
    exact_mod_cast (Nat.div_mul_cancel (Nat.dvd_of_mod_eq_zero hmod)).symm

/-- The integer of a double is its value. -/
theorem toInt?_eq_some {d : Double} {n : Int} : d.toInt? = some n ↔ d.value = n := by
  unfold toInt? value
  by_cases hmod : d.scaled % one = 0
  · rw [if_pos hmod, scaled_div_one_eq.2 ⟨hmod, rfl⟩]
    split_ifs
    · rw [Option.some.injEq, neg_one_mul, ← @Int.cast_inj ℚ, Int.cast_neg, Int.cast_natCast]
    · rw [Option.some.injEq, one_mul, ← @Int.cast_inj ℚ, Int.cast_natCast]
  · rw [if_neg hmod]
    refine iff_of_false (by simp) fun h => hmod ?_
    -- The sign of the double does not matter for being an integer.
    have habs : (d.scaled : ℚ) / one = n.natAbs := by
      have hpos : (0 : ℚ) ≤ d.scaled / one := by positivity
      rw [Nat.cast_natAbs, Int.cast_abs, ← h, abs_mul, abs_of_nonneg hpos]
      split_ifs <;> simp
    exact (scaled_div_one_eq.1 habs).1

end Double

namespace Number

@[simp] theorem canonical_whole (w : Whole) : (Number.whole w).canonical = .whole w := rfl

/-- Which doubles become integers. Zero of either sign is one of them. -/
theorem canonical_float_eq_whole {d : Double} {w : Whole} :
    (Number.float d).canonical = .whole w ↔
      d.value = w.val ∧ w.val.natAbs ≤ 0x1fffffffffffff := by
  rw [← Double.toInt?_eq_some, canonical]
  cases hd : d.toInt? with
  | none => simp
  | some n =>
    simp only [Option.some.injEq]
    split_ifs with hn
    · obtain ⟨val, inRange⟩ := w
      simp only [Number.whole.injEq, Whole.mk.injEq]
      exact ⟨fun h => ⟨h, h ▸ hn⟩, fun h => h.1⟩
    · refine iff_of_false (by simp) ?_
      rintro ⟨rfl, hle⟩
      exact hn hle

/-- The double `1.0`. -/
theorem canonical_one : (Number.float ⟨false, 1023, 0⟩).canonical = .whole ⟨1, by decide⟩ := by
  decide +kernel

/-- The double `-0.0`. -/
theorem canonical_negativeZero :
    (Number.float ⟨true, 0, 0⟩).canonical = .whole ⟨0, by decide⟩ := by
  decide +kernel

/-- What does not become an integer stays as it is. -/
theorem canonical_eq_self {n : Number} (h : ∀ w, n.canonical ≠ .whole w) : n.canonical = n := by
  cases n with
  | whole w => rfl
  | float d =>
    rw [canonical] at h ⊢
    split at h
    · split_ifs at h with hn
      · exact absurd rfl (h _)
      · rw [dif_neg hn]
    · rfl

theorem canonical_eq_float {n : Number} {d : Double} (h : n.canonical = .float d) :
    n = .float d := by
  rw [← canonical_eq_self (n := n) (by simp [h]), h]

@[simp]
theorem canonical_canonical (n : Number) : n.canonical.canonical = n.canonical := by
  cases hn : n.canonical with
  | whole w => rfl
  | float d => rwa [canonical_eq_float hn] at hn

end Number

namespace Json

/-! ### Replacing numbers -/

mutual

/-- The value with `f n` for every number `n`. -/
def mapNumbers (f : Number → Number) : Json → Json
  | .number n => .number (f n)
  | .array items => .array (mapItems f items)
  | .object fields => .object (mapFields f fields)
  | v => v

def mapItems (f : Number → Number) : List Json → List Json
  | [] => []
  | v :: rest => mapNumbers f v :: mapItems f rest

def mapFields (f : Number → Number) : List (String × Json) → List (String × Json)
  | [] => []
  | (n, v) :: rest => (n, mapNumbers f v) :: mapFields f rest

end

@[simp]
theorem mapNumbers_string (f : Number → Number) (s : String) :
    mapNumbers f (.string s) = .string s := rfl

mutual

/-- All numbers of a value. -/
def numbers : Json → List Number
  | .number n => [n]
  | .array items => itemNumbers items
  | .object fields => fieldNumbers fields
  | _ => []

def itemNumbers : List Json → List Number
  | [] => []
  | v :: rest => numbers v ++ itemNumbers rest

def fieldNumbers : List (String × Json) → List Number
  | [] => []
  | (_, v) :: rest => numbers v ++ fieldNumbers rest

end

section Map

variable (f g : Number → Number)

mutual

theorem mapNumbers_mapNumbers : ∀ v : Json, mapNumbers f (mapNumbers g v) = mapNumbers (f ∘ g) v
  | .null | .bool _ | .string _ | .number _ => rfl
  | .array items => by rw [mapNumbers, mapNumbers, mapNumbers, mapItems_mapItems items]
  | .object fields => by rw [mapNumbers, mapNumbers, mapNumbers, mapFields_mapFields fields]

theorem mapItems_mapItems : ∀ items : List Json,
    mapItems f (mapItems g items) = mapItems (f ∘ g) items
  | [] => rfl
  | v :: rest => by
    rw [mapItems, mapItems, mapItems, mapNumbers_mapNumbers v, mapItems_mapItems rest]

theorem mapFields_mapFields : ∀ fields : List (String × Json),
    mapFields f (mapFields g fields) = mapFields (f ∘ g) fields
  | [] => rfl
  | (n, v) :: rest => by
    rw [mapFields, mapFields, mapFields, mapNumbers_mapNumbers v, mapFields_mapFields rest]

end

mutual

/-- Two replacements agree on a value if they agree on its numbers. -/
theorem mapNumbers_eq_iff : ∀ v : Json,
    mapNumbers f v = mapNumbers g v ↔ ∀ n ∈ numbers v, f n = g n
  | .null | .bool _ | .string _ => by simp [mapNumbers, numbers]
  | .number n => by simp [mapNumbers, numbers]
  | .array items => by simp [mapNumbers, numbers, mapItems_eq_iff items]
  | .object fields => by simp [mapNumbers, numbers, mapFields_eq_iff fields]

theorem mapItems_eq_iff : ∀ items : List Json,
    mapItems f items = mapItems g items ↔ ∀ n ∈ itemNumbers items, f n = g n
  | [] => by simp [mapItems, itemNumbers]
  | v :: rest => by
    simp [mapItems, itemNumbers, mapNumbers_eq_iff v, mapItems_eq_iff rest, or_imp, forall_and]

theorem mapFields_eq_iff : ∀ fields : List (String × Json),
    mapFields f fields = mapFields g fields ↔ ∀ n ∈ fieldNumbers fields, f n = g n
  | [] => by simp [mapFields, fieldNumbers]
  | (_, v) :: rest => by
    simp [mapFields, fieldNumbers, mapNumbers_eq_iff v, mapFields_eq_iff rest, or_imp, forall_and]

end

mutual

theorem numbers_mapNumbers : ∀ v : Json, numbers (mapNumbers f v) = (numbers v).map f
  | .null | .bool _ | .string _ | .number _ => rfl
  | .array items => by rw [mapNumbers, numbers, numbers, itemNumbers_mapItems items]
  | .object fields => by rw [mapNumbers, numbers, numbers, fieldNumbers_mapFields fields]

theorem itemNumbers_mapItems : ∀ items : List Json,
    itemNumbers (mapItems f items) = (itemNumbers items).map f
  | [] => rfl
  | v :: rest => by
    rw [mapItems, itemNumbers, itemNumbers, numbers_mapNumbers v, itemNumbers_mapItems rest,
      List.map_append]

theorem fieldNumbers_mapFields : ∀ fields : List (String × Json),
    fieldNumbers (mapFields f fields) = (fieldNumbers fields).map f
  | [] => rfl
  | (_, v) :: rest => by
    rw [mapFields, fieldNumbers, fieldNumbers, numbers_mapNumbers v, fieldNumbers_mapFields rest,
      List.map_append]

end

/-! ### Fields -/

theorem mapFields_eq (fields : List (String × Json)) :
    mapFields f fields = fields.map fun field => (field.1, mapNumbers f field.2) := by
  induction fields with
  | nil => rfl
  | cons field rest ih => rw [mapFields, ih, List.map_cons]

theorem get?_mapFields (name : String) (fields : Fields) :
    Fields.get? name (mapFields f fields) = (Fields.get? name fields).map (mapNumbers f) := by
  induction fields with
  | nil => rfl
  | cons field rest ih =>
    obtain ⟨n, v⟩ := field
    rw [mapFields, Fields.get?_cons, Fields.get?_cons, ih]
    split_ifs <;> rfl

theorem mapFields_insert (name : String) (v : Json) (fields : Fields) :
    mapFields f (Fields.insert name v fields) =
      Fields.insert name (mapNumbers f v) (mapFields f fields) := by
  induction fields with
  | nil => rfl
  | cons field rest ih =>
    obtain ⟨n, w⟩ := field
    rw [mapFields, Fields.insert, Fields.insert]
    split_ifs
    · rfl
    · rfl
    · rw [mapFields, ih]

theorem mapFields_ofList (fields : List (String × Json)) :
    mapFields f (Fields.ofList fields) = Fields.ofList (mapFields f fields) := by
  have key : ∀ (fields : List (String × Json)) (acc : Fields),
      mapFields f (fields.foldl (fun acc f => Fields.insert f.1 f.2 acc) acc) =
        (mapFields f fields).foldl (fun acc f => Fields.insert f.1 f.2 acc) (mapFields f acc) := by
    intro fields
    induction fields with
    | nil => exact fun acc => rfl
    | cons field rest ih =>
      intro acc
      rw [List.foldl_cons, ih, mapFields_insert, mapFields, List.foldl_cons]
  exact key fields []

mutual

theorem ordered_mapNumbers : ∀ v : Json, Ordered (mapNumbers f v) ↔ Ordered v
  | .null | .bool _ | .string _ | .number _ => Iff.rfl
  | .array items => orderedItems_mapItems items
  | .object fields => by
    rw [mapNumbers, Ordered, Ordered, orderedFields_mapFields fields, mapFields_eq,
      Fields.Increasing, Fields.Increasing, List.pairwise_map]

theorem orderedItems_mapItems : ∀ items : List Json,
    OrderedItems (mapItems f items) ↔ OrderedItems items
  | [] => Iff.rfl
  | v :: rest => and_congr (ordered_mapNumbers v) (orderedItems_mapItems rest)

theorem orderedFields_mapFields : ∀ fields : List (String × Json),
    OrderedFields (mapFields f fields) ↔ OrderedFields fields
  | [] => Iff.rfl
  | (_, v) :: rest => and_congr (ordered_mapNumbers v) (orderedFields_mapFields rest)

end

/-! ### Text and canonical form -/

variable (num : Number → List Char)

mutual

/-- To write numbers in another way is to write other numbers. -/
theorem writeWith_comp : ∀ v : Json, writeWith (num ∘ f) v = writeWith num (mapNumbers f v)
  | .null | .bool true | .bool false | .string _ | .number _ => rfl
  | .array [] => rfl
  | .array (v :: rest) => by
    rw [mapNumbers, mapItems, writeWith, writeWith, writeItems_cons, writeItems_cons,
      writeWith_comp v, itemsTail_comp rest]
  | .object [] => rfl
  | .object ((n, v) :: rest) => by
    rw [mapNumbers, mapFields, writeWith, writeWith, writeFields_cons, writeFields_cons,
      writeWith_comp v, fieldsTail_comp rest]

theorem itemsTail_comp : ∀ items : List Json,
    itemsTail (num ∘ f) items = itemsTail num (mapItems f items)
  | [] => rfl
  | v :: rest => by rw [mapItems, itemsTail, itemsTail, writeWith_comp v, itemsTail_comp rest]

theorem fieldsTail_comp : ∀ fields : List (String × Json),
    fieldsTail (num ∘ f) fields = fieldsTail num (mapFields f fields)
  | [] => rfl
  | (n, v) :: rest => by
    rw [mapFields, fieldsTail, fieldsTail, writeWith_comp v, fieldsTail_comp rest]

end

end Map

mutual

theorem canonical_eq : ∀ v : Json, canonical v = mapNumbers Number.canonical v
  | .null | .bool _ | .string _ | .number _ => rfl
  | .array items => by rw [canonical, mapNumbers, canonicalItems_eq items]
  | .object fields => by rw [canonical, mapNumbers, canonicalFields_eq fields]

theorem canonicalItems_eq : ∀ items : List Json,
    canonicalItems items = mapItems Number.canonical items
  | [] => rfl
  | v :: rest => by rw [canonicalItems, mapItems, canonical_eq v, canonicalItems_eq rest]

theorem canonicalFields_eq : ∀ fields : List (String × Json),
    canonicalFields fields = mapFields Number.canonical fields
  | [] => rfl
  | (n, v) :: rest => by rw [canonicalFields, mapFields, canonical_eq v, canonicalFields_eq rest]

end

-- Both canonical forms are the same replacement, so the composition is decided number by number.
@[simp]
theorem canonical_canonical (v : Json) : v.canonical.canonical = v.canonical := by
  rw [canonical_eq v, canonical_eq, mapNumbers_mapNumbers]
  congr 1
  funext n
  exact n.canonical_canonical

/-- The canonical text is the compact text of the canonical form. -/
theorem canonicalText_eq (v : Json) : v.canonicalText = v.canonical.compact := by
  rw [canonicalText, compact, canonical_eq, ← writeWith_comp]
  rfl

end Json

end EntityGraph
