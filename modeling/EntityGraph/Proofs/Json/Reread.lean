import Mathlib
import EntityGraph.Proofs.Json.Numbers
import EntityGraph.Proofs.Json.Text
import EntityGraph.Proofs.Outcome

/-!
# Reading what was written

What the reader makes of the compact text of a value is `Json.reread` (`read?_compact`): the shape
of the value, its strings and the names of its fields come back as they are, and every number as
its numeral is read. Nothing comes back if the value nests too deep or a number is too large.

Whole numbers are read as they are (`Number.number?_whole`). A double may be read as another one,
since the reader rounds twice; it *reads back* if it is not (`Double.ReadsBack`). So an ordered
value which is not too deep comes back if its doubles read back (`reread_eq_self`), and otherwise
it comes back with other numbers (`eq_mapNumbers_of_reread`).
-/

namespace EntityGraph

namespace Json

/-! ### What is read -/

mutual

/-- What the reader makes of the text of a value which stands where `depth` more containers may be
    opened. -/
def reread : (depth : Nat) → Json → Option Json
  | _, .number n => n.numeral.number?.map .number
  | depth + 1, .array items => (rereadItems depth items).map .array
  | depth + 1, .object fields =>
    (rereadFields depth fields).map fun fields => .object (Fields.ofList fields)
  | 0, .array _ | 0, .object _ => none
  | _, v => some v

def rereadItems : (depth : Nat) → List Json → Option (List Json)
  | _, [] => some []
  | depth, v :: rest => (reread depth v).bind fun v => (rereadItems depth rest).map (v :: ·)

def rereadFields : (depth : Nat) → List (String × Json) → Option (List (String × Json))
  | _, [] => some []
  | depth, (n, v) :: rest =>
    (reread depth v).bind fun v => (rereadFields depth rest).map ((n, v) :: ·)

end

mutual

/-- How deep arrays and objects nest. -/
def depth : Json → Nat
  | .array items => depthItems items + 1
  | .object fields => depthFields fields + 1
  | _ => 0

def depthItems : List Json → Nat
  | [] => 0
  | v :: rest => max (depth v) (depthItems rest)

def depthFields : List (String × Json) → Nat
  | [] => 0
  | (_, v) :: rest => max (depth v) (depthFields rest)

end

namespace Reader

open Outcome (toOption_bind)

theorem skipBlank_cons {c : Char} (hc : isBlank c = false) (s : List Char) :
    skipBlank (c :: s) = c :: s := by
  simp [skipBlank, hc]

/-- A number is read as its numeral says. -/
theorem value_number (n : Number) {fuel depth : Nat} {r : List Char} (hf : 0 < fuel)
    (hr : Closing r) :
    (value fuel depth (n.chars ++ r)).toOption =
      (n.numeral.number?.map Json.number).map fun v => (v, r) := by
  obtain ⟨fuel, rfl⟩ := Nat.exists_eq_succ_of_ne_zero hf.ne'
  have hvalue : value (fuel + 1) depth (n.chars ++ r) =
      number n.numeral.negative (n.numeral.body ++ r) := by
    rw [n.chars_eq, Numeral.chars]
    split_ifs with hsign
    · rw [List.cons_append, value, skipBlank_cons (by decide), hsign]
      rfl
    · obtain ⟨c, s, hbody, hdigit⟩ := n.numeral_wellFormed.body_eq_cons
      have hblank : isBlank c = false := (leads_number (.inr hdigit)).noBlank
      rw [hbody, List.cons_append, value, skipBlank_cons hblank]
      simp only [Bool.not_eq_true] at hsign
      split <;> simp_all
  rw [hvalue, number, numeral_body n.numeral_wellFormed hr]
  simp only [bind, Except.bind]
  cases n.numeral.number? <;> rfl

variable {fuel depth : Nat} {s : List Char}

/-- An array is read item by item. -/
theorem value_array (v : Json) :
    (value (fuel + 1) (depth + 1) ('[' :: (writeWith Number.chars v ++ s))).toOption =
      (value fuel depth (writeWith Number.chars v ++ s)).toOption.bind fun (w, r) =>
        (itemsRest fuel depth r).toOption.map fun (ws, r) => (.array (w :: ws), r) := by
  obtain ⟨c, t, hct, hc⟩ := writeWith_eq_cons v
  rw [hct, List.cons_append, value, skipBlank_cons (by decide)]
  simp only
  rw [skipBlank_cons hc.noBlank]
  split
  · simp_all
  · rename_i heq
    exact absurd (List.cons.inj heq).1 hc.noBracket
  · rw [toOption_bind]
    congr 1
    funext p
    rw [toOption_bind, Option.map_eq_bind]
    rfl

theorem itemsRest_cons (v : Json) :
    (itemsRest (fuel + 1) depth (',' :: (writeWith Number.chars v ++ s))).toOption =
      (value fuel depth (writeWith Number.chars v ++ s)).toOption.bind fun (w, r) =>
        (itemsRest fuel depth r).toOption.map fun (ws, r) => (w :: ws, r) := by
  obtain ⟨c, t, hct, hc⟩ := writeWith_eq_cons v
  rw [hct, List.cons_append, itemsRest, skipBlank_cons (by decide)]
  simp only
  rw [skipBlank_cons hc.noBlank]
  split
  · simp_all
  · rename_i heq
    exact absurd (List.cons.inj heq).1 hc.noBracket
  · rw [toOption_bind]
    congr 1
    funext p
    rw [toOption_bind, Option.map_eq_bind]
    rfl

theorem field_quoted (n : String) (fuel depth : Nat) (s : List Char) :
    (field (fuel + 1) depth (quoteChars n ++ ':' :: s)).toOption =
      (value fuel depth s).toOption.map fun (v, r) => ((n, v), r) := by
  rw [quoteChars, List.cons_append, List.append_assoc, field]
  simp only [List.singleton_append, stringRest_escaped, bind, Except.bind]
  rw [skipBlank_cons (by decide)]
  simp only [String.ofList_toList]
  cases value fuel depth s <;> rfl

/-- An object is read field by field. -/
theorem value_object (n : String) :
    (value (fuel + 2) (depth + 1) ('{' :: (quoteChars n ++ ':' :: s))).toOption =
      (value fuel depth s).toOption.bind fun (v, r) =>
        (fieldsRest (fuel + 1) depth r).toOption.map fun (fs, r) =>
          (.object (Fields.ofList ((n, v) :: fs)), r) := by
  have hfield := field_quoted n fuel depth s
  rw [quoteChars, List.cons_append] at hfield ⊢
  rw [value, skipBlank_cons (by decide)]
  simp only
  rw [skipBlank_cons (by decide)]
  split
  · simp_all
  · rename_i heq
    exact absurd (List.cons.inj heq).1 (by decide)
  · rw [toOption_bind, hfield, Option.bind_map]
    congr 1
    funext p
    rw [Function.comp_apply, toOption_bind, Option.map_eq_bind]
    rfl

theorem fieldsRest_cons (n : String) :
    (fieldsRest (fuel + 2) depth (',' :: (quoteChars n ++ ':' :: s))).toOption =
      (value fuel depth s).toOption.bind fun (v, r) =>
        (fieldsRest (fuel + 1) depth r).toOption.map fun (fs, r) => ((n, v) :: fs, r) := by
  have hfield := field_quoted n fuel depth s
  rw [quoteChars, List.cons_append] at hfield ⊢
  rw [fieldsRest, skipBlank_cons (by decide)]
  simp only
  rw [skipBlank_cons (by decide)]
  split
  · simp_all
  · rename_i heq
    exact absurd (List.cons.inj heq).1 (by decide)
  · rw [toOption_bind, hfield, Option.bind_map]
    congr 1
    funext p
    rw [Function.comp_apply, toOption_bind, Option.map_eq_bind]
    rfl

mutual

/-- The reader makes of the text of a value what is reread, and leaves what follows. The text is
    long enough to be its own fuel. -/
theorem value_write : ∀ (v : Json) (fuel depth : Nat) (r : List Char),
    (writeWith Number.chars v).length ≤ fuel → Closing r →
    (value fuel depth (writeWith Number.chars v ++ r)).toOption =
      (reread depth v).map fun v => (v, r)
  | .null, fuel, depth, r, hf, _ => by
    obtain ⟨fuel, rfl⟩ := Nat.exists_eq_succ_of_ne_zero (n := fuel) (by rintro rfl; cases hf)
    simp [writeWith, value, skipBlank_cons, isBlank, literalRest, reread, Except.map,
      Except.toOption]
  | .bool true, fuel, depth, r, hf, _ => by
    obtain ⟨fuel, rfl⟩ := Nat.exists_eq_succ_of_ne_zero (n := fuel) (by rintro rfl; cases hf)
    simp [writeWith, value, skipBlank_cons, isBlank, literalRest, reread, Except.map,
      Except.toOption]
  | .bool false, fuel, depth, r, hf, _ => by
    obtain ⟨fuel, rfl⟩ := Nat.exists_eq_succ_of_ne_zero (n := fuel) (by rintro rfl; cases hf)
    simp [writeWith, value, skipBlank_cons, isBlank, literalRest, reread, Except.map,
      Except.toOption]
  | .number n, fuel, depth, r, hf, hr => by
    rw [writeWith] at hf ⊢
    obtain ⟨c, t, hct, _⟩ := n.chars_eq_cons
    rw [hct, List.length_cons] at hf
    rw [value_number n (by omega) hr, reread]
  | .string s, fuel, depth, r, hf, _ => by
    obtain ⟨fuel, rfl⟩ := Nat.exists_eq_succ_of_ne_zero (n := fuel) (by rintro rfl; cases hf)
    rw [writeWith, quoteChars, List.cons_append, List.append_assoc, value,
      skipBlank_cons (by decide)]
    simp only [List.singleton_append, stringRest_escaped, bind, Except.bind, String.ofList_toList]
    simp [reread, Except.toOption]
  -- Where no more containers may be opened the bracket alone is a fault.
  | .array items, fuel, 0, r, hf, _ => by
    obtain ⟨fuel, rfl⟩ := Nat.exists_eq_succ_of_ne_zero (n := fuel) (by rintro rfl; cases hf)
    simp [writeWith, value, skipBlank_cons, isBlank, failOn, reread, Except.toOption]
  | .array [], fuel, depth + 1, r, hf, _ => by
    obtain ⟨fuel, rfl⟩ := Nat.exists_eq_succ_of_ne_zero (n := fuel) (by rintro rfl; cases hf)
    simp [writeWith, writeItems, value, skipBlank_cons, isBlank, reread, rereadItems,
      Except.toOption]
  -- Each call takes one step of fuel and leaves a text which is shorter by a character at least.
  | .array (v :: rest), fuel, depth + 1, r, hf, _ => by
    rw [writeWith, writeItems_cons, List.length_cons, List.length_append] at hf
    obtain ⟨fuel, rfl⟩ := Nat.exists_eq_succ_of_ne_zero (n := fuel) (by omega)
    have hv := value_write v fuel depth (itemsTail Number.chars rest ++ r) (by omega)
      (closing_itemsTail _ _ _)
    have hrest := itemsRest_write rest fuel depth r (by omega)
    rw [writeWith, writeItems_cons, List.cons_append, List.append_assoc, value_array, hv, reread,
      rereadItems]
    cases reread depth v with
    | none => rfl
    | some w =>
      simp only [Option.map_some, Option.bind_some, hrest]
      cases rereadItems depth rest <;> rfl
  | .object fields, fuel, 0, r, hf, _ => by
    obtain ⟨fuel, rfl⟩ := Nat.exists_eq_succ_of_ne_zero (n := fuel) (by rintro rfl; cases hf)
    simp [writeWith, value, skipBlank_cons, isBlank, failOn, reread, Except.toOption]
  | .object [], fuel, depth + 1, r, hf, _ => by
    obtain ⟨fuel, rfl⟩ := Nat.exists_eq_succ_of_ne_zero (n := fuel) (by rintro rfl; cases hf)
    simp [writeWith, writeFields, value, skipBlank_cons, isBlank, reread, rereadFields,
      Except.toOption, Fields.ofList]
  | .object ((n, v) :: rest), fuel, depth + 1, r, hf, _ => by
    rw [writeWith, writeFields_cons, List.length_cons, List.length_append, List.length_cons,
      List.length_append] at hf
    have hquote : 0 < (quoteChars n).length := by simp [quoteChars]
    obtain ⟨fuel, rfl⟩ : ∃ k, fuel = k + 2 := ⟨fuel - 2, by omega⟩
    have hv := value_write v fuel depth (fieldsTail Number.chars rest ++ r) (by omega)
      (closing_fieldsTail _ _ _)
    have hrest := fieldsRest_write rest (fuel + 1) depth r (by omega)
    rw [writeWith, writeFields_cons, List.cons_append, List.append_assoc, List.cons_append,
      List.append_assoc, value_object, hv, reread, rereadFields]
    cases reread depth v with
    | none => rfl
    | some w =>
      simp only [Option.map_some, Option.bind_some, hrest]
      cases rereadFields depth rest <;> rfl

theorem itemsRest_write : ∀ (items : List Json) (fuel depth : Nat) (r : List Char),
    (itemsTail Number.chars items).length ≤ fuel →
    (itemsRest fuel depth (itemsTail Number.chars items ++ r)).toOption =
      (rereadItems depth items).map fun vs => (vs, r)
  | [], fuel, depth, r, hf => by
    obtain ⟨fuel, rfl⟩ := Nat.exists_eq_succ_of_ne_zero (n := fuel) (by rintro rfl; cases hf)
    simp [itemsTail, itemsRest, skipBlank_cons, isBlank, rereadItems, Except.toOption]
  | v :: rest, fuel, depth, r, hf => by
    rw [itemsTail, List.length_cons, List.length_append] at hf
    obtain ⟨fuel, rfl⟩ := Nat.exists_eq_succ_of_ne_zero (n := fuel) (by omega)
    have hv := value_write v fuel depth (itemsTail Number.chars rest ++ r) (by omega)
      (closing_itemsTail _ _ _)
    have hrest := itemsRest_write rest fuel depth r (by omega)
    rw [itemsTail, List.cons_append, List.append_assoc, itemsRest_cons, hv, rereadItems]
    cases reread depth v with
    | none => rfl
    | some w =>
      simp only [Option.map_some, Option.bind_some, hrest]
      cases rereadItems depth rest <;> rfl

theorem fieldsRest_write : ∀ (fields : List (String × Json)) (fuel depth : Nat) (r : List Char),
    (fieldsTail Number.chars fields).length ≤ fuel →
    (fieldsRest fuel depth (fieldsTail Number.chars fields ++ r)).toOption =
      (rereadFields depth fields).map fun fs => (fs, r)
  | [], fuel, depth, r, hf => by
    obtain ⟨fuel, rfl⟩ := Nat.exists_eq_succ_of_ne_zero (n := fuel) (by rintro rfl; cases hf)
    simp [fieldsTail, fieldsRest, skipBlank_cons, isBlank, rereadFields, Except.toOption]
  | (n, v) :: rest, fuel, depth, r, hf => by
    rw [fieldsTail, List.length_cons, List.length_append, List.length_cons, List.length_append]
      at hf
    have hquote : 0 < (quoteChars n).length := by simp [quoteChars]
    obtain ⟨fuel, rfl⟩ : ∃ k, fuel = k + 2 := ⟨fuel - 2, by omega⟩
    have hv := value_write v fuel depth (fieldsTail Number.chars rest ++ r) (by omega)
      (closing_fieldsTail _ _ _)
    have hrest := fieldsRest_write rest (fuel + 1) depth r (by omega)
    rw [fieldsTail, List.cons_append, List.append_assoc, List.cons_append, List.append_assoc,
      fieldsRest_cons, hv, rereadFields]
    cases reread depth v with
    | none => rfl
    | some w =>
      simp only [Option.map_some, Option.bind_some, hrest]
      cases rereadFields depth rest <;> rfl

end

end Reader

/-- What is read of the compact text of a value. -/
theorem read?_compact (v : Json) : read? v.compact = reread maxDepth v := by
  have hlength : (writeWith Number.chars v).length ≤ 2 * v.compact.toList.length + 1 := by
    rw [compact, String.toList_ofList]
    omega
  have hvalue := Reader.value_write v _ maxDepth [] hlength Reader.closing_nil
  rw [List.append_nil] at hvalue
  rw [read?, read]
  simp only [compact, String.toList_ofList] at hvalue ⊢
  cases hread : reread maxDepth v with
  | none =>
    rw [hread] at hvalue
    cases hres : Reader.value (2 * (writeWith Number.chars v).length + 1) maxDepth
        (writeWith Number.chars v) with
    | error e => rfl
    | ok p => rw [hres] at hvalue; cases hvalue
  | some w =>
    rw [hread] at hvalue
    cases hres : Reader.value (2 * (writeWith Number.chars v).length + 1) maxDepth
        (writeWith Number.chars v) with
    | error e => rw [hres] at hvalue; cases hvalue
    | ok p =>
      rw [hres] at hvalue
      obtain rfl := Option.some.inj hvalue
      rfl

/-! ### Numbers -/

namespace Reader

/-- All digits are taken while the number fits 64 bits. -/
theorem takeDigits_eq {digits : List Char} {acc : Nat}
    (h : Nat.ofDigitChars 10 digits acc ≤ 0xffffffffffffffff) :
    takeDigits acc digits = (Nat.ofDigitChars 10 digits acc, digits.length, 0) := by
  induction digits generalizing acc with
  | nil => simp [takeDigits]
  | cons c rest ih =>
    rw [Nat.ofDigitChars_cons, mul_comm] at h ⊢
    have hnext : acc * 10 + (c.toNat - '0'.toNat) ≤ 0xffffffffffffffff := by
      refine le_trans ?_ h
      rw [Nat.ofDigitChars_eq_ofDigitChars_zero]
      exact le_trans (Nat.le_mul_of_pos_left _ (by positivity)) (Nat.le_add_right _ _)
    rw [takeDigits]
    simp only [if_pos hnext, ih h, List.length_cons]

end Reader

end Json

open Json (numbers mapNumbers)

namespace Number

/-- A whole number is read as it was written. -/
@[simp]
theorem number?_whole (w : Whole) : (Number.whole w).numeral.number? = some (.whole w) := by
  obtain ⟨val, inRange⟩ := w
  have habs : val.natAbs ≤ 0xffffffffffffffff := by omega
  have htake : Json.Reader.takeDigits 0 (Nat.toDigits 10 val.natAbs) =
      (val.natAbs, (Nat.toDigits 10 val.natAbs).length, 0) := by
    rw [Json.Reader.takeDigits_eq (by rwa [Nat.ofDigitChars_ten_toDigits]),
      Nat.ofDigitChars_ten_toDigits]
  rw [numeral, Json.Reader.Numeral.number?]
  simp only [htake]
  by_cases hneg : val < 0
  · have hval : -(val.natAbs : Int) = val := by omega
    have hbounds : 0 < val.natAbs ∧ val.natAbs ≤ 0x8000000000000000 := by omega
    simp only [hneg, decide_true, List.isEmpty_nil, Option.isNone_none, Bool.and_self, if_true,
      ne_eq, not_true, if_false, hbounds, and_self, hval, Whole.ofInt?, inRange, dite_true,
      Option.map_some]
  · have hval : (val.natAbs : Int) = val := by omega
    simp only [hneg, decide_false, List.isEmpty_nil, Option.isNone_none, Bool.and_self, if_true,
      ne_eq, not_true, if_false, Bool.false_eq_true, hval, Whole.ofInt?, inRange, and_self,
      dite_true, Option.map_some]

/-- What a number is read as. -/
def reread (n : Number) : Number := n.numeral.number?.getD n

end Number

/-- The text of a double is read as the same double. -/
def Double.ReadsBack (d : Double) : Prop := Json.read? d.text = some (.number (.float d))

theorem Double.readsBack_iff {d : Double} :
    d.ReadsBack ↔ d.numeral.number? = some (.float d) := by
  have hread := Json.read?_compact (.number (.float d))
  rw [Json.reread] at hread
  rw [ReadsBack, show d.text = Json.compact (.number (.float d)) from rfl, hread]
  simp [Number.numeral]

instance (d : Double) : Decidable d.ReadsBack := decidable_of_iff _ Double.readsBack_iff.symm

namespace Number

/-- A number in canonical form comes back, up to canonical form, if it is no double which does not
    read back. -/
theorem canonical_reread_canonical {n : Number}
    (hread : n.canonical.numeral.number?.isSome) :
    n.canonical.reread.canonical = n.canonical ↔
      ∀ d, n.canonical = .float d → d.ReadsBack := by
  cases hn : n.canonical with
  | whole w => simp [reread, number?_whole, canonical]
  | float d =>
    rw [hn] at hread
    obtain ⟨m, hm⟩ := Option.isSome_iff_exists.1 hread
    have hback : d.ReadsBack ↔ m = .float d := by
      rw [Double.readsBack_iff, show d.numeral.number? = some m from hm, Option.some.injEq]
    have hself : (Number.float d).canonical = .float d := by rw [← hn, canonical_canonical]
    rw [reread, hm, Option.getD_some]
    constructor
    · rintro hcanonical e he
      cases he
      exact hback.2 (canonical_eq_float hcanonical)
    · intro hall
      rw [hback.1 (hall d rfl), hself]

end Number

namespace Json

mutual

/-- A value which is not too deep is read as it was written if its numbers are. -/
theorem reread_eq_self : ∀ {depth : Nat} {v : Json}, v.depth ≤ depth → Ordered v →
    (∀ n ∈ numbers v, n.numeral.number? = some n) → reread depth v = some v
  | depth, .null, _, _, _ => by simp [reread]
  | depth, .bool b, _, _, _ => by simp [reread]
  | depth, .string s, _, _, _ => by simp [reread]
  | depth, .number n, _, _, hn => by simp [reread, hn n (by simp [numbers])]
  | 0, .array items, hd, _, _ => by cases hd
  | depth + 1, .array items, hd, ho, hn => by
    rw [reread, rereadItems_eq_self (Nat.le_of_succ_le_succ hd) ho hn, Option.map_some]
  | 0, .object fields, hd, _, _ => by cases hd
  | depth + 1, .object fields, hd, ho, hn => by
    rw [reread, rereadFields_eq_self (Nat.le_of_succ_le_succ hd) ho.2 hn, Option.map_some,
      Fields.ofList_eq_self ho.1]

theorem rereadItems_eq_self : ∀ {depth : Nat} {items : List Json}, depthItems items ≤ depth →
    OrderedItems items → (∀ n ∈ itemNumbers items, n.numeral.number? = some n) →
    rereadItems depth items = some items
  | depth, [], _, _, _ => by simp [rereadItems]
  | depth, v :: rest, hd, ho, hn => by
    rw [depthItems, max_le_iff] at hd
    simp only [itemNumbers, List.mem_append, or_imp, forall_and] at hn
    rw [rereadItems, reread_eq_self hd.1 ho.1 hn.1, rereadItems_eq_self hd.2 ho.2 hn.2]
    rfl

theorem rereadFields_eq_self : ∀ {depth : Nat} {fields : List (String × Json)},
    depthFields fields ≤ depth → OrderedFields fields →
    (∀ n ∈ fieldNumbers fields, n.numeral.number? = some n) →
    rereadFields depth fields = some fields
  | depth, [], _, _, _ => by simp [rereadFields]
  | depth, (n, v) :: rest, hd, ho, hn => by
    rw [depthFields, max_le_iff] at hd
    simp only [fieldNumbers, List.mem_append, or_imp, forall_and] at hn
    rw [rereadFields, reread_eq_self hd.1 ho.1 hn.1, rereadFields_eq_self hd.2 ho.2 hn.2]
    rfl

end

mutual

/-- What is read differs from what was written in numbers only. -/
theorem eq_mapNumbers_of_reread : ∀ {depth : Nat} {v w : Json}, Ordered v →
    reread depth v = some w →
    (∀ n ∈ numbers v, n.numeral.number?.isSome) ∧ w = mapNumbers Number.reread v
  | depth, .null, w, _, h => by simp_all [reread, numbers, mapNumbers]
  | depth, .bool b, w, _, h => by simp_all [reread, numbers, mapNumbers]
  | depth, .string s, w, _, h => by simp_all [reread, numbers, mapNumbers]
  | depth, .number n, w, _, h => by
    rw [reread, Option.map_eq_some_iff] at h
    obtain ⟨m, hm, rfl⟩ := h
    simp [numbers, mapNumbers, Number.reread, hm]
  | 0, .array items, w, _, h => by cases h
  | depth + 1, .array items, w, ho, h => by
    rw [reread, Option.map_eq_some_iff] at h
    obtain ⟨items', hitems, rfl⟩ := h
    obtain ⟨hnumbers, rfl⟩ := eq_mapItems_of_rereadItems ho hitems
    exact ⟨hnumbers, rfl⟩
  | 0, .object fields, w, _, h => by cases h
  | depth + 1, .object fields, w, ho, h => by
    rw [reread, Option.map_eq_some_iff] at h
    obtain ⟨fields', hfields, rfl⟩ := h
    obtain ⟨hnumbers, rfl⟩ := eq_mapFields_of_rereadFields ho.2 hfields
    refine ⟨hnumbers, ?_⟩
    -- The fields were in order before, so putting them together again moves none of them.
    rw [← mapFields_ofList, Fields.ofList_eq_self ho.1, mapNumbers]

theorem eq_mapItems_of_rereadItems : ∀ {depth : Nat} {items items' : List Json},
    OrderedItems items → rereadItems depth items = some items' →
    (∀ n ∈ itemNumbers items, n.numeral.number?.isSome) ∧ items' = mapItems Number.reread items
  | depth, [], items', _, h => by simp_all [rereadItems, itemNumbers, mapItems]
  | depth, v :: rest, items', ho, h => by
    rw [rereadItems, Option.bind_eq_some_iff] at h
    obtain ⟨v', hv, h⟩ := h
    obtain ⟨rest', hrest, rfl⟩ := Option.map_eq_some_iff.1 h
    obtain ⟨hnumbers, rfl⟩ := eq_mapNumbers_of_reread ho.1 hv
    obtain ⟨hnumbers', rfl⟩ := eq_mapItems_of_rereadItems ho.2 hrest
    refine ⟨fun n hn => ?_, rfl⟩
    rcases List.mem_append.1 hn with hn | hn
    · exact hnumbers n hn
    · exact hnumbers' n hn

theorem eq_mapFields_of_rereadFields : ∀ {depth : Nat} {fields fields' : List (String × Json)},
    OrderedFields fields → rereadFields depth fields = some fields' →
    (∀ n ∈ fieldNumbers fields, n.numeral.number?.isSome) ∧
      fields' = mapFields Number.reread fields
  | depth, [], fields', _, h => by simp_all [rereadFields, fieldNumbers, mapFields]
  | depth, (n, v) :: rest, fields', ho, h => by
    rw [rereadFields, Option.bind_eq_some_iff] at h
    obtain ⟨v', hv, h⟩ := h
    obtain ⟨rest', hrest, rfl⟩ := Option.map_eq_some_iff.1 h
    obtain ⟨hnumbers, rfl⟩ := eq_mapNumbers_of_reread ho.1 hv
    obtain ⟨hnumbers', rfl⟩ := eq_mapFields_of_rereadFields ho.2 hrest
    refine ⟨fun n hn => ?_, rfl⟩
    rcases List.mem_append.1 hn with hn | hn
    · exact hnumbers n hn
    · exact hnumbers' n hn

end

/-! ### Canonical text -/

mutual

theorem depth_mapNumbers (f : Number → Number) : ∀ v : Json, (mapNumbers f v).depth = v.depth
  | .null | .bool _ | .string _ | .number _ => rfl
  | .array items => by rw [mapNumbers, depth, depth, depthItems_mapItems f items]
  | .object fields => by rw [mapNumbers, depth, depth, depthFields_mapFields f fields]

theorem depthItems_mapItems (f : Number → Number) : ∀ items : List Json,
    depthItems (mapItems f items) = depthItems items
  | [] => rfl
  | v :: rest => by
    rw [mapItems, depthItems, depthItems, depth_mapNumbers f v, depthItems_mapItems f rest]

theorem depthFields_mapFields (f : Number → Number) : ∀ fields : List (String × Json),
    depthFields (mapFields f fields) = depthFields fields
  | [] => rfl
  | (_, v) :: rest => by
    rw [mapFields, depthFields, depthFields, depth_mapNumbers f v, depthFields_mapFields f rest]

end

/-- The doubles which are written as such in the canonical text of a value read back. -/
def ReadsBack (v : Json) : Prop := ∀ d, Number.float d ∈ numbers v.canonical → d.ReadsBack

theorem canonicalText_eq_iff {v w : Json} :
    v.canonicalText = w.canonicalText ↔ v.canonical = w.canonical := by
  rw [canonicalText_eq, canonicalText_eq, compact_injective.eq_iff]

theorem read?_canonicalText (v : Json) : read? v.canonicalText = reread maxDepth v.canonical := by
  rw [canonicalText_eq, read?_compact]

/-- Canonical text is read as the canonical form. -/
theorem read?_canonicalText_of_readsBack {v : Json} (ho : Ordered v) (hd : v.depth ≤ maxDepth)
    (hback : v.ReadsBack) : read? v.canonicalText = some v.canonical := by
  have hd' : v.canonical.depth ≤ maxDepth := by rwa [canonical_eq, depth_mapNumbers]
  have ho' : Ordered v.canonical := by rwa [canonical_eq, ordered_mapNumbers]
  rw [read?_canonicalText]
  refine reread_eq_self hd' ho' fun n hn => ?_
  cases n with
  | whole w => exact Number.number?_whole w
  | float d => exact Double.readsBack_iff.1 (hback d hn)

/-- What is read of a canonical text has the same canonical text exactly if its doubles read
    back. -/
theorem canonicalText_of_read? {v w : Json} (ho : Ordered v)
    (hread : read? v.canonicalText = some w) :
    w = mapNumbers (Number.reread ∘ Number.canonical) v ∧
      (w.canonicalText = v.canonicalText ↔ v.ReadsBack) := by
  have ho' : Ordered v.canonical := by rwa [canonical_eq, ordered_mapNumbers]
  rw [read?_canonicalText] at hread
  obtain ⟨hnumbers, rfl⟩ := eq_mapNumbers_of_reread ho' hread
  rw [canonical_eq, numbers_mapNumbers, List.forall_mem_map] at hnumbers
  refine ⟨by rw [canonical_eq, mapNumbers_mapNumbers], ?_⟩
  -- Equal texts come down to equal canonical numbers, one by one.
  rw [canonicalText_eq_iff, canonical_eq v, mapNumbers_mapNumbers, canonical_eq,
    mapNumbers_mapNumbers, mapNumbers_eq_iff, ReadsBack, canonical_eq, numbers_mapNumbers]
  constructor
  · intro h d hd
    obtain ⟨n, hn, hnd⟩ := List.mem_map.1 hd
    exact (Number.canonical_reread_canonical (hnumbers n hn)).1 (h n hn) d hnd
  · intro h n hn
    exact (Number.canonical_reread_canonical (hnumbers n hn)).2 fun d hd =>
      h d (List.mem_map.2 ⟨n, hn, hd⟩)

end Json

end EntityGraph
