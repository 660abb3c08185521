import Mathlib
import EntityGraph.Proofs.Number.Numeral

/-!
# Compact text

The compact text of a value tells where it ends and which value it is, whatever follows
(`Json.eq_of_writeWith_append_eq`), so values with the same compact text are the same
(`Json.compact_injective`). The first character tells the kind of the value (`Json.Leads`). A
string ends at the first quote which is not escaped, an array or an object where no comma follows,
and a number where a character follows which can not continue it.
-/

namespace EntityGraph

namespace Json

/-! ### Texts with something behind them -/

section Tails

variable (num : Number → List Char)

/-- The items behind the first one, and the closing bracket. -/
def itemsTail : List Json → List Char
  | [] => [']']
  | v :: rest => ',' :: (writeWith num v ++ itemsTail rest)

/-- The fields behind the first one, and the closing brace. -/
def fieldsTail : List (String × Json) → List Char
  | [] => ['}']
  | (n, v) :: rest => ',' :: (quoteChars n ++ ':' :: (writeWith num v ++ fieldsTail rest))

theorem writeItems_cons (v : Json) (rest : List Json) :
    writeItems num (v :: rest) = writeWith num v ++ itemsTail num rest := by
  induction rest generalizing v with
  | nil => rfl
  | cons w rest ih => rw [writeItems, ih, itemsTail]; simp

theorem writeFields_cons (n : String) (v : Json) (rest : List (String × Json)) :
    writeFields num ((n, v) :: rest) =
      quoteChars n ++ ':' :: (writeWith num v ++ fieldsTail num rest) := by
  induction rest generalizing n v with
  | nil => rfl
  | cons f rest ih =>
    obtain ⟨m, w⟩ := f
    rw [writeFields, ih, fieldsTail]
    simp

end Tails

/-! ### First characters -/

/-- What a value looks like from its first character. -/
inductive Form where
  | null
  | yes
  | no
  | number
  | string
  | array
  | object
deriving DecidableEq

def form : Json → Form
  | .null => .null
  | .bool true => .yes
  | .bool false => .no
  | .number _ => .number
  | .string _ => .string
  | .array _ => .array
  | .object _ => .object

/-- The form of the values which begin with a character. -/
def Form.ofChar : Char → Form
  | 'n' => .null
  | 't' => .yes
  | 'f' => .no
  | '"' => .string
  | '[' => .array
  | '{' => .object
  | _ => .number

/-- The character is one a value of this form begins with: neither white space nor a closing
    bracket. -/
structure Leads (form : Form) (c : Char) : Prop where
  form : Form.ofChar c = form
  noBlank : Reader.isBlank c = false
  noBracket : c ≠ ']'
  noBrace : c ≠ '}'

theorem leads_number {c : Char} (hc : c = '-' ∨ c.isDigit) : Leads .number c := by
  rcases hc with rfl | hc
  · exact ⟨rfl, by decide, by decide, by decide⟩
  · have hne : ∀ d : Char, d.isDigit = false → c ≠ d := by
      rintro d hd rfl
      exact absurd hc (by simp [hd])
    refine ⟨?_, ?_, hne _ (by decide), hne _ (by decide)⟩
    · unfold Form.ofChar
      split <;> first | rfl | exact absurd rfl (hne _ (by decide))
    · simp only [Reader.isBlank, Bool.or_eq_false_iff, beq_eq_false_iff_ne]
      exact ⟨⟨⟨hne _ (by decide), hne _ (by decide)⟩, hne _ (by decide)⟩, hne _ (by decide)⟩

end Json

theorem Number.chars_eq_cons (n : Number) :
    ∃ c r, n.chars = c :: r ∧ (c = '-' ∨ c.isDigit) := by
  rw [chars_eq, Json.Reader.Numeral.chars]
  split_ifs
  · exact ⟨_, _, rfl, .inl rfl⟩
  · obtain ⟨c, r, hbody, hdigit⟩ := n.numeral_wellFormed.body_eq_cons
    exact ⟨c, r, hbody, .inr hdigit⟩

namespace Json

/-- The first character of a value tells its form. -/
theorem writeWith_eq_cons (v : Json) :
    ∃ c r, writeWith Number.chars v = c :: r ∧ Leads v.form c := by
  cases v with
  | null => exact ⟨_, _, rfl, rfl, by decide, by decide, by decide⟩
  | bool b =>
    cases b with
    | true => exact ⟨_, _, rfl, rfl, by decide, by decide, by decide⟩
    | false => exact ⟨_, _, rfl, rfl, by decide, by decide, by decide⟩
  | number n =>
    obtain ⟨c, r, hcr, hc⟩ := n.chars_eq_cons
    exact ⟨c, r, by rw [writeWith, hcr], leads_number hc⟩
  | string s =>
    exact ⟨_, _, by rw [writeWith, quoteChars], rfl, by decide, by decide, by decide⟩
  | array items => exact ⟨_, _, by rw [writeWith], rfl, by decide, by decide, by decide⟩
  | object fields => exact ⟨_, _, by rw [writeWith], rfl, by decide, by decide, by decide⟩

theorem form_eq {v w : Json} {r s : List Char}
    (h : writeWith Number.chars v ++ r = writeWith Number.chars w ++ s) : v.form = w.form := by
  obtain ⟨c, t, hv, hc⟩ := writeWith_eq_cons v
  obtain ⟨d, u, hw, hd⟩ := writeWith_eq_cons w
  rw [hv, hw] at h
  rw [← hc.form, ← hd.form, (List.cons.inj h).1]

/-! ### Strings -/

namespace Reader

theorem hexValue?_digitChar : ∀ n < 16, hexValue? (Nat.digitChar n) = some n := by decide

/-- The number of a control character, as it is escaped. -/
theorem hex4?_control {n : Nat} (h : n < 0x20) :
    hex4? '0' '0' (Nat.digitChar (n / 16)) (Nat.digitChar (n % 16)) = some n := by
  have hzero : hexValue? '0' = some 0 := by decide
  simp only [hex4?, hzero, hexValue?_digitChar (n / 16) (by omega),
    hexValue?_digitChar (n % 16) (by omega), Option.bind_eq_bind, Option.bind_some,
    Option.pure_def, Option.some.injEq]
  omega

theorem stringRest_escapeChar (c : Char) (s : List Char) :
    stringRest (escapeChar c ++ s) = (stringRest s).map fun (cs, r) => (c :: cs, r) := by
  unfold escapeChar
  split
  · simp [stringRest, simpleEscape?]
  · simp [stringRest, simpleEscape?]
  · simp [stringRest, simpleEscape?]
  · simp [stringRest, simpleEscape?]
  · simp [stringRest, simpleEscape?]
  · simp [stringRest, simpleEscape?]
  · simp [stringRest, simpleEscape?]
  · split_ifs with hcontrol
    · have hsmall : c.toNat < 0xD800 ∨ 0xDFFF < c.toNat := .inl (by omega)
      simp only [List.cons_append, List.nil_append, stringRest, hex4?_control hcontrol,
        if_pos hsmall, Char.ofNat_toNat]
    · rw [List.singleton_append, stringRest.eq_def]
      split <;> simp_all

/-- The characters of a string come back, up to the closing quote. -/
theorem stringRest_escaped (s rest : List Char) :
    stringRest (s.flatMap escapeChar ++ '"' :: rest) = .ok (s, rest) := by
  induction s with
  | nil => rfl
  | cons c s ih =>
    rw [List.flatMap_cons, List.append_assoc, stringRest_escapeChar, ih]
    rfl

end Reader

/-- A string tells where it ends. -/
theorem eq_of_quoteChars_append_eq {s t : String} {r r' : List Char}
    (h : quoteChars s ++ r = quoteChars t ++ r') : s = t ∧ r = r' := by
  simp only [quoteChars, List.cons_append, List.append_assoc, List.nil_append,
    List.cons.injEq, true_and] at h
  have hread := Reader.stringRest_escaped s.toList r
  rw [h, Reader.stringRest_escaped] at hread
  obtain ⟨hlist, hrest⟩ := Prod.mk.inj (Except.ok.inj hread)
  exact ⟨(String.toList_injective hlist).symm, hrest.symm⟩

/-! ### Unique readability -/

open Reader (Closing closing_cons closing_nil)

theorem closing_itemsTail (num : Number → List Char) (items : List Json) (r : List Char) :
    Closing (itemsTail num items ++ r) := by
  cases items with
  | nil => exact closing_cons (by decide) r
  | cons v rest => exact closing_cons (by decide) _

theorem closing_fieldsTail (num : Number → List Char) (fields : List (String × Json))
    (r : List Char) : Closing (fieldsTail num fields ++ r) := by
  cases fields with
  | nil => exact closing_cons (by decide) r
  | cons f rest => exact closing_cons (by decide) _

/-- The items of an array are not closed before the first one. -/
theorem bracket_ne_writeItems {v : Json} {rest : List Json} {r s : List Char} :
    ']' :: r ≠ writeItems Number.chars (v :: rest) ++ s := by
  obtain ⟨c, t, hv, hc⟩ := writeWith_eq_cons v
  rw [writeItems_cons, hv]
  intro h
  exact hc.noBracket (List.cons.inj h).1.symm

theorem brace_ne_writeFields {f : String × Json} {rest : List (String × Json)}
    {r s : List Char} : '}' :: r ≠ writeFields Number.chars (f :: rest) ++ s := by
  rw [writeFields_cons, quoteChars]
  intro h
  exact absurd (List.cons.inj h).1 (by decide)

mutual

/-- The text of a value tells the value and where it ends. -/
theorem eq_of_writeWith_append_eq : ∀ {v w : Json} {r s : List Char}, Closing r → Closing s →
    writeWith Number.chars v ++ r = writeWith Number.chars w ++ s → v = w ∧ r = s
  -- The first character tells the form of `w`, so in each case one constructor is left for it.
  | .null, w, r, s, _, _, h => by
    cases w with
    | null => exact ⟨rfl, List.append_cancel_left h⟩
    | bool b => cases b <;> cases form_eq h
    | _ => cases form_eq h
  | .bool b, w, r, s, _, _, h => by
    cases w with
    | bool b' =>
      cases b <;> cases b'
      · exact ⟨rfl, List.append_cancel_left h⟩
      · cases form_eq h
      · cases form_eq h
      · exact ⟨rfl, List.append_cancel_left h⟩
    | _ => cases b <;> cases form_eq h
  | .number n, w, r, s, hr, hs, h => by
    cases w with
    | number m =>
      rw [writeWith, writeWith] at h
      obtain ⟨rfl, rfl⟩ := Number.eq_of_chars_append_eq hr hs h
      exact ⟨rfl, rfl⟩
    | bool b => cases b <;> cases form_eq h
    | _ => cases form_eq h
  | .string x, w, r, s, _, _, h => by
    cases w with
    | string y =>
      rw [writeWith, writeWith] at h
      obtain ⟨rfl, rfl⟩ := eq_of_quoteChars_append_eq h
      exact ⟨rfl, rfl⟩
    | bool b => cases b <;> cases form_eq h
    | _ => cases form_eq h
  | .array items, w, r, s, _, _, h => by
    cases w with
    | array items' =>
      rw [writeWith, writeWith] at h
      obtain ⟨rfl, rfl⟩ := eq_of_writeItems_append_eq (List.cons.inj h).2
      exact ⟨rfl, rfl⟩
    | bool b => cases b <;> cases form_eq h
    | _ => cases form_eq h
  | .object fields, w, r, s, _, _, h => by
    cases w with
    | object fields' =>
      rw [writeWith, writeWith] at h
      obtain ⟨rfl, rfl⟩ := eq_of_writeFields_append_eq (List.cons.inj h).2
      exact ⟨rfl, rfl⟩
    | bool b => cases b <;> cases form_eq h
    | _ => cases form_eq h

theorem eq_of_writeItems_append_eq : ∀ {items items' : List Json} {r s : List Char},
    writeItems Number.chars items ++ r = writeItems Number.chars items' ++ s →
    items = items' ∧ r = s
  | [], [], _, _, h => ⟨rfl, (List.cons.inj h).2⟩
  | [], _ :: _, _, _, h => absurd h bracket_ne_writeItems
  | _ :: _, [], _, _, h => absurd h.symm bracket_ne_writeItems
  | v :: rest, w :: rest', r, s, h => by
    rw [writeItems_cons, writeItems_cons, List.append_assoc, List.append_assoc] at h
    obtain ⟨rfl, hrest⟩ := eq_of_writeWith_append_eq (closing_itemsTail _ rest r)
      (closing_itemsTail _ rest' s) h
    obtain ⟨rfl, rfl⟩ := eq_of_itemsTail_append_eq hrest
    exact ⟨rfl, rfl⟩

theorem eq_of_itemsTail_append_eq : ∀ {items items' : List Json} {r s : List Char},
    itemsTail Number.chars items ++ r = itemsTail Number.chars items' ++ s →
    items = items' ∧ r = s
  | [], [], _, _, h => ⟨rfl, (List.cons.inj h).2⟩
  | [], _ :: _, _, _, h => absurd (List.cons.inj h).1 (by decide)
  | _ :: _, [], _, _, h => absurd (List.cons.inj h).1 (by decide)
  | v :: rest, w :: rest', r, s, h => by
    simp only [itemsTail, List.cons_append, List.append_assoc, List.cons.injEq, true_and] at h
    obtain ⟨rfl, hrest⟩ := eq_of_writeWith_append_eq (closing_itemsTail _ rest r)
      (closing_itemsTail _ rest' s) h
    obtain ⟨rfl, rfl⟩ := eq_of_itemsTail_append_eq hrest
    exact ⟨rfl, rfl⟩

theorem eq_of_writeFields_append_eq : ∀ {fields fields' : List (String × Json)}
    {r s : List Char},
    writeFields Number.chars fields ++ r = writeFields Number.chars fields' ++ s →
    fields = fields' ∧ r = s
  | [], [], _, _, h => ⟨rfl, (List.cons.inj h).2⟩
  | [], _ :: _, _, _, h => absurd h brace_ne_writeFields
  | _ :: _, [], _, _, h => absurd h.symm brace_ne_writeFields
  | (n, v) :: rest, (m, w) :: rest', r, s, h => by
    rw [writeFields_cons, writeFields_cons] at h
    simp only [List.cons_append, List.append_assoc] at h
    obtain ⟨rfl, hvalue⟩ := eq_of_quoteChars_append_eq h
    rw [List.cons.injEq] at hvalue
    obtain ⟨rfl, hrest⟩ := eq_of_writeWith_append_eq (closing_fieldsTail _ rest r)
      (closing_fieldsTail _ rest' s) hvalue.2
    obtain ⟨rfl, rfl⟩ := eq_of_fieldsTail_append_eq hrest
    exact ⟨rfl, rfl⟩

theorem eq_of_fieldsTail_append_eq : ∀ {fields fields' : List (String × Json)}
    {r s : List Char},
    fieldsTail Number.chars fields ++ r = fieldsTail Number.chars fields' ++ s →
    fields = fields' ∧ r = s
  | [], [], _, _, h => ⟨rfl, (List.cons.inj h).2⟩
  | [], _ :: _, _, _, h => absurd (List.cons.inj h).1 (by decide)
  | _ :: _, [], _, _, h => absurd (List.cons.inj h).1 (by decide)
  | (n, v) :: rest, (m, w) :: rest', r, s, h => by
    simp only [fieldsTail, List.cons_append, List.append_assoc, List.cons.injEq, true_and] at h
    obtain ⟨rfl, hvalue⟩ := eq_of_quoteChars_append_eq h
    rw [List.cons.injEq] at hvalue
    obtain ⟨rfl, hrest⟩ := eq_of_writeWith_append_eq (closing_fieldsTail _ rest r)
      (closing_fieldsTail _ rest' s) hvalue.2
    obtain ⟨rfl, rfl⟩ := eq_of_fieldsTail_append_eq hrest
    exact ⟨rfl, rfl⟩

end

/-- Values with the same compact text are the same. -/
theorem compact_injective : Function.Injective compact := by
  intro v w h
  have hchars : writeWith Number.chars v ++ [] = writeWith Number.chars w ++ [] := by
    rw [String.ofList_injective h]
  exact (eq_of_writeWith_append_eq closing_nil closing_nil hchars).1

end Json

end EntityGraph
