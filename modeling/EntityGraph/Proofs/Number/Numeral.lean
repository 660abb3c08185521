import Mathlib
import EntityGraph.Json.Reader
import EntityGraph.Json.Text
import EntityGraph.Proofs.Number.Shortest

/-!
# Written numbers

A number is written as a *numeral*: digits, perhaps a point with more digits and an exponent. The
reader takes a numeral apart into the parts it was written with, whatever follows it, as long as
what follows can not continue a number (`numeral_body`).

* `Number.chars_eq`: the text of a number is that of its numeral, `Number.numeral`;
* `Number.eq_of_chars_append_eq`: different numbers are written differently. Whole numbers have
  neither point nor exponent, and the decimal of a double tells the double (`Double.Rounds`).
-/

namespace EntityGraph

namespace Json.Reader

/-- What can not continue a number: nothing, or what comes behind a value. -/
def Closing (s : List Char) : Prop :=
  ∀ c r, s = c :: r → c.isDigit = false ∧ c ≠ '.' ∧ c ≠ 'e' ∧ c ≠ 'E'

theorem closing_nil : Closing [] := by
  intro c r h
  cases h

theorem closing_cons {c : Char} (hc : c.isDigit = false ∧ c ≠ '.' ∧ c ≠ 'e' ∧ c ≠ 'E')
    (r : List Char) : Closing (c :: r) := by
  intro c' r' h
  cases h
  exact hc

/-- The text does not begin with a digit. -/
def NoDigit (s : List Char) : Prop := ∀ c r, s = c :: r → c.isDigit = false

theorem NoDigit.cons {c : Char} (hc : c.isDigit = false) (r : List Char) : NoDigit (c :: r) := by
  intro c' r' h
  cases h
  exact hc

theorem Closing.noDigit {s : List Char} (h : Closing s) : NoDigit s :=
  fun c r hs => (h c r hs).1

/-- A run of digits ends where none follows. -/
theorem takeWhile_digits {ds s : List Char} (hd : ∀ c ∈ ds, c.isDigit) (hs : NoDigit s) :
    (ds ++ s).takeWhile Char.isDigit = ds ∧ (ds ++ s).dropWhile Char.isDigit = s := by
  rw [List.takeWhile_append_of_pos hd, List.dropWhile_append_of_pos hd]
  cases s with
  | nil => simp
  | cons c r => simp [hs c r rfl]

/-- The digits behind a first one. -/
theorem dropWhile_digits {c : Char} {ds s : List Char} (hd : ∀ x ∈ c :: ds, x.isDigit)
    (hs : NoDigit s) : (ds ++ s).dropWhile Char.isDigit = s :=
  (takeWhile_digits (fun x hx => hd x (List.mem_cons_of_mem c hx)) hs).2

namespace Numeral

/-- The point and the digits behind it, if there are any. -/
def fractionChars : List Char → List Char
  | [] => []
  | c :: r => '.' :: c :: r

def exponentChars : Option (Bool × List Char) → List Char
  | none => []
  | some (negative, digits) => 'e' :: (if negative then '-' else '+') :: digits

/-- The characters behind the sign. -/
def body (n : Numeral) : List Char :=
  n.whole ++ (fractionChars n.fraction ++ exponentChars n.exponent)

def chars (n : Numeral) : List Char := if n.negative then '-' :: n.body else n.body

/-- The parts are such as the reader takes them: a leading zero stands alone, and behind an `e`
    there are digits. -/
structure WellFormed (n : Numeral) : Prop where
  wholeDigits : ∀ c ∈ n.whole, c.isDigit
  whole : n.whole = ['0'] ∨ ∃ c r, n.whole = c :: r ∧ c ≠ '0'
  fractionDigits : ∀ c ∈ n.fraction, c.isDigit
  exponentDigits : ∀ e, n.exponent = some e → e.2 ≠ [] ∧ ∀ c ∈ e.2, c.isDigit

end Numeral

theorem wholeRest_append {whole s : List Char} (hd : ∀ c ∈ whole, c.isDigit)
    (hw : whole = ['0'] ∨ ∃ c r, whole = c :: r ∧ c ≠ '0') (hs : NoDigit s) :
    wholeRest (whole ++ s) = .ok (whole, s) := by
  rcases hw with rfl | ⟨c, r, rfl, hc⟩
  · cases s with
    | nil => rfl
    | cons c r => simp [wholeRest, hs c r rfl]
  · have hrest := takeWhile_digits (s := s) hd hs
    have htail := dropWhile_digits hd hs
    rw [List.cons_append] at hrest ⊢
    have hdigit : c.isDigit := hd c List.mem_cons_self
    rw [wholeRest.eq_def]
    split
    · simp_all
    · simp_all
    · rename_i c' r' _ heq
      obtain ⟨rfl, rfl⟩ := List.cons.inj heq
      rw [if_pos hdigit, hrest.1, htail]

theorem fractionRest_append {fraction s : List Char} (hd : ∀ c ∈ fraction, c.isDigit)
    (hs : NoDigit s) (hpoint : ∀ r, s ≠ '.' :: r) :
    fractionRest (Numeral.fractionChars fraction ++ s) = .ok (fraction, s) := by
  cases fraction with
  | nil =>
    rw [Numeral.fractionChars, List.nil_append, fractionRest.eq_def]
    split
    · exact absurd rfl (hpoint _)
    · exact absurd rfl (hpoint _)
    · rfl
  | cons c r =>
    have hrest := takeWhile_digits (s := s) hd hs
    have htail := dropWhile_digits hd hs
    have hdigit : c.isDigit := hd c List.mem_cons_self
    rw [List.cons_append] at hrest
    simp only [Numeral.fractionChars, List.cons_append]
    rw [fractionRest, if_pos hdigit, hrest.1, htail]

theorem exponentDigits_append (negative : Bool) {digits s : List Char} (hne : digits ≠ [])
    (hd : ∀ c ∈ digits, c.isDigit) (hs : NoDigit s) :
    exponentDigits negative (digits ++ s) = .ok ((negative, digits), s) := by
  cases digits with
  | nil => exact absurd rfl hne
  | cons c r =>
    have hrest := takeWhile_digits (s := s) hd hs
    have htail := dropWhile_digits hd hs
    rw [List.cons_append] at hrest ⊢
    rw [exponentDigits, if_pos (hd c List.mem_cons_self), hrest.1, htail]

theorem exponentRest_append {exponent : Option (Bool × List Char)} {s : List Char}
    (he : ∀ e, exponent = some e → e.2 ≠ [] ∧ ∀ c ∈ e.2, c.isDigit) (hs : Closing s) :
    exponentRest (Numeral.exponentChars exponent ++ s) = .ok (exponent, s) := by
  cases exponent with
  | none =>
    cases s with
    | nil => rfl
    | cons c r =>
      obtain ⟨_, _, he, hE⟩ := hs c r rfl
      simp [Numeral.exponentChars, exponentRest, he, hE]
  | some e =>
    obtain ⟨negative, digits⟩ := e
    obtain ⟨hne, hd⟩ := he _ rfl
    have hdigits := exponentDigits_append negative hne hd hs.noDigit
    cases negative <;> simp [Numeral.exponentChars, exponentRest, hdigits, Except.map]

/-- The reader takes a numeral apart into its parts. -/
theorem numeral_body {n : Numeral} (hn : n.WellFormed) {s : List Char} (hs : Closing s) :
    numeral n.negative (n.body ++ s) = .ok (n, s) := by
  have hexponent : NoDigit (Numeral.exponentChars n.exponent ++ s) ∧
      ∀ r, Numeral.exponentChars n.exponent ++ s ≠ '.' :: r := by
    cases h : n.exponent with
    | none =>
      refine ⟨hs.noDigit, fun r hr => ?_⟩
      exact (hs '.' r hr).2.1 rfl
    | some e => exact ⟨NoDigit.cons (by decide) _, fun r hr => by cases hr⟩
  have hfraction : NoDigit (Numeral.fractionChars n.fraction ++
      (Numeral.exponentChars n.exponent ++ s)) := by
    cases h : n.fraction with
    | nil => exact hexponent.1
    | cons c r => exact NoDigit.cons (by decide) _
  have h1 := wholeRest_append hn.wholeDigits hn.whole hfraction
  have h2 := fractionRest_append hn.fractionDigits hexponent.1 hexponent.2
  have h3 := exponentRest_append hn.exponentDigits hs
  rw [numeral, Numeral.body, List.append_assoc, List.append_assoc, h1]
  simp only [bind, Except.bind, h2, h3]

namespace Numeral

/-- A numeral begins with a digit behind its sign. -/
theorem WellFormed.body_eq_cons {n : Numeral} (hn : n.WellFormed) :
    ∃ c r, n.body = c :: r ∧ c.isDigit := by
  have hdigits := hn.wholeDigits
  rcases hn.whole with h | ⟨c, r, h, _⟩
  · exact ⟨_, _, by rw [body, h]; rfl, by decide⟩
  · exact ⟨_, _, by rw [body, h]; rfl, hdigits c (h ▸ List.mem_cons_self)⟩

/-- The text of a numeral tells where it ends and what it is. -/
theorem eq_of_chars_append_eq {n m : Numeral} (hn : n.WellFormed) (hm : m.WellFormed)
    {r s : List Char} (hr : Closing r) (hs : Closing s) (h : n.chars ++ r = m.chars ++ s) :
    n = m ∧ r = s := by
  have sign : ∀ {n m : Numeral} {r s : List Char}, m.WellFormed →
      '-' :: (n.body ++ r) ≠ m.body ++ s := by
    intro n m r s hm h
    obtain ⟨c, t, hbody, hdigit⟩ := hm.body_eq_cons
    rw [hbody] at h
    obtain ⟨rfl, _⟩ := List.cons.inj h
    exact absurd hdigit (by decide)
  have same : n.negative = m.negative ∧ n.body ++ r = m.body ++ s := by
    unfold chars at h
    split_ifs at h with hn' hm' hm'
    · exact ⟨by rw [hn', hm'], (List.cons.inj h).2⟩
    · exact absurd h (sign hm)
    · exact absurd h.symm (sign hn)
    · exact ⟨by simp_all, h⟩
  have hread := numeral_body hn hr
  rw [same.1, same.2, numeral_body hm hs] at hread
  obtain ⟨rfl, rfl⟩ := Prod.mk.inj (Except.ok.inj hread)
  exact ⟨rfl, rfl⟩

/-- The value of the exponent. -/
def power (n : Numeral) : Int :=
  match n.exponent with
  | none => 0
  | some (negative, digits) =>
    let v : Nat := Nat.ofDigitChars 10 digits 0
    if negative then -v else v

/-- The number a numeral stands for, apart from its sign. -/
def magnitude (n : Numeral) : ℚ :=
  Nat.ofDigitChars 10 (n.whole ++ n.fraction) 0 * 10 ^ (n.power - n.fraction.length)

end Numeral

end Json.Reader

open Json.Reader (Numeral Closing)

namespace Double

/-- The numeral of digits of which the first one counts `10 ^ exponent`. -/
def numeralOf (negative : Bool) (digits : List Char) (exponent : Int) : Numeral :=
  if -5 ≤ exponent ∧ exponent < 16 then
    match exponent with
    | .negSucc n => ⟨negative, ['0'], List.replicate n '0' ++ digits, none⟩
    | .ofNat n =>
      let whole := digits.take (n + 1)
      let rest := digits.drop (n + 1)
      ⟨negative, whole ++ List.replicate (n + 1 - whole.length) '0',
        if rest.isEmpty then ['0'] else rest, none⟩
  else
    let power := some (decide (exponent < 0), Nat.toDigits 10 exponent.natAbs)
    match digits with
    | [] => ⟨negative, ['0'], [], power⟩
    | c :: rest => ⟨negative, [c], rest, power⟩

/-- The parts a double is written in. -/
def numeral (d : Double) : Numeral :=
  if d.isZero then ⟨d.negative, ['0'], ['0'], none⟩
  else numeralOf d.negative d.digitsAndExponent.1 d.digitsAndExponent.2

/-- The sign and the rest of a text, as `Double.chars` puts them together. -/
theorem numeralOf_chars (negative : Bool) {digits : List Char} (hd : digits ≠ [])
    (exponent : Int) :
    (numeralOf negative digits exponent).chars =
      if negative then
        '-' :: (if -5 ≤ exponent ∧ exponent < 16 then positional digits exponent
          else scientific digits exponent)
      else if -5 ≤ exponent ∧ exponent < 16 then positional digits exponent
        else scientific digits exponent := by
  have hbody : (numeralOf negative digits exponent).body =
      if -5 ≤ exponent ∧ exponent < 16 then positional digits exponent
      else scientific digits exponent := by
    unfold numeralOf
    split_ifs with hplain
    · cases exponent with
      | negSucc n =>
        obtain ⟨c, r, hcr⟩ : ∃ c r, List.replicate n '0' ++ digits = c :: r :=
          List.exists_cons_of_ne_nil (by simp [hd])
        simp [Numeral.body, positional, hcr, Numeral.fractionChars, Numeral.exponentChars]
      | ofNat n =>
        simp only [Numeral.body, positional, Numeral.exponentChars, List.append_nil]
        congr 1
        cases h : digits.drop (n + 1) <;> simp [Numeral.fractionChars]
    · cases digits with
      | nil => exact absurd rfl hd
      | cons c r =>
        cases r with
        | nil => simp [Numeral.body, scientific, Numeral.fractionChars, Numeral.exponentChars]
        | cons c' r => simp [Numeral.body, scientific, Numeral.fractionChars, Numeral.exponentChars]
  have hsign : (numeralOf negative digits exponent).negative = negative := by
    unfold numeralOf
    split_ifs
    · cases exponent <;> rfl
    · cases digits <;> rfl
  rw [Numeral.chars, hsign, hbody]

theorem numeralOf_magnitude (negative : Bool) (digits : List Char) (exponent : Int) :
    (numeralOf negative digits exponent).magnitude =
      Nat.ofDigitChars 10 digits 0 * 10 ^ (exponent - digits.length + 1) := by
  have h10 : (10 : ℚ) ≠ 0 := by norm_num
  unfold numeralOf
  split_ifs with hplain
  · cases exponent with
    | negSucc n =>
      have hdigits : Nat.ofDigitChars 10 (['0'] ++ (List.replicate n '0' ++ digits)) 0 =
          Nat.ofDigitChars 10 digits 0 := by
        rw [Nat.ofDigitChars_append, Nat.ofDigitChars_append, Nat.ofDigitChars_replicate_zero]
        simp [Nat.ofDigitChars_cons]
      simp only [Numeral.magnitude, Numeral.power, hdigits, List.length_append,
        List.length_replicate]
      congr 2
      rw [Int.negSucc_eq]
      push_cast
      ring
    | ofNat n =>
      simp only [Numeral.magnitude, Numeral.power, Int.ofNat_eq_natCast]
      rcases le_or_gt digits.length (n + 1) with hlen | hlen
      · have hdigits : Nat.ofDigitChars 10 (digits ++ List.replicate (n + 1 - digits.length) '0' ++
            ['0']) 0 = 10 ^ (n + 2 - digits.length) * Nat.ofDigitChars 10 digits 0 := by
          rw [← List.replicate_one, List.append_assoc, List.replicate_append_replicate,
            Nat.ofDigitChars_append, Nat.ofDigitChars_replicate_zero]
          congr 2
          omega
        rw [List.take_of_length_le hlen, List.drop_of_length_le hlen]
        simp only [List.isEmpty_nil, if_true, hdigits, List.length_singleton]
        push_cast
        rw [mul_comm _ (Nat.ofDigitChars 10 digits 0 : ℚ), mul_assoc, ← zpow_natCast,
          ← zpow_add₀ h10]
        congr 2
        omega
      · have hrest : (digits.drop (n + 1)).isEmpty = false := by
          simp
          omega
        have htake : (digits.take (n + 1)).length = n + 1 := by
          rw [List.length_take]
          omega
        simp only [hrest, Bool.false_eq_true, if_false, htake, Nat.sub_self, List.replicate_zero,
          List.append_nil, List.take_append_drop, List.length_drop]
        congr 2
        omega
  · have hpower (s : Numeral) (hs : s.exponent =
        some (decide (exponent < 0), Nat.toDigits 10 exponent.natAbs)) : s.power = exponent := by
      simp only [Numeral.power, hs, Nat.ofDigitChars_ten_toDigits]
      by_cases hneg : exponent < 0
      · simp only [hneg, decide_true, if_true]
        omega
      · simp only [hneg, decide_false, Bool.false_eq_true, if_false]
        omega
    cases digits with
    | nil => simp [Numeral.magnitude, Nat.ofDigitChars_cons]
    | cons c r =>
      simp only [Numeral.magnitude, hpower, List.cons_append, List.nil_append]
      congr 2
      push_cast [List.length_cons]
      ring


/-- Without the zeros at its end a run of digits is what it was, less some zeros. -/
theorem eq_append_replicate_zero (all : List Char) :
    ∃ k, all = (all.reverse.dropWhile (· == '0')).reverse ++ List.replicate k '0' := by
  refine ⟨(all.reverse.takeWhile (· == '0')).length, ?_⟩
  have hzeros : all.reverse.takeWhile (· == '0') =
      List.replicate (all.reverse.takeWhile (· == '0')).length '0' :=
    List.eq_replicate_of_mem fun c hc => by simpa using List.mem_takeWhile_imp hc
  rw [← List.reverse_replicate, ← hzeros, ← List.reverse_append, List.takeWhile_append_dropWhile,
    List.reverse_reverse]

/-- The digits of a positive number do not begin with zero. -/
theorem toDigits_eq_cons {n : Nat} (hn : 0 < n) :
    ∃ c r, Nat.toDigits 10 n = c :: r ∧ c ≠ '0' := by
  induction n using Nat.strong_induction_on with
  | _ n ih =>
    rcases Nat.lt_or_ge n 10 with hlt | hge
    · exact ⟨_, _, Nat.toDigits_of_lt_base hlt, by simpa using hn.ne'⟩
    · obtain ⟨c, r, hcr, hc⟩ := ih (n / 10) (by omega) (by omega)
      exact ⟨c, _, by rw [Nat.toDigits_of_base_le (by decide) hge, hcr, List.cons_append], hc⟩

theorem isDigit_toDigits {n : Nat} : ∀ c ∈ Nat.toDigits 10 n, c.isDigit :=
  fun _ hc => Nat.isDigit_of_mem_toDigits (by decide) (by decide) hc

/-- What is written of the decimal of a positive double: digits, the first of which is not zero,
    with the value of the decimal. -/
theorem digitsAndExponent_of_pos {d : Double} (hd : 0 < d.scaled) :
    (∃ c r, d.digitsAndExponent.1 = c :: r ∧ c ≠ '0') ∧
      (∀ c ∈ d.digitsAndExponent.1, c.isDigit) ∧
      Nat.ofDigitChars 10 d.digitsAndExponent.1 0 *
        (10 : ℚ) ^ (d.digitsAndExponent.2 - d.digitsAndExponent.1.length + 1) =
        d.shortest.value := by
  have hpos : 0 < d.shortest.digits := by
    have hvalue := (rounds_shortest hd).pos hd
    rw [Decimal.value] at hvalue
    exact Nat.pos_of_ne_zero fun h0 => by simp [h0] at hvalue
  have hall : Nat.ofDigitChars 10 (Nat.toDigits 10 d.shortest.digits) 0 = d.shortest.digits :=
    Nat.ofDigitChars_ten_toDigits
  obtain ⟨c, r, hcr, hc⟩ := toDigits_eq_cons hpos
  obtain ⟨k, hk⟩ := eq_append_replicate_zero (Nat.toDigits 10 d.shortest.digits)
  unfold digitsAndExponent
  simp only
  generalize (List.dropWhile (· == '0') (Nat.toDigits 10 d.shortest.digits).reverse).reverse =
    kept at hk
  have hdigits : ∀ c ∈ Nat.toDigits 10 d.shortest.digits, c.isDigit := isDigit_toDigits
  rw [hk, Nat.ofDigitChars_append, Nat.ofDigitChars_replicate_zero] at hall
  rw [hk] at hcr hdigits ⊢
  refine ⟨?_, fun c hc => hdigits c (List.mem_append_left _ hc), ?_⟩
  · cases kept with
    | nil =>
      simp only [Nat.ofDigitChars_nil, mul_zero] at hall
      omega
    | cons c' r' =>
      obtain ⟨rfl, _⟩ := List.cons.inj hcr
      exact ⟨_, _, rfl, hc⟩
  · rw [Decimal.value, ← hall]
    push_cast
    rw [mul_comm ((10 : ℚ) ^ k), mul_assoc, ← zpow_natCast, ← zpow_add₀ (by norm_num)]
    congr 2
    rw [List.length_append, List.length_replicate]
    push_cast
    ring

theorem numeralOf_wellFormed (negative : Bool) {digits : List Char} {exponent : Int}
    (hfirst : ∃ c r, digits = c :: r ∧ c ≠ '0') (hd : ∀ c ∈ digits, c.isDigit) :
    (numeralOf negative digits exponent).WellFormed := by
  have hzeros (k : Nat) : ∀ c ∈ List.replicate k '0', c.isDigit := by
    intro c hc
    rw [List.eq_of_mem_replicate hc]
    decide
  obtain ⟨c, r, rfl, hc⟩ := hfirst
  unfold numeralOf
  split_ifs with hplain
  · cases exponent with
    | negSucc n =>
      refine ⟨by simp, .inl rfl, ?_, by simp⟩
      intro x hx
      rcases List.mem_append.1 hx with hx | hx
      · exact hzeros n x hx
      · exact hd x hx
    | ofNat n =>
      refine ⟨?_, .inr ⟨c, _, rfl, hc⟩, ?_, by simp⟩
      · intro x hx
        rcases List.mem_append.1 hx with hx | hx
        · exact hd x (List.mem_of_mem_take hx)
        · exact hzeros _ x hx
      · intro x hx
        simp only at hx
        split_ifs at hx
        · simp_all
        · exact hd x (List.mem_of_mem_drop hx)
  · refine ⟨?_, .inr ⟨c, [], rfl, hc⟩, fun x hx => hd x (List.mem_cons_of_mem c hx), ?_⟩
    · intro x hx
      rw [List.mem_singleton.1 hx]
      exact hd c List.mem_cons_self
    · intro e he
      obtain rfl := Option.some.inj he
      exact ⟨Nat.toDigits_ne_nil, isDigit_toDigits⟩

theorem scaled_pos_of_isZero {d : Double} (h : d.isZero = false) : 0 < d.scaled := by
  simp only [isZero, beq_eq_false_iff_ne] at h
  omega

theorem chars_eq (d : Double) : d.chars = d.numeral.chars := by
  unfold chars numeral
  cases hz : d.isZero with
  | true =>
    cases hn : d.negative <;>
      simp [Numeral.chars, Numeral.body, Numeral.fractionChars, Numeral.exponentChars]
  | false =>
    obtain ⟨⟨c, r, hcr, _⟩, _⟩ := digitsAndExponent_of_pos (scaled_pos_of_isZero hz)
    simp only [Bool.false_eq_true, if_false]
    rw [numeralOf_chars _ (by simp [hcr])]

theorem numeral_wellFormed (d : Double) : d.numeral.WellFormed := by
  unfold numeral
  cases hz : d.isZero with
  | true => exact ⟨by simp, .inl rfl, by simp, by simp⟩
  | false =>
    obtain ⟨hfirst, hdigits, _⟩ := digitsAndExponent_of_pos (scaled_pos_of_isZero hz)
    exact numeralOf_wellFormed _ hfirst hdigits

theorem numeral_negative (d : Double) : d.numeral.negative = d.negative := by
  unfold numeral numeralOf
  split_ifs
  · rfl
  · cases d.digitsAndExponent.2 <;> rfl
  · cases d.digitsAndExponent.1 <;> rfl

/-- A double is written with a point or an exponent. -/
theorem numeral_fraction_or_exponent (d : Double) :
    d.numeral.fraction ≠ [] ∨ d.numeral.exponent ≠ none := by
  unfold numeral
  cases hz : d.isZero with
  | true => exact .inl (by simp)
  | false =>
    obtain ⟨⟨c, r, hcr, _⟩, _⟩ := digitsAndExponent_of_pos (scaled_pos_of_isZero hz)
    simp only [Bool.false_eq_true, if_false]
    unfold numeralOf
    split_ifs
    · cases d.digitsAndExponent.2 with
      | negSucc n => exact .inl (by simp [hcr])
      | ofNat n =>
        refine .inl ?_
        simp only
        split_ifs <;> simp_all
    · exact .inr (by rw [hcr]; simp)

theorem numeral_magnitude {d : Double} (hd : 0 < d.scaled) :
    d.numeral.magnitude = d.shortest.value := by
  have hz : d.isZero = false := by
    simp only [isZero, beq_eq_false_iff_ne]
    omega
  obtain ⟨_, _, hvalue⟩ := digitsAndExponent_of_pos hd
  rw [numeral, hz]
  simp only [Bool.false_eq_true, if_false]
  rw [numeralOf_magnitude, hvalue]

/-- Different doubles are written with different parts. -/
theorem numeral_injective : Function.Injective Double.numeral := by
  intro d e h
  have hsign : d.negative = e.negative := by
    rw [← numeral_negative, h, numeral_negative]
  -- A zero is not written like a positive magnitude.
  have hzero : ∀ {d e : Double}, d.scaled = 0 → 0 < e.scaled → d.numeral ≠ e.numeral := by
    intro d e hd he h
    have hpos := (rounds_shortest he).pos he
    rw [← numeral_magnitude he, ← h, numeral, isZero, hd] at hpos
    simp [Numeral.magnitude, Nat.ofDigitChars_cons] at hpos
  have hscaled : d.scaled = e.scaled := by
    rcases Nat.eq_zero_or_pos d.scaled with hd | hd <;>
      rcases Nat.eq_zero_or_pos e.scaled with he | he
    · rw [hd, he]
    · exact absurd h (hzero hd he)
    · exact absurd h.symm (hzero he hd)
    · have hvalue : d.shortest.value = e.shortest.value := by
        rw [← numeral_magnitude hd, h, numeral_magnitude he]
      exact scaled_eq_of_rounds (rounds_shortest hd) (hvalue ▸ rounds_shortest he)
  obtain ⟨hexponent, hfraction⟩ := fields_eq_of_scaled_eq hscaled
  cases d
  cases e
  simp_all

end Double

namespace Number

/-- The parts a number is written in. -/
def numeral : Number → Numeral
  | .whole n => ⟨decide (n.val < 0), Nat.toDigits 10 n.val.natAbs, [], none⟩
  | .float d => d.numeral

theorem chars_eq (n : Number) : n.chars = n.numeral.chars := by
  cases n with
  | float d => exact d.chars_eq
  | whole n =>
    obtain ⟨val, inRange⟩ := n
    cases val with
    | ofNat n =>
      simp [chars, Json.intChars, numeral, Numeral.chars, Numeral.body, Numeral.fractionChars,
        Numeral.exponentChars]
    | negSucc n =>
      simp [chars, Json.intChars, numeral, Numeral.chars, Numeral.body, Numeral.fractionChars,
        Numeral.exponentChars]

theorem numeral_wellFormed (n : Number) : n.numeral.WellFormed := by
  cases n with
  | float d => exact d.numeral_wellFormed
  | whole n =>
    refine ⟨Double.isDigit_toDigits, ?_, by simp [numeral], by simp [numeral]⟩
    rcases Nat.eq_zero_or_pos n.val.natAbs with h0 | hpos
    · exact .inl (by simp [numeral, h0])
    · exact .inr (Double.toDigits_eq_cons hpos)

theorem numeral_injective : Function.Injective numeral := by
  intro n m h
  cases n with
  | whole n =>
    cases m with
    | whole m =>
      simp only [numeral, Numeral.mk.injEq, decide_eq_decide, and_true] at h
      have habs : n.val.natAbs = m.val.natAbs := by
        rw [← Nat.ofDigitChars_ten_toDigits (n := n.val.natAbs), h.2,
          Nat.ofDigitChars_ten_toDigits]
      have hval : n.val = m.val := by omega
      cases n
      cases m
      simp_all
    | float e =>
      simp only [numeral] at h
      rcases e.numeral_fraction_or_exponent with he | he <;> simp [← h] at he
  | float d =>
    cases m with
    | whole m =>
      simp only [numeral] at h
      rcases d.numeral_fraction_or_exponent with hd | hd <;> simp [h] at hd
    | float e => rw [Double.numeral_injective h]

/-- Different numbers are written differently, and the text of a number tells where it ends. -/
theorem eq_of_chars_append_eq {n m : Number} {r s : List Char} (hr : Closing r) (hs : Closing s)
    (h : n.chars ++ r = m.chars ++ s) : n = m ∧ r = s := by
  rw [chars_eq, chars_eq] at h
  obtain ⟨hnumeral, hrest⟩ :=
    Numeral.eq_of_chars_append_eq n.numeral_wellFormed m.numeral_wellFormed hr hs h
  exact ⟨numeral_injective hnumeral, hrest⟩

end Number

end EntityGraph
