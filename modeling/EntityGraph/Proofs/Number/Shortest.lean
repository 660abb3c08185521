import Mathlib
import EntityGraph.Number.Shortest

/-!
# The decimal of a double

The decimal found for a double lies in its rounding interval (`rounds_shortest`), and no decimal
lies in the intervals of two magnitudes (`scaled_eq_of_rounds`). So the decimal of a double tells
its magnitude.

The search always succeeds: a grid of twenty digits is finer than a quarter of the unit of the
significand, so the grid point below the double is inside the interval.
-/

namespace EntityGraph

/-- The number a decimal stands for. -/
def Decimal.value (s : Decimal) : ℚ := s.digits * 10 ^ s.exponent

namespace Double

/-! ### Magnitudes -/

theorem one_pos : 0 < one := by
  have pos : ∀ n, 0 < Nat.pow 2 n := fun n => Nat.two_pow_pos n
  unfold one
  exact pos 1074

-- Nothing below needs the digits of this number.
attribute [local irreducible] one

/-- The unit of the significand, in units of the smallest double. -/
def step (d : Double) : Nat := 2 ^ d.scale

theorem step_pos (d : Double) : 0 < d.step := Nat.two_pow_pos _

theorem scaled_eq (d : Double) : d.scaled = d.significand * d.step := rfl

theorem step_le_scaled {d : Double} (h : 0 < d.scaled) : d.step ≤ d.scaled := by
  rw [scaled_eq] at h ⊢
  exact Nat.le_mul_of_pos_left _ (Nat.pos_of_mul_pos_right h)

theorem significand_lt (d : Double) : d.significand < 2 ^ 53 := by
  have := d.fraction.isLt
  unfold significand
  split <;> omega

/-- Only the smallest unit goes with significands which lack the leading bit. -/
theorem le_significand {d : Double} (h : 0 < d.scale) : 2 ^ 52 ≤ d.significand := by
  have : d.exponent.val ≠ 0 := by unfold scale at h; omega
  simp [significand, this]

/-- Of two units the larger one goes with the larger magnitude. -/
theorem scaled_lt_of_scale_lt {d e : Double} (h : d.scale < e.scale) : d.scaled < e.scaled := by
  have hd := d.significand_lt
  have he : 2 ^ 52 ≤ e.significand := le_significand (by omega)
  have hs : 2 * d.step ≤ e.step := by
    have : 2 ^ (d.scale + 1) ≤ 2 ^ e.scale := Nat.pow_le_pow_right (by decide) h
    simpa [step, pow_succ, mul_comm] using this
  have := d.step_pos
  calc d.scaled = d.significand * d.step := d.scaled_eq
    _ < 2 ^ 53 * d.step := by gcongr
    _ = 2 ^ 52 * (2 * d.step) := by ring
    _ ≤ e.significand * e.step := by gcongr
    _ = e.scaled := e.scaled_eq.symm

theorem fields_eq_of_scaled_eq {d e : Double} (h : d.scaled = e.scaled) :
    d.exponent = e.exponent ∧ d.fraction = e.fraction := by
  have hscale : d.scale = e.scale := by
    rcases lt_trichotomy d.scale e.scale with hlt | heq | hlt
    · exact absurd h (scaled_lt_of_scale_lt hlt).ne
    · exact heq
    · exact absurd h (scaled_lt_of_scale_lt hlt).ne'
  have hsig : d.significand = e.significand := by
    rw [scaled_eq, scaled_eq, step, step, hscale] at h
    exact Nat.eq_of_mul_eq_mul_right (Nat.two_pow_pos _) h
  have hd := d.fraction.isLt
  have he := e.fraction.isLt
  rw [Fin.ext_iff, Fin.ext_iff]
  simp only [significand, scale] at hsig hscale
  split at hsig <;> split at hsig <;> constructor <;> omega

/-! ### The rounding interval -/

/-- Distance from the double to the lower end of its interval, in quarters of the smallest
    double. -/
def below (d : Double) : Nat :=
  if d.fraction.val = 0 ∧ 1 < d.exponent.val then d.step else 2 * d.step

theorem step_le_below (d : Double) : d.step ≤ d.below := by
  unfold below
  split <;> omega

theorem below_le (d : Double) : d.below ≤ 2 * d.step := by
  unfold below
  split <;> omega

theorem interval_eq (d : Double) :
    d.interval = (4 * d.scaled - d.below, 4 * d.scaled + 2 * d.step) := rfl

/-- The rational lies in the rounding interval of a double, whose ends belong to it if the
    significand is even. -/
def Rounds (d : Double) (v : ℚ) : Prop :=
  if d.significand % 2 = 0 then d.interval.1 ≤ 4 * one * v ∧ 4 * one * v ≤ d.interval.2
  else d.interval.1 < 4 * one * v ∧ 4 * one * v < d.interval.2

theorem Rounds.bounds {d : Double} {v : ℚ} (h : d.Rounds v) :
    d.interval.1 ≤ 4 * one * v ∧ 4 * one * v ≤ d.interval.2 := by
  unfold Rounds at h
  split at h
  · exact h
  · exact ⟨h.1.le, h.2.le⟩

theorem rounds_of_lt {d : Double} {v : ℚ} (hl : d.interval.1 < 4 * one * v)
    (hr : 4 * one * v < d.interval.2) : d.Rounds v := by
  unfold Rounds
  split
  · exact ⟨hl.le, hr.le⟩
  · exact ⟨hl, hr⟩

/-- What rounds to a positive double is positive. -/
theorem Rounds.pos {d : Double} {v : ℚ} (h : d.Rounds v) (hd : 0 < d.scaled) : 0 < v := by
  have hlow : 0 < d.interval.1 := by
    have := step_le_scaled hd
    have := d.below_le
    have := d.step_pos
    simp only [interval_eq]
    omega
  have hone : (0 : ℚ) < 4 * one := mul_pos (by norm_num) (by exact_mod_cast one_pos)
  have : (0 : ℚ) < 4 * one * v := lt_of_lt_of_le (by exact_mod_cast hlow) h.bounds.1
  exact pos_of_mul_pos_right this hone.le

/-- The intervals of two magnitudes have at most an end in common, which then does not belong to
    both of them. -/
theorem interval_le_of_scaled_lt {d e : Double} (h : d.scaled < e.scaled) :
    d.interval.2 ≤ e.interval.1 ∧
      (d.interval.2 = e.interval.1 → d.significand % 2 = 0 → e.significand % 2 ≠ 0) := by
  have hP := d.step_pos
  have hd := d.significand_lt
  have hb := e.below_le
  rcases lt_trichotomy d.scale e.scale with hlt | heq | hlt
  · -- `R` is half the unit of `e`, which the unit of `d` does not exceed.
    obtain ⟨R, hR, hPR⟩ : ∃ R, e.step = 2 * R ∧ d.step ≤ R := by
      refine ⟨2 ^ (e.scale - 1), ?_, Nat.pow_le_pow_right (by decide) (by omega)⟩
      rw [step, ← pow_succ']
      congr 1
      omega
    have he : 2 ^ 52 ≤ e.significand := le_significand (by omega)
    have hhigh : 4 * d.scaled + 2 * d.step = (4 * d.significand + 2) * d.step := by
      rw [scaled_eq]
      ring
    have hle : (4 * d.significand + 2) * d.step ≤ (4 * d.significand + 2) * R := by gcongr
    have hlow : (2 ^ 55 - 2) * R ≤ 4 * e.scaled - e.below := by
      rcases eq_or_lt_of_le he with h52 | h52
      · have hbelow : e.below = e.step := by
          have hexp : 1 < e.exponent.val := by unfold scale at hlt; omega
          have hfrac : e.fraction.val = 0 := by
            have : e.exponent.val ≠ 0 := by omega
            simp only [significand, this, if_false] at h52
            omega
          simp [below, hexp, hfrac]
        rw [scaled_eq, hbelow, ← h52, hR]
        omega
      · have : (2 ^ 52 + 1) * (2 * R) ≤ e.scaled := by
          rw [scaled_eq, hR]
          gcongr
          exact h52
        omega
    simp only [interval_eq]
    rw [hhigh]
    rcases eq_or_lt_of_le (Nat.le_sub_one_of_lt hd) with hodd | hlt'
    · constructor
      · refine hle.trans (le_trans (Nat.mul_le_mul_right R ?_) hlow)
        omega
      · intro _ heven
        omega
    · have hlt'' : (4 * d.significand + 2) * R < (2 ^ 55 - 2) * R :=
        Nat.mul_lt_mul_of_pos_right (by omega) (by omega)
      exact ⟨by omega, fun heq => by omega⟩
  · -- With one unit the significands are different.
    have hstep : e.step = d.step := by rw [step, step, heq]
    have hsig : d.significand < e.significand := by
      rw [scaled_eq, scaled_eq, hstep] at h
      exact Nat.lt_of_mul_lt_mul_right h
    obtain ⟨t, ht⟩ := Nat.exists_eq_add_of_lt hsig
    have he : e.scaled = d.scaled + t * d.step + d.step := by
      rw [scaled_eq, scaled_eq, hstep, ht]
      ring
    simp only [interval_eq]
    refine ⟨by omega, fun heq heven hodd => ?_⟩
    have : t ≠ 0 := by omega
    have : d.step ≤ t * d.step := Nat.le_mul_of_pos_left _ (by omega)
    omega
  · exact absurd (scaled_lt_of_scale_lt hlt) (by omega)

/-- No rational rounds to two magnitudes. -/
theorem scaled_eq_of_rounds {d e : Double} {v : ℚ} (hd : d.Rounds v) (he : e.Rounds v) :
    d.scaled = e.scaled := by
  have disjoint : ∀ {d e : Double}, d.Rounds v → e.Rounds v → ¬ d.scaled < e.scaled := by
    intro d e hd he hlt
    obtain ⟨hle, hparity⟩ := interval_le_of_scaled_lt hlt
    have hle' : (d.interval.2 : ℚ) ≤ e.interval.1 := by exact_mod_cast hle
    have hends : (d.interval.2 : ℚ) = e.interval.1 :=
      le_antisymm hle' (he.bounds.1.trans hd.bounds.2)
    have hodd := hparity (by exact_mod_cast hends)
    -- The common end belongs to both intervals, so both significands are even.
    unfold Rounds at hd he
    split at hd <;> split at he
    · exact hodd ‹_› ‹_›
    · linarith [hd.2, he.1]
    · linarith [hd.2, he.1]
    · linarith [hd.2, he.1]
  rcases lt_trichotomy d.scaled e.scaled with h | h | h
  · exact absurd h (disjoint hd he)
  · exact h
  · exact absurd h (disjoint he hd)

/-! ### Decimal grids -/

theorem onGrid_le_iff (j : Int) (x y : Nat) :
    (onGrid j x y).1 ≤ (onGrid j x y).2 ↔ (x : ℚ) * 10 ^ j ≤ y := by
  cases j with
  | ofNat n =>
    simp only [onGrid, Int.ofNat_eq_natCast, zpow_natCast]
    norm_cast
  | negSucc n =>
    have hpow : (0 : ℚ) < 10 ^ (n + 1) := by positivity
    rw [zpow_negSucc, ← div_eq_mul_inv, div_le_iff₀ hpow]
    simp only [onGrid]
    norm_cast

theorem onGrid_lt_iff (j : Int) (x y : Nat) :
    (onGrid j x y).1 < (onGrid j x y).2 ↔ (x : ℚ) * 10 ^ j < y := by
  cases j with
  | ofNat n =>
    simp only [onGrid, Int.ofNat_eq_natCast, zpow_natCast]
    norm_cast
  | negSucc n =>
    have hpow : (0 : ℚ) < 10 ^ (n + 1) := by positivity
    rw [zpow_negSucc, ← div_eq_mul_inv, div_lt_iff₀ hpow]
    simp only [onGrid]
    norm_cast

/-- Which side a number is multiplied on does not depend on the number it is compared with. -/
theorem onGrid_fst (j : Int) (x y z : Nat) : (onGrid j x y).1 = (onGrid j x z).1 := by
  cases j <;> rfl

theorem onGrid_snd (j : Int) (x y z : Nat) : (onGrid j x z).2 = (onGrid j y z).2 := by
  cases j <;> rfl

theorem onGrid_mul (j : Int) (c x y : Nat) : (onGrid j (c * x) y).1 = c * (onGrid j x y).1 := by
  cases j <;> simp [onGrid, mul_assoc]

theorem roundsFrom_iff (d : Double) (j : Int) (c : Nat) :
    d.roundsFrom j c = true ↔ d.Rounds (Decimal.value ⟨c, j⟩) := by
  have hvalue : 4 * one * (Decimal.value ⟨c, j⟩) = (c * (4 * one) : Nat) * (10 : ℚ) ^ j := by
    simp only [Decimal.value]
    push_cast
    ring
  have hlow (x : Nat) : (onGrid j x d.interval.1).2 ≤ (onGrid j x d.interval.1).1 ↔
      (d.interval.1 : ℚ) ≤ x * 10 ^ j := by
    rw [← not_lt, onGrid_lt_iff, not_lt]
  have hlow' (x : Nat) : (onGrid j x d.interval.1).2 < (onGrid j x d.interval.1).1 ↔
      (d.interval.1 : ℚ) < x * 10 ^ j := by
    rw [← not_le, onGrid_le_iff, not_le]
  rw [Rounds, hvalue, roundsFrom]
  split_ifs with heven
  · simp only [heven, beq_self_eq_true, if_true, Bool.and_eq_true, decide_eq_true_eq, hlow]
    rw [onGrid_fst j _ d.interval.1 d.interval.2, onGrid_le_iff]
  · have : (d.significand % 2 == 0) = false := by simpa using heven
    simp only [this, Bool.false_eq_true, if_false, Bool.and_eq_true, decide_eq_true_eq, hlow']
    rw [onGrid_fst j _ d.interval.1 d.interval.2, onGrid_lt_iff]

/-- The grid point taken for a double rounds to it. -/
theorem rounds_of_gridPoint? {d : Double} {j : Int} {c : Nat} (h : d.gridPoint? j = some c) :
    d.Rounds (Decimal.value ⟨c, j⟩) := by
  rw [← roundsFrom_iff]
  unfold gridPoint? at h
  simp only at h
  split at h
  · obtain rfl := Option.some.inj h
    split_ifs <;> assumption
  · obtain rfl := Option.some.inj h
    assumption
  · obtain rfl := Option.some.inj h
    assumption
  · cases h

/-- A grid finer than a quarter of the unit has a point which rounds to the double. -/
theorem gridPoint?_isSome {d : Double} {j : Int} (hd : 0 < d.scaled)
    (hfine : 4 * (one : ℚ) * 10 ^ j ≤ d.step) : (d.gridPoint? j).isSome := by
  have hpoint : d.roundsFrom j ((onGrid j one d.scaled).2 / (onGrid j one d.scaled).1) = true := by
    rw [roundsFrom_iff]
    generalize ha : (onGrid j one d.scaled).2 / (onGrid j one d.scaled).1 = a
    have hunit : 0 < (onGrid j one d.scaled).1 := by
      have := one_pos
      cases j <;> simp [onGrid, this]
    -- The double lies between the grid point `a` and the next one.
    have hle : (a : ℚ) * one * 10 ^ j ≤ d.scaled := by
      have : a * (onGrid j one d.scaled).1 ≤ (onGrid j one d.scaled).2 :=
        ha ▸ Nat.div_mul_le_self _ _
      rw [← onGrid_mul, onGrid_snd j one (a * one), onGrid_le_iff] at this
      exact_mod_cast this
    have hlt : (d.scaled : ℚ) < (a + 1) * one * 10 ^ j := by
      have : (onGrid j one d.scaled).2 < (a + 1) * (onGrid j one d.scaled).1 := by
        rw [← ha, mul_comm]
        exact Nat.lt_mul_div_succ _ hunit
      rw [← onGrid_mul, onGrid_snd j one ((a + 1) * one), ← not_le, onGrid_le_iff, not_le] at this
      exact_mod_cast this
    have hlow : (d.interval.1 : ℚ) ≤ 4 * d.scaled - d.step := by
      have := step_le_scaled hd
      have := d.step_le_below
      have := d.below_le
      have : d.interval.1 + d.step ≤ 4 * d.scaled := by
        simp only [interval_eq]
        omega
      have : (d.interval.1 + d.step : ℚ) ≤ 4 * d.scaled := by exact_mod_cast this
      linarith
    have hstep : (0 : ℚ) < d.step := by exact_mod_cast d.step_pos
    have hvalue : 4 * one * Decimal.value ⟨a, j⟩ = 4 * ((a : ℚ) * one * 10 ^ j) := by
      simp only [Decimal.value]
      ring
    refine rounds_of_lt ?_ ?_
    · rw [hvalue]
      linarith
    · rw [hvalue]
      simp only [interval_eq]
      push_cast
      linarith
  unfold gridPoint?
  simp only [hpoint]
  split <;> simp_all

/-! ### The search -/

theorem one_le_of_leadingZeros {s fuel j : Nat}
    (h : ∃ i, j ≤ i ∧ i < j + fuel ∧ one ≤ s * 10 ^ i) : one ≤ s * 10 ^ leadingZeros s fuel j := by
  induction fuel generalizing j with
  | zero =>
    obtain ⟨i, hji, hij, _⟩ := h
    omega
  | succ fuel ih =>
    rw [leadingZeros, Nat.pow_eq]
    split_ifs with hj
    · exact hj
    · obtain ⟨i, hji, hij, hi⟩ := h
      have : j ≠ i := fun heq => hj (heq ▸ hi)
      exact ih ⟨i, by omega, by omega, hi⟩

theorem two_pow_le_ten_pow {n m : Nat} (h : n ≤ 43 * m) : Nat.pow 2 n ≤ 10 ^ (13 * m) :=
  calc 2 ^ n ≤ 2 ^ (43 * m) := Nat.pow_le_pow_right (by decide) h
    _ = (2 ^ 43) ^ m := pow_mul 2 43 m
    _ ≤ (10 ^ 13) ^ m := Nat.pow_le_pow_left (by norm_num) m
    _ = 10 ^ (13 * m) := (pow_mul 10 13 m).symm

theorem one_le_ten_pow : one ≤ 10 ^ 325 := by
  unfold one
  exact two_pow_le_ten_pow (m := 25) (by decide)

/-- The leading digit of a positive double is not further to the left. -/
theorem ten_zpow_decimalExponent_le {d : Double} (hd : 0 < d.scaled) :
    one * (10 : ℚ) ^ d.decimalExponent ≤ d.scaled := by
  unfold decimalExponent
  simp only
  split_ifs with hwhole
  · have hreach : one ≤ d.scaled * 10 ^ leadingZeros d.scaled 325 1 :=
      one_le_of_leadingZeros ⟨325, by omega, by omega,
        one_le_ten_pow.trans (Nat.le_mul_of_pos_left _ hd)⟩
    rw [zpow_neg, zpow_natCast, ← div_eq_mul_inv, div_le_iff₀ (by positivity)]
    exact_mod_cast hreach
  · set whole := d.scaled / one
    have hlen : 0 < (Nat.toDigits 10 whole).length := Nat.length_toDigits_pos
    have hdigits : 10 ^ ((Nat.toDigits 10 whole).length - 1) ≤ whole := by
      rcases Nat.eq_zero_or_pos ((Nat.toDigits 10 whole).length - 1) with h0 | hpos
      · rw [h0, pow_zero]
        exact Nat.pos_of_ne_zero hwhole
      · rw [← not_lt, ← Nat.length_toDigits_le_iff (by decide) hpos]
        omega
    have hscaled : one * 10 ^ ((Nat.toDigits 10 whole).length - 1) ≤ d.scaled :=
      (Nat.mul_le_mul_left one hdigits).trans (Nat.mul_div_le _ _)
    have hcast : ((Nat.toDigits 10 whole).length - 1 : Int) =
        (((Nat.toDigits 10 whole).length - 1 : Nat) : Int) := by omega
    rw [hcast, zpow_natCast]
    exact_mod_cast hscaled

/-- Twenty digits are enough for every double. -/
theorem gridPoint?_twenty_isSome {d : Double} (hd : 0 < d.scaled) :
    (d.gridPoint? (d.decimalExponent - 20 + 1)).isSome := by
  refine gridPoint?_isSome hd ?_
  have hk := ten_zpow_decimalExponent_le hd
  have hlt : (d.scaled : ℚ) ≤ 2 ^ 53 * d.step := by
    rw [scaled_eq]
    exact_mod_cast Nat.mul_le_mul_right _ d.significand_lt.le
  have hsplit : (10 : ℚ) ^ (d.decimalExponent - 20 + 1) = 10 ^ d.decimalExponent / 10 ^ 19 := by
    rw [show d.decimalExponent - 20 + 1 = d.decimalExponent - 19 by ring,
      zpow_sub₀ (by norm_num)]
    norm_num
  have hstep : (0 : ℚ) < d.step := by exact_mod_cast d.step_pos
  rw [hsplit]
  calc 4 * (one : ℚ) * ((10 : ℚ) ^ d.decimalExponent / 10 ^ 19)
      = (4 : ℚ) / 10 ^ 19 * (one * 10 ^ d.decimalExponent) := by ring
    _ ≤ (4 : ℚ) / 10 ^ 19 * (2 ^ 53 * d.step) :=
      mul_le_mul_of_nonneg_left (hk.trans hlt) (by norm_num)
    _ ≤ (d.step : ℚ) := by linarith

theorem rounds_searchGrids {d : Double} {k : Int} {fuel n : Nat}
    (h : ∃ m : Nat, n ≤ m ∧ m < n + fuel ∧ (d.gridPoint? (k - m + 1)).isSome) :
    d.Rounds (d.searchGrids k fuel n).value := by
  induction fuel generalizing n with
  | zero =>
    obtain ⟨m, hnm, hmn, _⟩ := h
    omega
  | succ fuel ih =>
    rw [searchGrids]
    split
    · exact rounds_of_gridPoint? ‹_›
    · obtain ⟨m, hnm, hmn, hm⟩ := h
      have : n ≠ m := by
        rintro rfl
        simp_all
      exact ih ⟨m, by omega, by omega, hm⟩

/-- The decimal found for a positive double rounds to it. -/
theorem rounds_shortest {d : Double} (hd : 0 < d.scaled) : d.Rounds d.shortest.value :=
  rounds_searchGrids ⟨20, by omega, by omega, gridPoint?_twenty_isSome hd⟩

end Double

end EntityGraph
