import Mathlib.Algebra.Order.Field.Power
import Mathlib.Data.Rat.Cast.Order
import Mathlib.Tactic.FieldSimp
import Mathlib.Tactic.Linarith
import Mathlib.Tactic.Positivity
import Mathlib.Tactic.Ring
import Switchboard.Number.Shortest
import Switchboard.Proofs.WellFormed

/-!
# Rounding to doubles

A positive finite double is the nearest one to every value of its rounding interval, which reaches
halfway to its two neighbours. The ends belong to it if its significand is even:

    b.lowEnd   =  (significand - gap) · 2^exponent       gap = 1/2, or 1/4 above a power of two
    b.highEnd  =  (significand + 1/2) · 2^exponent

    b.Attracts (num / den)               ofRatio b.negative num den = b
    b.Attracts (digits · 10^exponent)    ofDecimal b.negative digits exponent = b

So whatever picks a value of the interval, the reader gives the double back.
-/

namespace Switchboard.Binary64

/-! ## Fields -/

theorem fractionField_lt (b : Binary64) : b.fractionField < hiddenBit :=
  Nat.mod_lt _ (by decide)

theorem significand_lt (b : Binary64) : b.significand < 2 ^ 53 := by
  have hfraction := b.fractionField_lt
  unfold significand
  unfold hiddenBit at *
  split <;> omega

theorem exponent_ge (b : Binary64) : -1074 ≤ b.exponent := by
  unfold exponent
  split <;> omega

/-- The largest exponent field is that of the infinities and NaNs. -/
theorem isFinite_iff (b : Binary64) : b.isFinite = true ↔ b.exponentField < 2047 := by
  have hlt : b.exponentField < 2048 := Nat.mod_lt _ (by decide)
  simp only [isFinite, bne_iff_ne]
  omega

theorem isNaN_of_isFinite {b : Binary64} (h : b.isFinite = true) : b.isNaN = false := by
  simp [isNaN, ((isFinite_iff b).1 h).ne]

theorem isInfinite_of_isFinite {b : Binary64} (h : b.isFinite = true) : b.isInfinite = false := by
  simp [isInfinite, ((isFinite_iff b).1 h).ne]

theorem isZero_iff (b : Binary64) : b.isZero = true ↔ b.significand = 0 := by
  unfold isZero significand
  split
  · simp [*]
  · simp [*, hiddenBit]

theorem exponent_le {b : Binary64} (h : b.isFinite = true) : b.exponent ≤ 971 := by
  have hfield := (isFinite_iff b).1 h
  unfold exponent
  split <;> omega

/-- Above the smallest unit a significand has its hidden bit. -/
theorem hiddenBit_le_significand {b : Binary64} (h : -1074 < b.exponent) :
    hiddenBit ≤ b.significand := by
  unfold exponent at h
  unfold significand
  split
  · rw [if_pos ‹_›] at h
    omega
  · omega

/-- The field of the magnitude, in terms of exponent and significand. -/
theorem magnitude_eq (b : Binary64) : (b.exponent + 1074).toNat * hiddenBit + b.significand =
    b.exponentField * hiddenBit + b.fractionField := by
  unfold exponent significand
  split
  · simp [*]
  · next hne =>
    have htoNat : ((b.exponentField : Int) - 1075 + 1074).toNat = b.exponentField - 1 := by omega
    obtain ⟨k, hk⟩ := Nat.exists_eq_succ_of_ne_zero hne
    rw [htoNat, hk, Nat.succ_sub_one, Nat.succ_mul, Nat.add_assoc]

theorem eq_ofMagnitude (b : Binary64) :
    b = ofMagnitude b.negative (b.exponentField * hiddenBit + b.fractionField) := by
  have hbits : b.bits.toNat = (if b.negative then signBit else 0) +
      (b.exponentField * hiddenBit + b.fractionField) := by
    have hlt := b.bits.toNat_lt
    simp only [negative, decide_eq_true_eq, exponentField, fractionField]
    unfold signBit hiddenBit
    split <;> omega
  rw [ofMagnitude, ← hbits, UInt64.ofNat_toNat]

/-- A double is built from its sign, its exponent and its significand. -/
theorem ofMagnitude_eq_self (b : Binary64) :
    ofMagnitude b.negative ((b.exponent + 1074).toNat * hiddenBit + b.significand) = b := by
  rw [magnitude_eq, ← eq_ofMagnitude]

theorem magnitude_lt_infinity {b : Binary64} (h : b.isFinite = true) :
    b.exponentField * hiddenBit + b.fractionField < infinityMagnitude := by
  have hfield := (isFinite_iff b).1 h
  have hfraction := b.fractionField_lt
  unfold infinityMagnitude
  unfold hiddenBit at *
  omega

/-! ## Rounding intervals -/

/-- How far the interval reaches below the significand: half a unit, or a quarter where the
neighbour below has the next smaller unit. -/
def gap (b : Binary64) : ℚ := if b.fractionField = 0 ∧ 1 < b.exponentField then 1 / 4 else 1 / 2

def lowEnd (b : Binary64) : ℚ := (b.significand - b.gap) * 2 ^ b.exponent

def highEnd (b : Binary64) : ℚ := (b.significand + 1 / 2) * 2 ^ b.exponent

/-- A value in the rounding interval. -/
structure Attracts (b : Binary64) (x : ℚ) : Prop where
  low : b.lowEnd ≤ x
  high : x ≤ b.highEnd
  /-- The ends of an odd significand go to its neighbours. -/
  inside : b.significand % 2 = 1 → b.lowEnd < x ∧ x < b.highEnd

theorem gap_pos (b : Binary64) : 0 < b.gap := by
  unfold gap
  split <;> norm_num

theorem gap_le (b : Binary64) : b.gap ≤ 1 / 2 := by
  unfold gap
  split <;> norm_num

/-- Above the smallest unit, the neighbour below a power of two is half as far away. -/
theorem gap_of_eq {b : Binary64} (hsignificand : b.significand = hiddenBit)
    (hexponent : -1074 < b.exponent) : b.gap = 1 / 4 := by
  unfold exponent at hexponent
  unfold significand at hsignificand
  split at hexponent
  · omega
  · next hfield =>
    rw [if_neg hfield] at hsignificand
    exact if_pos ⟨by omega, by omega⟩

/-- A double attracts its own value. -/
theorem attracts_value (b : Binary64) : b.Attracts (b.significand * 2 ^ b.exponent) := by
  have hunit : (0 : ℚ) < 2 ^ b.exponent := by positivity
  have hlow : b.lowEnd < b.significand * 2 ^ b.exponent := by
    have := mul_pos b.gap_pos hunit
    unfold lowEnd
    linarith
  have hhigh : (b.significand : ℚ) * 2 ^ b.exponent < b.highEnd := by
    unfold highEnd
    linarith
  exact ⟨hlow.le, hhigh.le, fun _ => ⟨hlow, hhigh⟩⟩

section Bounds
variable {b : Binary64} {x : ℚ}

/-- No double but zero attracts what is below half the smallest unit. -/
theorem Attracts.ge (h : b.Attracts x) (hpos : 0 < b.significand) : 2 ^ (-1075 : Int) ≤ x := by
  have hone : (1 : ℚ) ≤ b.significand := by exact_mod_cast hpos
  have hunit : (2 : ℚ) ^ (-1074 : Int) ≤ 2 ^ b.exponent :=
    zpow_le_zpow_right₀ (by norm_num) b.exponent_ge
  have hhalf : (2 : ℚ) ^ (-1075 : Int) = 1 / 2 * 2 ^ (-1074 : Int) := by
    rw [show (-1074 : Int) = -1075 + 1 by rfl, zpow_add_one₀ (by norm_num)]
    ring
  calc (2 : ℚ) ^ (-1075 : Int) = 1 / 2 * 2 ^ (-1074 : Int) := hhalf
    _ ≤ (b.significand - b.gap) * 2 ^ b.exponent := by
      have hhalf : (1 / 2 : ℚ) ≤ b.significand - b.gap := by linarith [b.gap_le]
      gcongr
    _ ≤ x := h.low

theorem Attracts.pos (h : b.Attracts x) (hpos : 0 < b.significand) : 0 < x :=
  lt_of_lt_of_le (by positivity) (h.ge hpos)

/-- The interval ends before the next power of two. -/
theorem Attracts.lt_unit (h : b.Attracts x) : x < 2 ^ (b.exponent + 53) := by
  have hlt : (b.significand : ℚ) + 1 / 2 < 2 ^ 53 := by
    have : (b.significand : ℚ) ≤ 2 ^ 53 - 1 := by
      have := b.significand_lt
      rw [le_sub_iff_add_le]
      exact_mod_cast this
    linarith
  calc x ≤ (b.significand + 1 / 2) * 2 ^ b.exponent := h.high
    _ < 2 ^ 53 * 2 ^ b.exponent := by gcongr
    _ = 2 ^ (b.exponent + 53) := by
      rw [zpow_add₀ (by norm_num), mul_comm]
      rfl

theorem Attracts.lt_infinity (h : b.Attracts x) (hfinite : b.isFinite = true) :
    x < 2 ^ (1024 : Int) := by
  have hle := exponent_le hfinite
  exact h.lt_unit.trans_le (zpow_le_zpow_right₀ (by norm_num) (by omega))

end Bounds

/-! ## Nearest integers -/

theorem nearest_eq_of_bounds {num den m : Nat} (hden : 0 < den)
    (hlow : 2 * m * den ≤ 2 * num + den) (hhigh : 2 * num ≤ 2 * m * den + den)
    (hinside : m % 2 = 1 → 2 * m * den < 2 * num + den ∧ 2 * num < 2 * m * den + den) :
    nearest num den = m := by
  have hdiv : den * (num / den) + num % den = num := Nat.div_add_mod num den
  have hmod : num % den < den := Nat.mod_lt _ hden
  unfold nearest
  dsimp only
  generalize num / den = q at *
  generalize num % den = r at *
  -- the quotient is the nearest integer or the one below it
  obtain rfl | rfl : m = q ∨ m = q + 1 := by
    have hge : q ≤ m := by nlinarith
    have hle : m ≤ q + 1 := by nlinarith
    omega
  · have : 2 * m * den = 2 * (den * m) := by ring
    split
    · rfl
    · grind
  · have : 2 * (q + 1) * den = 2 * (den * q) + 2 * den := by ring
    split
    · grind
    · grind

/-- The nearest integer is the one at most half away, and of two such the even one. -/
theorem nearest_eq {num den m : Nat} (hden : 0 < den) (hlow : (m : ℚ) - 1 / 2 ≤ num / den)
    (hhigh : (num : ℚ) / den ≤ m + 1 / 2)
    (hinside : m % 2 = 1 → (m : ℚ) - 1 / 2 < num / den ∧ (num : ℚ) / den < m + 1 / 2) :
    nearest num den = m := by
  have hpos : (0 : ℚ) < den := by exact_mod_cast hden
  rw [le_div_iff₀ hpos] at hlow
  rw [div_le_iff₀ hpos] at hhigh
  rw [lt_div_iff₀ hpos, div_lt_iff₀ hpos] at hinside
  refine nearest_eq_of_bounds hden ?_ ?_ fun hodd => ?_
  · have : (2 * m * den : ℚ) ≤ 2 * num + den := by linarith
    exact_mod_cast this
  · have : (2 * num : ℚ) ≤ 2 * m * den + den := by linarith
    exact_mod_cast this
  · obtain ⟨hl, hh⟩ := hinside hodd
    have hl : (2 * m * den : ℚ) < 2 * num + den := by linarith
    have hh : (2 * num : ℚ) < 2 * m * den + den := by linarith
    exact ⟨by exact_mod_cast hl, by exact_mod_cast hh⟩

/-! ## Units -/

theorem inUnits_pos (num : Nat) {den : Nat} (hden : 0 < den) (q : Int) :
    0 < (inUnits num den q).2 := by
  unfold inUnits
  split
  · exact hden
  · rw [Nat.shiftLeft_eq]
    positivity

/-- A ratio measured in units is divided by the unit. -/
theorem inUnits_ratio (num den : Nat) (q : Int) :
    ((inUnits num den q).1 : ℚ) / (inUnits num den q).2 = num / den / 2 ^ q := by
  unfold inUnits
  split
  · obtain ⟨k, rfl⟩ : ∃ k : Nat, q = -(k : Int) := ⟨(-q).toNat, by omega⟩
    simp [Nat.shiftLeft_eq]
    ring
  · obtain ⟨k, rfl⟩ : ∃ k : Nat, q = k := ⟨q.toNat, by omega⟩
    simp [Nat.shiftLeft_eq]
    ring

/-- A number lies between its leading bit and the next. -/
theorem log2_bounds {n : Nat} (h : 0 < n) :
    (2 : ℚ) ^ (n.log2 : Int) ≤ n ∧ (n : ℚ) < 2 ^ ((n.log2 : Int) + 1) := by
  rw [← Nat.cast_succ, zpow_natCast, zpow_natCast]
  exact ⟨by exact_mod_cast Nat.log2_self_le h.ne', by exact_mod_cast Nat.lt_log2_self⟩

/-- The ratio of two numbers lies within a factor of two of the ratio of their leading bits. -/
theorem ratio_bounds {num den : Nat} (hnum : 0 < num) (hden : 0 < den) :
    (2 : ℚ) ^ ((num.log2 : Int) - den.log2 - 1) < num / den ∧
      (num : ℚ) / den < 2 ^ ((num.log2 : Int) - den.log2 + 1) := by
  obtain ⟨hnumLow, hnumHigh⟩ := log2_bounds hnum
  obtain ⟨hdenLow, hdenHigh⟩ := log2_bounds hden
  have hpos : (0 : ℚ) < den := by exact_mod_cast hden
  constructor
  · rw [lt_div_iff₀ hpos]
    calc (2 : ℚ) ^ ((num.log2 : Int) - den.log2 - 1) * den
        < 2 ^ ((num.log2 : Int) - den.log2 - 1) * 2 ^ ((den.log2 : Int) + 1) := by gcongr
      _ = 2 ^ (num.log2 : Int) := by
        rw [← zpow_add₀ (by norm_num)]
        congr 1
        ring
      _ ≤ num := hnumLow
  · rw [div_lt_iff₀ hpos]
    calc (num : ℚ) < 2 ^ ((num.log2 : Int) + 1) := hnumHigh
      _ = 2 ^ ((num.log2 : Int) - den.log2 + 1) * 2 ^ (den.log2 : Int) := by
        rw [← zpow_add₀ (by norm_num)]
        congr 1
        ring
      _ ≤ 2 ^ ((num.log2 : Int) - den.log2 + 1) * den := by gcongr

/-- The unit in which a value is rounded: the value has 53 bits in front of the point, or fewer if
the unit is the smallest. -/
structure UnitOf (q : Int) (x : ℚ) : Prop where
  smallest : -1074 ≤ q
  lt : x < 2 ^ (q + 53)
  ge : q = -1074 ∨ 2 ^ (q + 52) ≤ x

/-- A quotient in units lacks the hidden bit if the value is below it. -/
theorem inUnits_div_lt_iff (num : Nat) {den : Nat} (hden : 0 < den) (q : Int) :
    (inUnits num den q).1 / (inUnits num den q).2 < hiddenBit ↔
      (num : ℚ) / den < 2 ^ (q + 52) := by
  have hpos := inUnits_pos num hden q
  have hpos' : (0 : ℚ) < (inUnits num den q).2 := by exact_mod_cast hpos
  calc (inUnits num den q).1 / (inUnits num den q).2 < hiddenBit
      ↔ ((inUnits num den q).1 : ℚ) / (inUnits num den q).2 < 2 ^ 52 := by
        rw [Nat.div_lt_iff_lt_mul hpos, div_lt_iff₀ hpos']
        norm_cast
    _ ↔ (num : ℚ) / den < 2 ^ (q + 52) := by
        rw [inUnits_ratio, div_lt_iff₀ (by positivity), add_comm q, zpow_add₀ (by norm_num)]
        norm_num

theorem unitOf_unitExponent {num den : Nat} (hnum : 0 < num) (hden : 0 < den) :
    UnitOf (unitExponent num den) (num / den) := by
  obtain ⟨hlow, hhigh⟩ := ratio_bounds hnum hden
  unfold unitExponent
  simp only [inUnits_div_lt_iff num hden]
  split
  · next h =>
    obtain ⟨hlt, hsmallest⟩ := h
    refine ⟨by omega, ?_, Or.inr ?_⟩
    · convert hlt using 2
      ring
    · refine le_trans (zpow_le_zpow_right₀ (by norm_num) ?_) hlow.le
      omega
  · next h =>
    refine ⟨by omega, ?_, ?_⟩
    · refine lt_of_lt_of_le hhigh (zpow_le_zpow_right₀ (by norm_num) ?_)
      omega
    · by_cases hsmallest : max ((num.log2 : Int) - den.log2 - 52) (-1074) = -1074
      · exact Or.inl hsmallest
      · exact Or.inr (le_of_not_gt fun hlt => h ⟨hlt, by omega⟩)

/-! ## Rounding -/

section Rounding
variable {b : Binary64} {x : ℚ} {q : Int}

/-- The unit of a value is no smaller than its size tells. -/
theorem Attracts.exponent_lt (h : b.Attracts x) (hq : UnitOf q x) {bits : Nat}
    (hbits : (2 : ℚ) ^ bits ≤ b.significand - b.gap) : b.exponent + bits < q + 53 := by
  have hlt : (2 : ℚ) ^ (b.exponent + bits) < 2 ^ (q + 53) := by
    calc (2 : ℚ) ^ (b.exponent + bits) = 2 ^ bits * 2 ^ b.exponent := by
          rw [zpow_add₀ (by norm_num), zpow_natCast, mul_comm]
      _ ≤ (b.significand - b.gap) * 2 ^ b.exponent := by gcongr
      _ ≤ x := h.low
      _ < 2 ^ (q + 53) := hq.lt
  exact (zpow_lt_zpow_iff_right₀ (by norm_num)).1 hlt

/-- A value of the interval is rounded in the unit of the double, or in the next smaller one if it
is below a power of two. -/
theorem Attracts.unit_cases (h : b.Attracts x) (hq : UnitOf q x) :
    q = b.exponent ∨ (q = b.exponent - 1 ∧ -1074 < b.exponent ∧ b.significand = hiddenBit) := by
  have hle : q ≤ b.exponent := by
    rcases hq.ge with hq | hq
    · exact hq ▸ b.exponent_ge
    · have := (zpow_lt_zpow_iff_right₀ (by norm_num)).1 (hq.trans_lt h.lt_unit)
      omega
  rcases hle.eq_or_lt with heq | hlt
  · exact Or.inl heq
  have hexponent : -1074 < b.exponent := hq.smallest.trans_lt hlt
  have hhidden := hiddenBit_le_significand hexponent
  have hgap := b.gap_le
  -- with any bit besides the hidden one, the whole interval has 53 bits in the unit of the double
  rcases hhidden.eq_or_lt with heq | hgt
  · have hbits : (2 : ℚ) ^ 51 ≤ b.significand - b.gap := by
      rw [← heq, hiddenBit]
      norm_num
      linarith
    have := h.exponent_lt hq hbits
    exact Or.inr ⟨by omega, hexponent, heq.symm⟩
  · have hbits : (2 : ℚ) ^ 52 ≤ b.significand - b.gap := by
      have : (2 : ℚ) ^ 52 + 1 ≤ b.significand := by exact_mod_cast hgt
      linarith
    have := h.exponent_lt hq hbits
    omega

variable {num den : Nat}

/-- In the unit of the double, the nearest integer is the significand. -/
theorem Attracts.nearest_of_eq (h : b.Attracts (num / den)) (hden : 0 < den) :
    nearest (inUnits num den b.exponent).1 (inUnits num den b.exponent).2 = b.significand := by
  have hunit : (0 : ℚ) < 2 ^ b.exponent := by positivity
  have hgap := b.gap_le
  have hlow := h.low
  have hhigh := h.high
  rw [lowEnd, ← le_div_iff₀ hunit, ← inUnits_ratio] at hlow
  rw [highEnd, ← div_le_iff₀ hunit, ← inUnits_ratio] at hhigh
  refine nearest_eq (inUnits_pos num hden _) (by linarith) hhigh fun hodd => ?_
  obtain ⟨hlow, hhigh⟩ := h.inside hodd
  rw [lowEnd, ← lt_div_iff₀ hunit, ← inUnits_ratio] at hlow
  rw [highEnd, ← div_lt_iff₀ hunit, ← inUnits_ratio] at hhigh
  exact ⟨by linarith, hhigh⟩

/-- In the next smaller unit, the nearest integer is the power of two itself. -/
theorem Attracts.nearest_of_lt (h : b.Attracts (num / den)) (hden : 0 < den)
    (hq : UnitOf (b.exponent - 1) (num / den)) (hexponent : -1074 < b.exponent)
    (hsignificand : b.significand = hiddenBit) :
    nearest (inUnits num den (b.exponent - 1)).1 (inUnits num den (b.exponent - 1)).2 =
      2 * hiddenBit := by
  have hunit : (0 : ℚ) < 2 ^ (b.exponent - 1) := by positivity
  have hdouble : (2 : ℚ) ^ b.exponent = 2 * 2 ^ (b.exponent - 1) := by
    rw [← zpow_one_add₀ (by norm_num)]
    congr 1
    ring
  have hlow : (2 * hiddenBit : ℚ) - 1 / 2 ≤ num / den / 2 ^ (b.exponent - 1) := by
    rw [le_div_iff₀ hunit]
    have := h.low
    rw [lowEnd, hsignificand, gap_of_eq hsignificand hexponent, hdouble] at this
    linarith
  have hhigh : (num : ℚ) / den / 2 ^ (b.exponent - 1) < 2 * hiddenBit := by
    rw [div_lt_iff₀ hunit]
    have := hq.lt
    rw [add_comm, zpow_add₀ (by norm_num)] at this
    exact this.trans_eq (by rw [hiddenBit]; norm_num)
  rw [← inUnits_ratio] at hlow hhigh
  refine nearest_eq (inUnits_pos num hden _) ?_ ?_ fun hodd => ?_
  · push_cast
    exact hlow
  · push_cast
    linarith
  · rw [Nat.mul_mod_right] at hodd
    cases hodd

/-- **What lies in the rounding interval of a double is rounded to it.** -/
theorem ofRatio_of_attracts (hfinite : b.isFinite = true) (hpos : 0 < b.significand)
    (hden : 0 < den) (h : b.Attracts (num / den)) : ofRatio b.negative num den = b := by
  have hnum : num ≠ 0 := by
    rintro rfl
    have := h.pos hpos
    simp at this
  have hq := unitOf_unitExponent (Nat.pos_of_ne_zero hnum) hden
  have hmagnitude : (unitExponent num den + 1074).toNat * hiddenBit +
      nearest (inUnits num den (unitExponent num den)).1
        (inUnits num den (unitExponent num den)).2 =
      (b.exponent + 1074).toNat * hiddenBit + b.significand := by
    rcases h.unit_cases hq with heq | ⟨heq, hexponent, hsignificand⟩
    · rw [heq, h.nearest_of_eq hden]
    · rw [heq] at hq ⊢
      have htoNat : (b.exponent + 1074).toNat = (b.exponent - 1 + 1074).toNat + 1 := by omega
      rw [h.nearest_of_lt hden hq hexponent hsignificand, htoNat, hsignificand]
      ring
  have hbound := magnitude_lt_infinity hfinite
  rw [← magnitude_eq] at hbound
  unfold ofRatio
  rw [if_neg hnum]
  dsimp only
  rw [hmagnitude, Nat.min_eq_right hbound.le, ofMagnitude_eq_self]

end Rounding

/-! ## Decimals -/

theorem two_zpow_three_mul (exponent : Int) : (2 : ℚ) ^ (3 * exponent) = 8 ^ exponent := by
  rw [zpow_mul]
  norm_num

/-- A positive power of ten counts for more than three bits. -/
theorem bits_le_decimal {digits : Nat} {exponent : Int} (hdigits : 0 < digits)
    (hexponent : 0 ≤ exponent) :
    (2 : ℚ) ^ ((digits.log2 : Int) + 3 * exponent) ≤ digits * 10 ^ exponent := by
  have hpower : (8 : ℚ) ^ exponent ≤ 10 ^ exponent :=
    zpow_le_zpow_left₀ hexponent (by norm_num) (by norm_num)
  rw [zpow_add₀ (by norm_num), two_zpow_three_mul]
  exact mul_le_mul (log2_bounds hdigits).1 hpower (by positivity) (by positivity)

/-- A negative power of ten counts for less than three bits. -/
theorem decimal_lt_bits {digits : Nat} {exponent : Int} (hdigits : 0 < digits)
    (hexponent : exponent ≤ 0) :
    (digits : ℚ) * 10 ^ exponent < 2 ^ ((digits.log2 : Int) + 1 + 3 * exponent) := by
  have hpower : (10 : ℚ) ^ exponent ≤ 8 ^ exponent := by
    obtain ⟨k, rfl⟩ := Int.exists_eq_neg_ofNat hexponent
    rw [zpow_neg, zpow_neg]
    have hle : (8 : ℚ) ^ (k : Int) ≤ 10 ^ (k : Int) :=
      zpow_le_zpow_left₀ (by omega) (by norm_num) (by norm_num)
    gcongr
  rw [zpow_add₀ (by norm_num), two_zpow_three_mul]
  exact mul_lt_mul (log2_bounds hdigits).2 hpower (by positivity) (by positivity)

/-- The decimal that a double attracts is read as that double. -/
theorem ofDecimal_of_attracts {b : Binary64} {digits : Nat} {exponent : Int}
    (hfinite : b.isFinite = true) (hpos : 0 < b.significand)
    (h : b.Attracts (digits * 10 ^ exponent)) :
    ofDecimal b.negative digits exponent = b := by
  have hdigits : 0 < digits := by
    refine Nat.pos_of_ne_zero ?_
    rintro rfl
    have := h.pos hpos
    simp at this
  have hnotInfinite : ¬ (310 < exponent ∧ 0 < (digits.log2 : Int) + 3 * exponent - 1024) := by
    rintro ⟨hexponent, hbits⟩
    have hlt := (bits_le_decimal hdigits (by omega)).trans_lt (h.lt_infinity hfinite)
    have := (zpow_lt_zpow_iff_right₀ (by norm_num)).1 hlt
    omega
  have hnotZero : ¬ (exponent < -400 ∧ (digits.log2 : Int) + 3 * exponent < -1100) := by
    rintro ⟨hexponent, hbits⟩
    have hlt := (h.ge hpos).trans_lt (decimal_lt_bits hdigits (by omega))
    have := (zpow_lt_zpow_iff_right₀ (by norm_num)).1 hlt
    omega
  unfold ofDecimal
  rw [if_neg hdigits.ne']
  dsimp only
  rw [if_neg hnotInfinite, if_neg hnotZero]
  split
  · obtain ⟨k, rfl⟩ : ∃ k : Nat, exponent = -(k : Int) := ⟨(-exponent).toNat, by omega⟩
    refine ofRatio_of_attracts hfinite hpos (Nat.pow_pos (by decide)) ?_
    rw [zpow_neg, zpow_natCast, ← div_eq_mul_inv] at h
    rw [neg_neg, Int.toNat_natCast]
    exact_mod_cast h
  · obtain ⟨k, rfl⟩ : ∃ k : Nat, exponent = k := ⟨exponent.toNat, by omega⟩
    refine ofRatio_of_attracts hfinite hpos Nat.one_pos ?_
    rw [zpow_natCast] at h
    rw [Nat.cast_one, div_one]
    exact_mod_cast h

/-! ## Integers -/

theorem ofDecimal_integer (neg : Bool) (n : Nat) : ofDecimal neg n 0 = ofRatio neg n 1 := by
  unfold ofDecimal
  split
  · next hzero => rw [hzero, ofRatio, if_pos rfl]
  · simp

/-- The integer part of an integral value is the value. -/
theorem truncate_of_isIntegral {b : Binary64} (h : b.isIntegral = true) :
    ∃ m : Nat, b.truncate = (if b.negative then -(m : Int) else m) ∧
      (m : ℚ) = b.significand * 2 ^ b.exponent := by
  refine ⟨_, rfl, ?_⟩
  split
  · next hexponent =>
    obtain ⟨k, hk⟩ : ∃ k : Nat, b.exponent = -(k : Int) := ⟨(-b.exponent).toNat, by omega⟩
    have hmod : b.significand % 1 <<< (-b.exponent).toNat = 0 := by
      simpa [isIntegral, not_le.2 hexponent] using (Bool.and_eq_true_iff.1 h).2
    rw [hk, neg_neg, Int.toNat_natCast] at hmod ⊢
    rw [Nat.one_shiftLeft] at hmod
    obtain ⟨m, hm⟩ := Nat.dvd_of_mod_eq_zero hmod
    rw [hm, Nat.shiftRight_eq_div_pow, Nat.mul_div_cancel_left m (by positivity)]
    simp
    field_simp
  · next hexponent =>
    obtain ⟨k, hk⟩ := Int.eq_ofNat_of_zero_le (not_lt.1 hexponent)
    simp [hk, Nat.shiftLeft_eq]

theorem toInt?_of_isZero {b : Binary64} (h : b.isZero = true) : b.toInt? = some 0 := by
  have hsignificand := (isZero_iff b).1 h
  have hfinite : b.isFinite = true := by
    have hfield : b.exponentField = 0 := by
      simp only [isZero, Bool.and_eq_true, beq_iff_eq] at h
      exact h.1
    rw [isFinite_iff, hfield]
    decide
  simp [toInt?, isIntegral, truncate, hfinite, hsignificand]

/-- An integral double is the one nearest to its value. -/
theorem ofInt_truncate {b : Binary64} (h : b.isIntegral = true) (hpos : 0 < b.significand) :
    ofInt b.truncate = b := by
  have hfinite : b.isFinite = true := (Bool.and_eq_true_iff.1 h).1
  obtain ⟨m, hm, hvalue⟩ := truncate_of_isIntegral h
  have hmpos : 0 < m := by
    have : (0 : ℚ) < m := by
      rw [hvalue]
      positivity
    exact_mod_cast this
  have hnatAbs : b.truncate.natAbs = m := by
    rw [hm]
    split <;> omega
  have hnegative : decide (b.truncate < 0) = b.negative := by
    rw [hm]
    cases b.negative with
    | true => simpa using hmpos
    | false => simp
  rw [ofInt, hnegative, hnatAbs]
  refine ofRatio_of_attracts hfinite hpos Nat.one_pos ?_
  rw [Nat.cast_one, div_one, hvalue]
  exact b.attracts_value

/-- An integral double equals its value read as a double; a zero may have the other sign. -/
theorem equals_ofInt {b : Binary64} {i : Int} (h : b.toInt? = some i) :
    b.equals (ofInt i) = true := by
  have hintegral : b.isIntegral = true := by
    unfold toInt? at h
    split at h
    · assumption
    · cases h
  have hnotNaN := isNaN_of_isFinite (Bool.and_eq_true_iff.1 hintegral).1
  rcases Nat.eq_zero_or_pos b.significand with hzero | hpos
  · have hisZero : b.isZero = true := b.isZero_iff.2 hzero
    rw [toInt?_of_isZero hisZero] at h
    cases h
    have hofInt : (ofInt 0).isZero = true := by decide
    simp [equals, hnotNaN, isNaN_ofInt, hisZero, hofInt]
  · rw [toInt?, if_pos hintegral] at h
    cases h
    rw [ofInt_truncate hintegral hpos]
    exact (equals_self_iff b).2 hnotNaN

end Switchboard.Binary64
