import Switchboard.Proofs.Rounding

/-!
# The shortest digits of a double

The search for the shortest digits keeps the rounding interval over one denominator and measures it
in units of each grid. Measured back, it is the interval of `Switchboard.Proofs.Rounding`, so what
the search finds is rounded to the same double (`ofDecimal_of_attracts`):

    (b.interval.inUnits g).holds c = true    b.Attracts (c · 10^g)
    (stripZeros n d).value = d.value
    0 < b.significand                        b.Attracts (b.shortest tie).value
-/

namespace Switchboard

/-- The number that a decimal stands for. -/
def Decimal.value (d : Decimal) : ℚ := d.digits * 10 ^ d.exponent

namespace Binary64

/-! ## Units of an interval -/

section Units
variable {i : Interval} (g : Int)

theorem Interval.denominator_inUnits_pos (h : 0 < i.denominator) :
    0 < (i.inUnits g).denominator := by
  unfold Interval.inUnits
  split
  · exact Nat.mul_pos h (Nat.pow_pos (by decide))
  · exact h

/-- Measured in units, the ends are divided by the unit. -/
theorem Interval.ends_inUnits :
    ((i.inUnits g).low : ℚ) / (i.inUnits g).denominator = i.low / i.denominator / 10 ^ g ∧
      ((i.inUnits g).high : ℚ) / (i.inUnits g).denominator = i.high / i.denominator / 10 ^ g := by
  unfold Interval.inUnits
  split
  · obtain ⟨k, rfl⟩ : ∃ k : Nat, g = k := ⟨g.toNat, by omega⟩
    simp [div_div]
  · obtain ⟨k, rfl⟩ : ∃ k : Nat, g = -(k : Int) := ⟨(-g).toNat, by omega⟩
    simp [mul_div_right_comm]

theorem Interval.closed_inUnits : (i.inUnits g).closed = i.closed := by
  unfold Interval.inUnits
  split <;> rfl

end Units

/-- An interval holds the integers between its ends, and the ends themselves if it is closed. -/
theorem Interval.holds_iff {i : Interval} {c : Nat} (h : 0 < i.denominator) :
    i.holds c = true ↔
      if i.closed then (i.low : ℚ) / i.denominator ≤ c ∧ (c : ℚ) ≤ i.high / i.denominator
      else (i.low : ℚ) / i.denominator < c ∧ (c : ℚ) < i.high / i.denominator := by
  have hpos : (0 : ℚ) < i.denominator := by exact_mod_cast h
  rw [div_le_iff₀ hpos, le_div_iff₀ hpos, div_lt_iff₀ hpos, lt_div_iff₀ hpos]
  unfold Interval.holds
  cases i.closed with
  | true => simp; norm_cast
  | false => simp; norm_cast

/-! ## The interval of a double -/

theorem denominator_interval_pos (b : Binary64) : 0 < b.interval.denominator := by
  unfold interval
  dsimp only
  rw [Nat.one_shiftLeft]
  positivity

/-- Scale and denominator of the interval make a quarter of the unit. -/
theorem scale_div_denominator (q : Int) :
    ((1 <<< q.toNat : Nat) : ℚ) / (1 <<< (-q).toNat : Nat) = 2 ^ q := by
  rw [Nat.one_shiftLeft, Nat.one_shiftLeft]
  rcases Int.le_total 0 q with hq | hq
  · obtain ⟨k, rfl⟩ := Int.eq_ofNat_of_zero_le hq
    simp
  · obtain ⟨k, rfl⟩ := Int.exists_eq_neg_ofNat hq
    simp

theorem quarter_unit (b : Binary64) : (2 : ℚ) ^ (b.exponent - 2) = 2 ^ b.exponent / 4 := by
  rw [zpow_sub₀ (by norm_num)]
  norm_num

theorem low_interval {b : Binary64} (h : 0 < b.significand) :
    (b.interval.low : ℚ) / b.interval.denominator = b.lowEnd := by
  have hsub : ∀ below : Nat, below ≤ 2 →
      (((4 * b.significand - below : Nat) : ℚ) = 4 * b.significand - below) := by
    intro below hbelow
    rw [Nat.cast_sub (by omega)]
    push_cast
    rfl
  unfold interval lowEnd gap
  dsimp only
  rw [Nat.cast_mul, mul_div_assoc, scale_div_denominator, quarter_unit]
  split
  · rw [hsub 1 (by decide)]
    push_cast
    ring
  · rw [hsub 2 (by decide)]
    push_cast
    ring

theorem high_interval (b : Binary64) :
    (b.interval.high : ℚ) / b.interval.denominator = b.highEnd := by
  unfold interval highEnd
  dsimp only
  rw [Nat.cast_mul, mul_div_assoc, scale_div_denominator, quarter_unit]
  push_cast
  ring

/-- A decimal in the rounding interval is attracted. -/
theorem attracts_of_readsBack {b : Binary64} {d : Decimal} (hpos : 0 < b.significand)
    (h : b.readsBack d = true) : b.Attracts d.value := by
  have hpower : (0 : ℚ) < 10 ^ d.exponent := by positivity
  rw [readsBack, Interval.holds_iff (Interval.denominator_inUnits_pos _ b.denominator_interval_pos),
    Interval.closed_inUnits, (Interval.ends_inUnits _).1, (Interval.ends_inUnits _).2,
    low_interval hpos, high_interval, div_le_iff₀ hpower, le_div_iff₀ hpower, div_lt_iff₀ hpower,
    lt_div_iff₀ hpower] at h
  split at h
  · next heven =>
    refine ⟨h.1, h.2, fun hodd => ?_⟩
    have : b.significand % 2 = 0 := by simpa [interval] using heven
    omega
  · exact ⟨h.1.le, h.2.le, fun _ => h⟩

/-! ## The shortest decimal -/

/-- Zeros at the end of the digits go into the exponent, and the number stays the same. -/
theorem stripZeros_value (n : Nat) (d : Decimal) : (stripZeros n d).value = d.value := by
  induction n generalizing d with
  | zero => rfl
  | succ n ih =>
    unfold stripZeros
    split
    · next h =>
      rw [ih, Decimal.value, Decimal.value]
      obtain ⟨k, hk⟩ := Nat.dvd_of_mod_eq_zero h.2
      rw [hk, Nat.mul_div_cancel_left k (by decide), zpow_add_one₀ (by norm_num)]
      push_cast
      ring
    · rfl

/-- Where the search ends without a result, the digits are those of the value itself. -/
theorem exact_value (b : Binary64) :
    (if 0 ≤ b.exponent then (⟨b.significand <<< b.exponent.toNat, 0⟩ : Decimal)
      else ⟨b.significand * Nat.pow 5 (-b.exponent).toNat, b.exponent⟩).value =
      b.significand * 2 ^ b.exponent := by
  split
  · next h =>
    obtain ⟨k, hk⟩ := Int.eq_ofNat_of_zero_le h
    simp [Decimal.value, hk, Nat.shiftLeft_eq]
  · next h =>
    obtain ⟨k, hk⟩ : ∃ k : Nat, b.exponent = -(k : Int) := ⟨(-b.exponent).toNat, by omega⟩
    have hten : (10 : ℚ) ^ k = 5 ^ k * 2 ^ k := by
      rw [← mul_pow]
      norm_num
    simp [Decimal.value, hk, hten]
    field_simp

/-- **The shortest decimal of a double lies in its rounding interval.** -/
theorem attracts_shortest {b : Binary64} (tie : Tie) (hpos : 0 < b.significand) :
    b.Attracts (b.shortest tie).value := by
  unfold shortest
  split
  · next d hd =>
    rw [stripZeros_value]
    exact attracts_of_readsBack hpos (Interval.holds_of_search 20 hd)
  · rw [exact_value]
    exact b.attracts_value

end Binary64

end Switchboard
