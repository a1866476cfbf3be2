import Switchboard.Proofs.Rounding

/-!
# Nearest doubles

A finite double stands for a number, and a decimal is rounded to the double that stands for the
number nearest to it:

    b.value             ± significand · 2^exponent
    b.IsNearest x       b is finite, and |x - b.value| ≤ |x - c.value| for every finite c

    (ofDecimal negative digits exponent).IsNearest (± digits · 10^exponent)     if it is finite

Rounding takes the nearest integer in some unit. Doubles of a larger unit are integers in it as
well; those of a smaller one lie below `2^52` units, which is an integer in it, and the value lies
above.
-/

namespace Switchboard

/-- A number with a sign. -/
def signed (negative : Bool) (x : ℚ) : ℚ := if negative then -x else x

namespace Binary64

/-- The number that a finite double stands for, without its sign. -/
def size (b : Binary64) : ℚ := b.significand * 2 ^ b.exponent

/-- The number that a finite double stands for. -/
def value (b : Binary64) : ℚ := signed b.negative b.size

/-- A finite double such that no other is nearer to a number. -/
structure IsNearest (b : Binary64) (x : ℚ) : Prop where
  finite : b.isFinite = true
  le : ∀ c : Binary64, c.isFinite = true → |x - b.value| ≤ |x - c.value|

/-- What a double stands for is not rounded. -/
theorem IsNearest.exact {b c : Binary64} {x : ℚ} (h : b.IsNearest x) (hfinite : c.isFinite = true)
    (hc : c.value = x) : b.value = x := by
  have hle := h.le c hfinite
  rw [hc, sub_self, abs_zero, abs_nonpos_iff, sub_eq_zero] at hle
  exact hle.symm

theorem size_nonneg (b : Binary64) : 0 ≤ b.size := by
  unfold size
  positivity

/-! ## Nearest integers -/

/-- The nearest integer is at most half away. -/
theorem nearest_within (num : Nat) {den : Nat} (hden : 0 < den) :
    |(num : ℚ) / den - nearest num den| ≤ 1 / 2 := by
  have hpos : (0 : ℚ) < den := by exact_mod_cast hden
  have hdiv : den * (num / den) + num % den = num := Nat.div_add_mod num den
  have hmod : num % den < den := Nat.mod_lt num hden
  have hbounds : 2 * num ≤ 2 * (den * nearest num den) + den ∧
      2 * (den * nearest num den) ≤ 2 * num + den := by
    unfold nearest
    dsimp only
    generalize num / den = q at *
    generalize num % den = r at *
    have hnext : den * (q + 1) = den * q + den := Nat.mul_succ den q
    split
    · omega
    · split
      · rw [hnext]
        omega
      · split
        · omega
        · rw [hnext]
          omega
  obtain ⟨hlow, hhigh⟩ := hbounds
  have hlow : (2 * num : ℚ) ≤ 2 * (den * nearest num den) + den := by exact_mod_cast hlow
  have hhigh : (2 * (den * nearest num den) : ℚ) ≤ 2 * num + den := by exact_mod_cast hhigh
  rw [abs_le, le_sub_iff_add_le, sub_le_iff_le_add, le_div_iff₀ hpos, div_le_iff₀ hpos]
  constructor
  · linarith
  · linarith

/-- No integer is nearer. -/
theorem nearest_nearest (num : Nat) {den : Nat} (hden : 0 < den) (k : Nat) :
    |(num : ℚ) / den - nearest num den| ≤ |(num : ℚ) / den - k| := by
  have hwithin := nearest_within num hden
  rcases eq_or_ne (nearest num den) k with heq | hne
  · rw [heq]
  · have hone : (1 : ℚ) ≤ |(nearest num den : ℚ) - k| := by
      have : (1 : Int) ≤ |(nearest num den : Int) - k| := Int.one_le_abs (by omega)
      exact_mod_cast this
    have htriangle := abs_sub_le (nearest num den : ℚ) (num / den) k
    rw [abs_sub_comm (nearest num den : ℚ) (num / den)] at htriangle
    linarith

theorem le_nearest {num den k : Nat} (hden : 0 < den) (h : (k : ℚ) ≤ num / den) :
    k ≤ nearest num den := by
  have hnearest := nearest_nearest num hden k
  rw [abs_of_nonneg (sub_nonneg.2 h)] at hnearest
  have hle := (le_abs_self _).trans hnearest
  have : (k : ℚ) ≤ nearest num den := by linarith
  exact_mod_cast this

theorem nearest_le {num den k : Nat} (hden : 0 < den) (h : (num : ℚ) / den ≤ k) :
    nearest num den ≤ k := by
  have hnearest := nearest_nearest num hden k
  rw [abs_of_nonpos (sub_nonpos.2 h)] at hnearest
  have hle := (neg_le_abs _).trans hnearest
  have : (nearest num den : ℚ) ≤ k := by linarith
  exact_mod_cast this

/-! ## Fields of a rounded value -/

/-- A double is finite exactly below the magnitude of the infinities. -/
theorem isFinite_ofMagnitude (neg : Bool) {m : Nat} (h : m ≤ infinityMagnitude) :
    (ofMagnitude neg m).isFinite = true ↔ m < infinityMagnitude := by
  have hlt : m < signBit := by
    unfold infinityMagnitude hiddenBit at h
    unfold signBit
    omega
  rw [isFinite_iff, exponentField_ofMagnitude neg hlt]
  unfold infinityMagnitude hiddenBit at *
  omega

theorem negative_ofMagnitude (neg : Bool) {m : Nat} (h : m < signBit) :
    (ofMagnitude neg m).negative = neg := by
  rw [negative, toNat_bits_ofMagnitude neg h]
  cases neg with
  | true => simp
  | false => simpa using h

theorem size_ofMagnitude_subnormal (neg : Bool) {m : Nat} (h : m < hiddenBit) :
    (ofMagnitude neg m).size = m * 2 ^ (-1074 : Int) := by
  have hlt : m < signBit := by
    unfold hiddenBit at h
    unfold signBit
    omega
  rw [size, significand, exponent, exponentField_ofMagnitude neg hlt,
    fractionField_ofMagnitude neg hlt, Nat.div_eq_of_lt h, Nat.mod_eq_of_lt h, if_pos rfl,
    if_pos rfl]

theorem size_zero (neg : Bool) : (ofMagnitude neg 0).size = 0 := by
  rw [size_ofMagnitude_subnormal neg (by decide), Nat.cast_zero, zero_mul]

theorem size_ofMagnitude_normal (neg : Bool) {field fraction : Nat} (hfield : 0 < field)
    (hfraction : fraction < hiddenBit) (hlt : field * hiddenBit + fraction < signBit) :
    (ofMagnitude neg (field * hiddenBit + fraction)).size =
      (hiddenBit + fraction : Nat) * 2 ^ ((field : Int) - 1075) := by
  have hdiv : (field * hiddenBit + fraction) / hiddenBit = field := by
    unfold hiddenBit at *
    omega
  have hmod : (field * hiddenBit + fraction) % hiddenBit = fraction := by
    unfold hiddenBit at *
    omega
  rw [size, significand, exponent, exponentField_ofMagnitude neg hlt,
    fractionField_ofMagnitude neg hlt, hdiv, hmod, if_neg hfield.ne', if_neg hfield.ne']

/-- A magnitude made of a unit and a number of units stands for that many units. A number of `2^53`
units carries over into the exponent. -/
theorem size_ofMagnitude (neg : Bool) {unit m : Nat} (hlow : unit = 0 ∨ hiddenBit ≤ m)
    (hhigh : m ≤ 2 * hiddenBit) (hlt : unit * hiddenBit + m < signBit) :
    (ofMagnitude neg (unit * hiddenBit + m)).size = m * 2 ^ ((unit : Int) - 1074) := by
  rcases Nat.lt_or_ge m hiddenBit with hsub | hge
  · -- without the hidden bit the unit is the smallest
    obtain rfl : unit = 0 := by omega
    rw [Nat.zero_mul, Nat.zero_add, size_ofMagnitude_subnormal neg hsub]
    rfl
  · rcases hhigh.lt_or_eq with hnormal | rfl
    · have hfields : unit * hiddenBit + m = (unit + 1) * hiddenBit + (m - hiddenBit) := by
        unfold hiddenBit at *
        omega
      rw [hfields] at hlt ⊢
      have hexponent : ((unit + 1 : Nat) : Int) - 1075 = (unit : Int) - 1074 := by omega
      rw [size_ofMagnitude_normal neg (Nat.succ_pos _) (by omega) hlt, hexponent,
        Nat.add_sub_cancel' hge]
    · have hfields : unit * hiddenBit + 2 * hiddenBit = (unit + 2) * hiddenBit + 0 := by ring
      rw [hfields] at hlt ⊢
      rw [size_ofMagnitude_normal neg (Nat.succ_pos _) (by decide) hlt]
      have hexponent : ((unit + 2 : Nat) : Int) - 1075 = (unit : Int) - 1074 + 1 := by omega
      rw [hexponent, zpow_add_one₀ (by norm_num)]
      push_cast
      ring

/-! ## Rounded ratios -/

section Ratios

variable {num den : Nat} {q : Int}

/-- How many units a ratio is rounded to. -/
def units (num den : Nat) (q : Int) : Nat :=
  nearest (inUnits num den q).1 (inUnits num den q).2

/-- No other number of units is nearer to the ratio. -/
theorem units_nearest (num : Nat) (hden : 0 < den) (q : Int) (k : Nat) :
    |(num : ℚ) / den - units num den q * 2 ^ q| ≤ |(num : ℚ) / den - k * 2 ^ q| := by
  have hunit : (0 : ℚ) < 2 ^ q := by positivity
  have hscaled : ∀ y : ℚ, |(num : ℚ) / den - y * 2 ^ q| =
      |((inUnits num den q).1 : ℚ) / (inUnits num den q).2 - y| * 2 ^ q := by
    intro y
    rw [inUnits_ratio, ← abs_of_pos hunit, ← abs_mul, abs_of_pos hunit, sub_mul,
      div_mul_cancel₀ _ hunit.ne']
  rw [hscaled, hscaled]
  exact mul_le_mul_of_nonneg_right (nearest_nearest _ (inUnits_pos num hden q) k) hunit.le

/-- The number of units has 53 bits or is the next power of two, unless the unit is the smallest. -/
theorem UnitOf.units_bounds (h : UnitOf q (num / den)) (hden : 0 < den) :
    (q = -1074 ∨ hiddenBit ≤ units num den q) ∧ units num den q ≤ 2 * hiddenBit := by
  have hunit : (0 : ℚ) < 2 ^ q := by positivity
  have hpos := inUnits_pos num hden q
  constructor
  · refine h.ge.imp_right fun hge => le_nearest hpos ?_
    rw [inUnits_ratio, le_div_iff₀ hunit]
    rw [add_comm, zpow_add₀ (by norm_num)] at hge
    exact_mod_cast hge
  · refine nearest_le hpos ?_
    have hlt := h.lt
    rw [add_comm, zpow_add₀ (by norm_num)] at hlt
    rw [inUnits_ratio, div_le_iff₀ hunit]
    exact_mod_cast hlt.le

/-- A rounded ratio stands for the units it is rounded to. -/
theorem size_ofRatio (neg : Bool) (hnum : 0 < num) (hden : 0 < den)
    (hfinite : (ofRatio neg num den).isFinite = true) :
    (ofRatio neg num den).size =
      units num den (unitExponent num den) * 2 ^ unitExponent num den := by
  have hq := unitOf_unitExponent hnum hden
  obtain ⟨hlow, hhigh⟩ := hq.units_bounds hden
  have hsmallest := hq.smallest
  unfold ofRatio at hfinite ⊢
  rw [if_neg hnum.ne'] at hfinite ⊢
  dsimp only at hfinite ⊢
  have hbound := (isFinite_ofMagnitude neg (Nat.min_le_left _ _)).1 hfinite
  have hlt := (min_lt_iff.1 hbound).resolve_left (lt_irrefl _)
  rw [Nat.min_eq_right hlt.le]
  have hsize := size_ofMagnitude neg (hlow.imp_left fun h => by omega) hhigh
    (hlt.trans (by decide : infinityMagnitude < signBit))
  rw [Int.toNat_of_nonneg (by omega), add_sub_cancel_right] at hsize
  exact hsize

/-! ## Nearest sizes -/

/-- Between the powers of two a double of a smaller unit stands for less. -/
theorem size_lt_of_exponent_lt {b : Binary64} (h : b.exponent < q) : b.size < 2 ^ (q + 52) := by
  have hlt : (b.significand : ℚ) < 2 ^ 53 := by exact_mod_cast b.significand_lt
  calc b.size = b.significand * 2 ^ b.exponent := rfl
    _ < 2 ^ 53 * 2 ^ b.exponent := by gcongr
    _ = 2 ^ (b.exponent + 53) := by
      rw [zpow_add₀ (by norm_num), mul_comm]
      rfl
    _ ≤ 2 ^ (q + 52) := zpow_le_zpow_right₀ (by norm_num) (by omega)

/-- A double of no smaller unit stands for a whole number of units. -/
theorem exists_size_eq {b : Binary64} (h : q ≤ b.exponent) :
    ∃ k : Nat, b.size = k * 2 ^ q := by
  obtain ⟨j, hj⟩ := Int.eq_ofNat_of_zero_le (sub_nonneg.2 h)
  refine ⟨b.significand * 2 ^ j, ?_⟩
  rw [size, show b.exponent = j + q by omega, zpow_add₀ (by norm_num)]
  push_cast
  rw [zpow_natCast]
  ring

/-- No size of a double is nearer to a ratio than that of the double it is rounded to. -/
theorem size_nearest (neg : Bool) (hden : 0 < den)
    (hfinite : (ofRatio neg num den).isFinite = true) (b : Binary64) :
    |(num : ℚ) / den - (ofRatio neg num den).size| ≤ |(num : ℚ) / den - b.size| := by
  rcases Nat.eq_zero_or_pos num with rfl | hnum
  · rw [ofRatio, if_pos rfl, size_zero]
    simp
  have hq := unitOf_unitExponent hnum hden
  rw [size_ofRatio neg hnum hden hfinite]
  generalize unitExponent num den = q at *
  rcases le_or_gt q b.exponent with hge | hlt
  · obtain ⟨k, hk⟩ := exists_size_eq hge
    rw [hk]
    exact units_nearest num hden q k
  · -- the value has its 53 bits, and `2^52` units lie between it and the double
    have hsize := size_lt_of_exponent_lt hlt
    have hge : (2 : ℚ) ^ (q + 52) ≤ num / den := by
      refine hq.ge.resolve_left ?_
      have := b.exponent_ge
      omega
    have hpower : ((2 ^ 52 : Nat) : ℚ) * 2 ^ q = 2 ^ (q + 52) := by
      rw [zpow_add₀ (by norm_num), mul_comm]
      norm_cast
    have hunits := units_nearest num hden q (2 ^ 52)
    rw [hpower, abs_of_nonneg (sub_nonneg.2 hge)] at hunits
    rw [abs_of_nonneg (show 0 ≤ (num : ℚ) / den - b.size by linarith)]
    linarith

end Ratios

/-! ## Decimals -/

/-- What is below half the smallest unit is nearest to zero. -/
theorem zero_nearest {x : ℚ} (hx : 0 ≤ x) (hsmall : x ≤ 2 ^ (-1075 : Int)) (b : Binary64) :
    |x - 0| ≤ |x - b.size| := by
  rw [sub_zero, abs_of_nonneg hx]
  rcases Nat.eq_zero_or_pos b.significand with hzero | hpos
  · rw [size, hzero, Nat.cast_zero, zero_mul, sub_zero]
    exact le_abs_self x
  · have hone : (1 : ℚ) ≤ b.significand := by exact_mod_cast hpos
    have hunit : (2 : ℚ) ^ (-1074 : Int) ≤ 2 ^ b.exponent :=
      zpow_le_zpow_right₀ (by norm_num) b.exponent_ge
    have hdouble : (2 : ℚ) ^ (-1074 : Int) = 2 * 2 ^ (-1075 : Int) := by
      rw [← zpow_one_add₀ (by norm_num)]
      norm_num
    have hsize : 2 * 2 ^ (-1075 : Int) ≤ b.size := by
      calc (2 : ℚ) * 2 ^ (-1075 : Int) = 1 * 2 ^ (-1074 : Int) := by rw [hdouble, one_mul]
        _ ≤ b.significand * 2 ^ b.exponent := by gcongr
    rw [abs_sub_comm]
    exact le_abs.2 (.inl (by linarith))

/-- A decimal is rounded to an infinity or to a zero, or as the ratio that it is. -/
theorem ofDecimal_cases (neg : Bool) (digits : Nat) (exponent : Int) :
    ofDecimal neg digits exponent = infinity neg ∨
    (ofDecimal neg digits exponent = ofMagnitude neg 0 ∧
      (digits : ℚ) * 10 ^ exponent ≤ 2 ^ (-1075 : Int)) ∨
    ∃ num den : Nat, 0 < den ∧ (num : ℚ) / den = digits * 10 ^ exponent ∧
      ofDecimal neg digits exponent = ofRatio neg num den := by
  unfold ofDecimal
  split
  · next hzero =>
    refine .inr (.inl ⟨rfl, ?_⟩)
    rw [hzero, Nat.cast_zero, zero_mul]
    positivity
  next hdigits =>
  dsimp only
  split
  · exact .inl rfl
  split
  · next hsmall =>
    obtain ⟨hexponent, hbits⟩ := hsmall
    refine .inr (.inl ⟨rfl, ?_⟩)
    have hlt := decimal_lt_bits (Nat.pos_of_ne_zero hdigits) (show exponent ≤ 0 by omega)
    exact hlt.le.trans (zpow_le_zpow_right₀ (by norm_num) (by omega))
  split
  · obtain ⟨k, rfl⟩ : ∃ k : Nat, exponent = -(k : Int) := ⟨(-exponent).toNat, by omega⟩
    rw [neg_neg, Int.toNat_natCast]
    refine .inr (.inr ⟨_, _, Nat.pow_pos (by decide), ?_, rfl⟩)
    rw [zpow_neg, zpow_natCast, ← div_eq_mul_inv]
    norm_cast
  · obtain ⟨k, rfl⟩ : ∃ k : Nat, exponent = k := ⟨exponent.toNat, by omega⟩
    refine .inr (.inr ⟨_, _, Nat.one_pos, ?_, rfl⟩)
    rw [Nat.cast_one, div_one, zpow_natCast]
    norm_cast

/-- No size of a double is nearer to a decimal than that of the double it is rounded to. -/
theorem size_nearest_ofDecimal {neg : Bool} {digits : Nat} {exponent : Int}
    (hfinite : (ofDecimal neg digits exponent).isFinite = true) (b : Binary64) :
    |(digits : ℚ) * 10 ^ exponent - (ofDecimal neg digits exponent).size| ≤
      |(digits : ℚ) * 10 ^ exponent - b.size| := by
  rcases ofDecimal_cases neg digits exponent with h | ⟨h, hsmall⟩ | ⟨num, den, hden, hvalue, h⟩
  · rw [h, infinity, isFinite_ofMagnitude neg (le_refl _)] at hfinite
    exact absurd hfinite (lt_irrefl _)
  · rw [h, size_zero]
    exact zero_nearest (by positivity) hsmall b
  · rw [h] at hfinite ⊢
    rw [← hvalue]
    exact size_nearest neg hden hfinite b

/-! ## Signs -/

theorem negative_ofRatio (neg : Bool) (num den : Nat) : (ofRatio neg num den).negative = neg := by
  unfold ofRatio
  split
  · exact negative_ofMagnitude neg (by decide)
  · exact negative_ofMagnitude neg ((Nat.min_le_left _ _).trans_lt (by decide))

theorem negative_ofDecimal (neg : Bool) (digits : Nat) (exponent : Int) :
    (ofDecimal neg digits exponent).negative = neg := by
  rcases ofDecimal_cases neg digits exponent with h | ⟨h, -⟩ | ⟨num, den, -, -, h⟩
  · rw [h]
    exact negative_ofMagnitude neg (by decide)
  · rw [h]
    exact negative_ofMagnitude neg (by decide)
  · rw [h]
    exact negative_ofRatio neg num den

/-- The nearest of the sizes has the nearest value, if it is given the sign of the number: a value
of the other sign is no nearer than zero. -/
theorem signed_nearest (neg : Bool) {x y : ℚ} (hx : 0 ≤ x)
    (h : ∀ b : Binary64, |x - y| ≤ |x - b.size|) (b : Binary64) :
    |signed neg x - signed neg y| ≤ |signed neg x - b.value| := by
  have hsame : ∀ z, |signed neg x - signed neg z| = |x - z| := by
    intro z
    cases neg with
    | false => rfl
    | true =>
      show |-x - -z| = |x - z|
      rw [neg_sub_neg, abs_sub_comm]
  rw [hsame]
  rcases Bool.eq_or_eq_not b.negative neg with hsign | hsign
  · rw [value, hsign, hsame]
    exact h b
  · have hother : |signed neg x - b.value| = x + b.size := by
      rw [value, hsign]
      cases neg with
      | false =>
        show |x - -b.size| = x + b.size
        rw [sub_neg_eq_add, abs_of_nonneg (add_nonneg hx b.size_nonneg)]
      | true =>
        show |-x - b.size| = x + b.size
        rw [← neg_add', abs_neg, abs_of_nonneg (add_nonneg hx b.size_nonneg)]
    have hzero := h zero
    rw [zero, size_zero, sub_zero, abs_of_nonneg hx] at hzero
    rw [hother]
    exact hzero.trans (le_add_of_nonneg_right b.size_nonneg)

/-- **A decimal is rounded to the nearest double.** -/
theorem isNearest_ofDecimal {neg : Bool} {digits : Nat} {exponent : Int}
    (hfinite : (ofDecimal neg digits exponent).isFinite = true) :
    (ofDecimal neg digits exponent).IsNearest (signed neg (digits * 10 ^ exponent)) := by
  refine ⟨hfinite, fun c _ => ?_⟩
  rw [value, negative_ofDecimal]
  exact signed_nearest neg (by positivity) (size_nearest_ofDecimal hfinite) c

end Binary64

end Switchboard
