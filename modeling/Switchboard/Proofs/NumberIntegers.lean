import Switchboard.Proofs.NearestDouble
import Switchboard.Proofs.NumberTexts

/-!
# Integers of numbers

A parameter of an integer type takes a number through the integers of 128 bits, and a double beyond
these becomes the nearest of them. No integer type reaches that far, so its bounds see through this:

    saturate i                       i, or the end of the 128 bits that it lies beyond
    type.holds (saturate i)          type.holds i, and then saturate i = i
    b.toInt? = some i                b is finite, and b.value = i

So a number is taken exactly if it is an integer of the type (`number_integers_exact`).
-/

namespace Switchboard

namespace Binary64

/-- An integral double stands for its integer part. -/
theorem value_of_isIntegral {b : Binary64} (h : b.isIntegral = true) : b.value = b.truncate := by
  obtain ⟨m, hm, hsize⟩ := truncate_of_isIntegral h
  rw [value, size, ← hsize, hm, signed]
  split
  · push_cast
    rfl
  · push_cast
    rfl

/-- A finite double that stands for an integer has no fraction. -/
theorem isIntegral_of_value {b : Binary64} (hfinite : b.isFinite = true) {i : Int}
    (h : b.value = i) : b.isIntegral = true := by
  have hsize : b.size = i.natAbs := by
    have habs : |b.value| = b.size := by
      rw [value, signed]
      split
      · rw [abs_neg, abs_of_nonneg b.size_nonneg]
      · rw [abs_of_nonneg b.size_nonneg]
    rw [← habs, h]
    rw [← Int.cast_abs, Int.abs_eq_natAbs]
    rfl
  rw [isIntegral, hfinite, Bool.true_and, Bool.or_eq_true]
  by_cases hexponent : 0 ≤ b.exponent
  · exact .inl (decide_eq_true hexponent)
  · obtain ⟨k, hk⟩ : ∃ k : Nat, b.exponent = -(k : Int) := ⟨(-b.exponent).toNat, by omega⟩
    have hmultiple : b.significand = i.natAbs * 2 ^ k := by
      rw [size, hk, zpow_neg, zpow_natCast, ← div_eq_mul_inv, div_eq_iff (by positivity)] at hsize
      exact_mod_cast hsize
    rw [hk, neg_neg, Int.toNat_natCast, Nat.one_shiftLeft, hmultiple, Nat.mul_mod_left]
    exact .inr rfl

/-- A finite double is read as the integer that it stands for. -/
theorem toInt?_eq_some_iff {b : Binary64} {i : Int} :
    b.toInt? = some i ↔ b.isFinite = true ∧ b.value = i := by
  constructor
  · intro h
    unfold toInt? at h
    split at h
    · next hintegral =>
      cases h
      exact ⟨(Bool.and_eq_true_iff.1 hintegral).1, value_of_isIntegral hintegral⟩
    · cases h
  · rintro ⟨hfinite, h⟩
    have hintegral := isIntegral_of_value hfinite h
    have htruncate : b.truncate = i := by
      have : (b.truncate : ℚ) = i := by rw [← value_of_isIntegral hintegral, h]
      exact_mod_cast this
    rw [toInt?, if_pos hintegral, htruncate]

end Binary64

namespace Number

/-- The number that a number of a document stands for. -/
def value : Number → ℚ
  | .int i => i
  | .float b => b.value

theorem toInt?_eq_some_iff {n : Number} (h : n.Held) {i : Int} :
    n.toInt? = some i ↔ n.value = i := by
  cases n with
  | int j =>
    rw [toInt?, value, Option.some.injEq]
    exact Int.cast_inj.symm
  | float b => exact Binary64.toInt?_eq_some_iff.trans (and_iff_right h)

end Number

/-! ## Bounds of types -/

theorem IntegerType.holds_iff (type : IntegerType) (i : Int) :
    type.holds i = true ↔ type.low ≤ i ∧ i ≤ type.high := by
  simp [holds]

namespace Parameter

/-- No type reaches beyond 64 bits. -/
theorem bounds_of_holds {type : IntegerType} {i : Int} (h : type.holds i = true) :
    Number.minSigned ≤ i ∧ i ≤ Number.maxUnsigned := by
  rw [IntegerType.holds_iff] at h
  cases type <;>
  · simp only [IntegerType.low, IntegerType.high, Number.minSigned, Number.maxSigned,
      Number.maxUnsigned] at *
    omega

/-- An integer that a type holds is not changed. -/
theorem saturate_of_holds {type : IntegerType} {i : Int} (h : type.holds i = true) :
    saturate i = i := by
  have hbounds := bounds_of_holds h
  unfold saturate minWide maxWide Number.minSigned Number.maxUnsigned at *
  omega

/-- The bounds of a type see through saturation. -/
theorem holds_saturate (type : IntegerType) (i : Int) :
    type.holds (saturate i) = type.holds i := by
  rw [Bool.eq_iff_iff]
  constructor
  · intro h
    have hbounds := bounds_of_holds h
    have hsame : saturate i = i := by
      unfold saturate minWide maxWide Number.minSigned Number.maxUnsigned at *
      omega
    rwa [hsame] at h
  · intro h
    rwa [saturate_of_holds h]

theorem filter_saturate (type : IntegerType) (i? : Option Int) :
    (i?.map saturate).filter type.holds = i?.filter type.holds := by
  cases i? with
  | none => rfl
  | some i =>
    rw [Option.map_some, Option.filter_some, Option.filter_some, holds_saturate]
    split
    · next h => rw [saturate_of_holds h]
    · rfl

theorem integerOf?_number (type : IntegerType) (n : Number) :
    integerOf? type (.number n) = n.toInt?.filter type.holds := by
  cases n with
  | int i => rfl
  | float b => exact filter_saturate type b.toInt?

theorem integerOf?_number_eq_some_iff {type : IntegerType} {n : Number} (h : n.Held) {i : Int} :
    integerOf? type (.number n) = some i ↔ n.value = i ∧ type.low ≤ i ∧ i ≤ type.high := by
  rw [integerOf?_number, Option.filter_eq_some_iff, Number.toInt?_eq_some_iff h,
    IntegerType.holds_iff]

section Runs

variable {type : IntegerType} {v : Json} {payload : Payload} {rest : List Json} {position : Nat}

/-- The next argument is taken as an integer, or rejected. -/
theorem run_integer (type : IntegerType) (v : Json) (payload : Payload) (rest : List Json)
    (position : Nat) :
    (Parameter.integer type).bind.run ⟨payload, v :: rest, position⟩ =
      (match integerOf? type v with
        | some i => .ok (.integer i)
        | none => .error (.invalid position type.name v), ⟨payload, rest, position + 1⟩) := by
  refine (run_scalar .integer type.name (integerOf? type) v rest).trans ?_
  cases integerOf? type v <;> rfl

theorem run_integer_eq_ok_iff {i : Int} {c : Call} :
    (Parameter.integer type).bind.run ⟨payload, v :: rest, position⟩ = (.ok (.integer i), c) ↔
      integerOf? type v = some i ∧ c = ⟨payload, rest, position + 1⟩ := by
  rw [run_integer]
  cases integerOf? type v with
  | none =>
    constructor
    · intro h
      cases h
    · rintro ⟨h, -⟩
      cases h
  | some j =>
    constructor
    · intro h
      cases h
      exact ⟨rfl, rfl⟩
    · rintro ⟨h, rfl⟩
      cases h
      rfl

theorem run_integer_eq_error_iff :
    (Parameter.integer type).bind.run ⟨payload, v :: rest, position⟩ =
      (.error (.invalid position type.name v), ⟨payload, rest, position + 1⟩) ↔
      integerOf? type v = none := by
  rw [run_integer]
  cases integerOf? type v with
  | none => exact ⟨fun _ => rfl, fun _ => rfl⟩
  | some j =>
    constructor
    · intro h
      cases h
    · intro h
      cases h

end Runs

end Parameter

/-- **Integers are taken from numbers exactly.** A number is taken as an integer of a type if it is
one, as that integer, and is rejected otherwise: no double is truncated, wrapped or saturated into
an integer of the type. -/
theorem number_integers_exact (type : IntegerType) {n : Number} (h : n.Held) (payload : Payload)
    (rest : List Json) (position : Nat) :
    let reply := (Parameter.integer type).bind.run ⟨payload, .number n :: rest, position⟩
    (∀ i : Int, reply = (.ok (.integer i), ⟨payload, rest, position + 1⟩) ↔
      n.value = i ∧ type.low ≤ i ∧ i ≤ type.high) ∧
    (reply = (.error (.invalid position type.name (.number n)), ⟨payload, rest, position + 1⟩) ↔
      ¬ ∃ i : Int, n.value = i ∧ type.low ≤ i ∧ i ≤ type.high) := by
  intro reply
  have hinteger (i : Int) : Parameter.integerOf? type (.number n) = some i ↔
      n.value = i ∧ type.low ≤ i ∧ i ≤ type.high :=
    Parameter.integerOf?_number_eq_some_iff h
  constructor
  · intro i
    rw [Parameter.run_integer_eq_ok_iff, and_iff_left rfl, hinteger]
  · rw [Parameter.run_integer_eq_error_iff, Option.eq_none_iff_forall_ne_some, not_exists]
    exact forall_congr' fun i => not_congr (hinteger i)

/-- The double `2^63` is an integer of 64 bits without a sign, and none with a sign. The double
`2^127` is no integer of 64 bits, and the negative zero is one of each type. -/
theorem doubles_at_bounds :
    (Number.float ⟨0x43E0000000000000⟩).Held ∧ (Number.float ⟨0x47E0000000000000⟩).Held ∧
      (Number.float ⟨0x8000000000000000⟩).Held ∧
      (Parameter.integer .u64).bind.run
          ⟨.empty, [.number (.float ⟨0x43E0000000000000⟩)], 0⟩ =
        (.ok (.integer 9223372036854775808), ⟨.empty, [], 1⟩) ∧
      (Parameter.integer .i64).bind.run
          ⟨.empty, [.number (.float ⟨0x43E0000000000000⟩)], 0⟩ =
        (.error (.invalid 0 "i64" (.number (.float ⟨0x43E0000000000000⟩))), ⟨.empty, [], 1⟩) ∧
      (Parameter.integer .u64).bind.run
          ⟨.empty, [.number (.float ⟨0x47E0000000000000⟩)], 0⟩ =
        (.error (.invalid 0 "u64" (.number (.float ⟨0x47E0000000000000⟩))), ⟨.empty, [], 1⟩) ∧
      (Parameter.integer .i32).bind.run
          ⟨.empty, [.number (.float ⟨0x8000000000000000⟩)], 0⟩ =
        (.ok (.integer 0), ⟨.empty, [], 1⟩) := by
  have hvalue : (Number.float ⟨0x43E0000000000000⟩).value = (9223372036854775808 : Int) :=
    (Number.toInt?_eq_some_iff (by decide)).1 (by decide +kernel)
  have hlarge : (Number.float ⟨0x47E0000000000000⟩).value = (2 ^ 127 : Int) :=
    (Number.toInt?_eq_some_iff (by decide)).1 (by decide +kernel)
  have hzero : (Number.float ⟨0x8000000000000000⟩).value = (0 : Int) :=
    (Number.toInt?_eq_some_iff (by decide)).1 (by decide +kernel)
  refine ⟨by decide, by decide, by decide, ?_, ?_, ?_, ?_⟩
  · obtain ⟨hok, -⟩ := number_integers_exact .u64 (n := .float ⟨0x43E0000000000000⟩) (by decide)
      .empty [] 0
    exact (hok _).2 ⟨hvalue, by decide, by decide⟩
  · obtain ⟨-, herror⟩ := number_integers_exact .i64 (n := .float ⟨0x43E0000000000000⟩) (by decide)
      .empty [] 0
    refine herror.2 ?_
    rintro ⟨i, hi, -, hhigh⟩
    rw [hvalue, Int.cast_inj] at hi
    subst hi
    exact absurd hhigh (by decide)
  · obtain ⟨-, herror⟩ := number_integers_exact .u64 (n := .float ⟨0x47E0000000000000⟩) (by decide)
      .empty [] 0
    refine herror.2 ?_
    rintro ⟨i, hi, -, hhigh⟩
    rw [hlarge, Int.cast_inj] at hi
    subst hi
    exact absurd hhigh (by decide)
  · obtain ⟨hok, -⟩ := number_integers_exact .i32 (n := .float ⟨0x8000000000000000⟩) (by decide)
      .empty [] 0
    exact (hok _).2 ⟨hzero, by decide, by decide⟩

end Switchboard
