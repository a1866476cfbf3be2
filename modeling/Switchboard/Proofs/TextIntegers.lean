import Switchboard.Proofs.NumberIntegers

/-!
# Integers of texts

A parameter of an integer type reads a text in two ways: as an integer of 128 bits if it is a sign
and digits, and else as a double, of which it takes the integer.

    integerText? s = some i                  s is an integer, and l.value = i
    (numericText? s).bind integral?          the double nearest to l.value

The first way is exact. The second is as exact as doubles are, and it is only taken by texts with a
point or an exponent: an integer beyond 128 bits is beyond every type as a double as well. So the
integer is the number written, or the double nearest to it (`text_integers_nearest`).

The two ways trim texts differently, the first of all blanks and the second of those of ASCII. Where
that makes no difference, numbers are read and compared alike (`text_integers_compare`).
-/

namespace Switchboard

/-! ## Numbers of literals -/

theorem Binary64.ofDecimal_equals_ofInt (neg : Bool) (n : Nat) :
    (ofDecimal neg n 0).equals (ofInt (if neg then -(n : Int) else n)) = true := by
  rcases Nat.eq_zero_or_pos n with rfl | hpos
  · -- the integer zero has no sign
    cases neg with
    | false => decide
    | true => decide
  · have hsign : decide ((if neg then -(n : Int) else n) < 0) = neg := by
      cases neg with
      | false => simp
      | true => simpa using hpos
    have hsize : (if neg then -(n : Int) else n).natAbs = n := by
      split
      · rw [Int.natAbs_neg, Int.natAbs_natCast]
      · rw [Int.natAbs_natCast]
    rw [ofDecimal_integer, ofInt, hsign, hsize]
    exact (equals_self_iff _).2 (isNaN_ofRatio neg n 1)

namespace Literal

/-- The number that a literal writes. -/
def value (l : Literal) : ℚ := signed l.negative l.magnitude

/-- A literal is rounded to the nearest double. -/
theorem isNearest_toBinary64 {l : Literal} (hfinite : l.toBinary64.isFinite = true) :
    l.toBinary64.IsNearest l.value :=
  Binary64.isNearest_ofDecimal hfinite

section Integers
variable {l : Literal} {cs : List Char} (h : Written l cs) (hunmarked : Unmarked cs)
include h hunmarked

theorem Written.value_of_unmarked : l.value = l.integer := by
  obtain ⟨-, hl⟩ := h.integer hunmarked
  rw [hl, value, magnitude, signed, Literal.integer, List.append_nil]
  split
  · simp
  · simp

/-- An integer is rounded alike as a literal, the sign of a zero aside. -/
theorem Written.equals_of_unmarked : l.toBinary64.equals (.ofInt l.integer) = true := by
  obtain ⟨-, hl⟩ := h.integer hunmarked
  rw [hl, toBinary64, Literal.integer, List.append_nil]
  exact Binary64.ofDecimal_equals_ofInt _ _

end Integers

end Literal

/-! ## Texts of doubles -/

/-- There are no other blanks around it. -/
theorem Json.trim_of_numericText? {s : String} {f : Binary64} (h : numericText? s = some f) :
    Blank.trim isBlank s.toList = Blank.trim isAsciiBlank s.toList := by
  obtain ⟨l, hl, -⟩ := numericText?_eq_some_iff.1 h
  exact trim_isBlank_eq hl.isBlank_of_mem

/-! ## Texts of integers -/

namespace Parameter

open Literal (Integer Written Unmarked)

/-- The texts of integers are read as these, up to 128 bits. -/
theorem integerText?_eq_some_iff {s : String} {i : Int} :
    integerText? s = some i ↔
      Integer i (Blank.trim isBlank s.toList) ∧ minWide ≤ i ∧ i ≤ maxWide := by
  rw [Literal.integer_iff, integerText?]
  generalize Literal.readSign (Blank.trim isBlank s.toList) = read
  obtain ⟨negative, digits⟩ := read
  have hdigits : ¬ (digits.isEmpty || !digits.all Literal.isDigit) = true ↔
      digits ≠ [] ∧ Literal.Digits digits := by
    simp [Literal.Digits]
  dsimp only
  rw [Option.ite_none_left_eq_some, Option.ite_none_right_eq_some, hdigits, Option.some.injEq]
  constructor
  · rintro ⟨⟨hne, hall⟩, hwide, rfl⟩
    exact ⟨⟨hne, hall, rfl⟩, hwide⟩
  · rintro ⟨⟨hne, hall, rfl⟩, hwide⟩
    exact ⟨⟨hne, hall⟩, hwide, rfl⟩

/-- What is beyond 128 bits is no integer of a type as a double either: the ends of the 128 bits are
doubles, and nearer to it than anything of a type. -/
theorem wide_of_toInt? {l : Literal} {i j : Int} {type : IntegerType} (hvalue : l.value = j)
    (h : l.toBinary64.toInt? = some i) (hholds : type.holds i = true) :
    minWide ≤ j ∧ j ≤ maxWide := by
  obtain ⟨hfinite, hi⟩ := Binary64.toInt?_eq_some_iff.1 h
  obtain ⟨hfiniteLow, hlow⟩ : (⟨0xC7E0000000000000⟩ : Binary64).isFinite = true ∧
      (⟨0xC7E0000000000000⟩ : Binary64).value = (-2 ^ 127 : Int) :=
    Binary64.toInt?_eq_some_iff.1 (by decide +kernel)
  obtain ⟨hfiniteHigh, hhigh⟩ : (⟨0x47E0000000000000⟩ : Binary64).isFinite = true ∧
      (⟨0x47E0000000000000⟩ : Binary64).value = (2 ^ 127 : Int) :=
    Binary64.toInt?_eq_some_iff.1 (by decide +kernel)
  have hnearest := Literal.isNearest_toBinary64 hfinite
  have hnearLow := hnearest.le _ hfiniteLow
  have hnearHigh := hnearest.le _ hfiniteHigh
  rw [hvalue, hi, hlow] at hnearLow
  rw [hvalue, hi, hhigh] at hnearHigh
  have hnearLow : |j - i| ≤ |j - -2 ^ 127| := by exact_mod_cast hnearLow
  have hnearHigh : |j - i| ≤ |j - 2 ^ 127| := by exact_mod_cast hnearHigh
  have hbounds := bounds_of_holds hholds
  simp only [Int.abs_eq_natAbs, Number.minSigned, Number.maxUnsigned] at *
  unfold minWide maxWide
  omega

/-- An integer is taken from the literal of a text, exactly or through a double. -/
theorem exists_written_of_integerOf? {type : IntegerType} {s : String} {i : Int}
    (h : integerOf? type (.string s) = some i) :
    ∃ l, Written l (Blank.trim isBlank s.toList) ∧
      (Unmarked (Blank.trim isBlank s.toList) → l.integer = i) ∧
      (¬ Unmarked (Blank.trim isBlank s.toList) → l.toBinary64.toInt? = some i) := by
  obtain ⟨hread, hholds⟩ := Option.filter_eq_some_iff.1 h
  rcases Option.or_eq_some_iff.1 hread with hinteger | ⟨hnone, hdouble⟩
  · obtain ⟨hi, -⟩ := integerText?_eq_some_iff.1 hinteger
    obtain ⟨hunmarked, l, hl, rfl⟩ := Literal.integer_iff_written.1 hi
    exact ⟨l, hl, fun _ => rfl, fun hnot => absurd hunmarked hnot⟩
  · obtain ⟨f, hf, hintegral⟩ := Option.bind_eq_some_iff.1 hdouble
    obtain ⟨l, hl, rfl⟩ := Json.numericText?_eq_some_iff.1 hf
    rw [← Json.trim_of_numericText? hf] at hl
    have htoInt : l.toBinary64.toInt? = some i := by
      obtain ⟨k, hk, rfl⟩ := Option.map_eq_some_iff.1 hintegral
      rw [holds_saturate] at hholds
      rw [hk, saturate_of_holds hholds]
    refine ⟨l, hl, fun hunmarked => ?_, fun _ => htoInt⟩
    -- an integer of 128 bits would have been read as such
    exfalso
    have hwide := wide_of_toInt? (hl.value_of_unmarked hunmarked) htoInt hholds
    have hsome := integerText?_eq_some_iff.2 ⟨(hl.integer hunmarked).1, hwide⟩
    rw [hnone] at hsome
    cases hsome

end Parameter

section Texts

variable {type : IntegerType} {s : String} {i : Int} {payload : Payload} {rest : List Json}
  {position : Nat} {call : Call}

/-- **An integer taken from a text is the number written, or the double nearest to it.** It is the
number written if that has no point and no exponent, or if a double stands for it. -/
theorem text_integers_nearest
    (h : (Parameter.integer type).bind.run ⟨payload, .string s :: rest, position⟩ =
      (.ok (.integer i), call)) :
    ∃ l, Literal.read? (Blank.trim isBlank s.toList) = some l ∧
      (Literal.Unmarked (Blank.trim isBlank s.toList) → l.value = i) ∧
      (¬ Literal.Unmarked (Blank.trim isBlank s.toList) →
        ∃ b : Binary64, b.IsNearest l.value ∧ b.value = i) ∧
      ∀ b : Binary64, b.isFinite = true → b.value = l.value → l.value = i := by
  obtain ⟨hinteger, -⟩ := Parameter.run_integer_eq_ok_iff.1 h
  obtain ⟨l, hl, hexact, hrounded⟩ := Parameter.exists_written_of_integerOf? hinteger
  have hvalue : Literal.Unmarked (Blank.trim isBlank s.toList) → l.value = i := by
    intro hunmarked
    rw [hl.value_of_unmarked hunmarked, hexact hunmarked]
  have hnearest : ¬ Literal.Unmarked (Blank.trim isBlank s.toList) →
      ∃ b : Binary64, b.IsNearest l.value ∧ b.value = i := by
    intro hmarked
    obtain ⟨hfinite, hi⟩ := Binary64.toInt?_eq_some_iff.1 (hrounded hmarked)
    exact ⟨l.toBinary64, Literal.isNearest_toBinary64 hfinite, hi⟩
  refine ⟨l, Literal.read?_eq_some_iff.2 hl, hvalue, hnearest, ?_⟩
  intro c hfinite hc
  by_cases hunmarked : Literal.Unmarked (Blank.trim isBlank s.toList)
  · exact hvalue hunmarked
  · obtain ⟨b, hb, hi⟩ := hnearest hunmarked
    rw [← hi, hb.exact hfinite hc]

/-- The same integer as an integer and as a double, where it is not exact. -/
theorem spellings_of_one_integer :
    (Parameter.integer .i64).bind.run ⟨.empty, [.string " 9007199254740993"], 0⟩ =
        (.ok (.integer 9007199254740993), ⟨.empty, [], 1⟩) ∧
      (∃ l, Literal.read? "9007199254740993".toList = some l ∧
        l.value = (9007199254740993 : Int)) ∧
      (Parameter.integer .i64).bind.run ⟨.empty, [.string "9007199254740993e0"], 0⟩ =
        (.ok (.integer 9007199254740992), ⟨.empty, [], 1⟩) ∧
      ∃ l, Literal.read? "9007199254740993e0".toList = some l ∧
        ∃ b : Binary64, b.IsNearest l.value ∧ b.value = (9007199254740992 : Int) := by
  have hexact : (Parameter.integer .i64).bind.run ⟨.empty, [.string " 9007199254740993"], 0⟩ =
      (.ok (.integer 9007199254740993), ⟨.empty, [], 1⟩) :=
    Parameter.run_integer_eq_ok_iff.2 ⟨by decide +kernel, rfl⟩
  have hrounded : (Parameter.integer .i64).bind.run
      ⟨.empty, [.string "9007199254740993e0"], 0⟩ =
      (.ok (.integer 9007199254740992), ⟨.empty, [], 1⟩) :=
    Parameter.run_integer_eq_ok_iff.2 ⟨by decide +kernel, rfl⟩
  have htrim : Blank.trim isBlank " 9007199254740993".toList = "9007199254740993".toList := by
    decide +kernel
  have htrim' : Blank.trim isBlank "9007199254740993e0".toList = "9007199254740993e0".toList := by
    decide +kernel
  obtain ⟨l, hl, hvalue, -⟩ := text_integers_nearest hexact
  obtain ⟨m, hm, -, hnearest, -⟩ := text_integers_nearest hrounded
  rw [htrim] at hl hvalue
  rw [htrim'] at hm hnearest
  exact ⟨hexact, ⟨l, hl, hvalue (by decide +kernel)⟩, hrounded, m, hm, hnearest (by decide +kernel)⟩

/-- A fraction too small for a double is lost. -/
theorem small_fraction_lost :
    (Parameter.integer .i32).bind.run ⟨.empty, [.string "1.00000000000000000001"], 0⟩ =
        (.ok (.integer 1), ⟨.empty, [], 1⟩) ∧
      ∃ l, Literal.read? (Blank.trim isBlank "1.00000000000000000001".toList) = some l ∧
        l.value ≠ (1 : Int) := by
  refine ⟨Parameter.run_integer_eq_ok_iff.2 ⟨by decide +kernel, rfl⟩,
    ⟨false, ['1'], "00000000000000000001".toList, 0⟩, by rfl, ?_⟩
  have hdigits : Literal.natOfDigits (['1'] ++ "00000000000000000001".toList) =
      100000000000000000001 := by
    decide +kernel
  have hlength : "00000000000000000001".toList.length = 20 := by rfl
  rw [Literal.value, Literal.magnitude, hdigits, hlength, signed]
  norm_num

/-- **Numbers are taken and compared as integers are, up to the blanks.** A text that gives an
integer gives an equal double, and is loosely equal to the integer, if there are only blanks of
ASCII around it. With another blank it is no number, and not equal to the integer. -/
theorem text_integers_compare
    (h : (Parameter.integer type).bind.run ⟨payload, .string s :: rest, position⟩ =
      (.ok (.integer i), call)) :
    (Blank.trim isBlank s.toList = Blank.trim isAsciiBlank s.toList →
      (∃ x, Parameter.number.bind.run ⟨payload, .string s :: rest, position⟩ =
          (.ok (.number x), call) ∧ x.equals (.ofInt i) = true) ∧
        Json.looselyEqual (.number (.int i)) (.string s) = true) ∧
    (Blank.trim isBlank s.toList ≠ Blank.trim isAsciiBlank s.toList →
      Parameter.number.bind.run ⟨payload, .string s :: rest, position⟩ =
          (.error (.invalid position "number" (.string s)), call) ∧
        Json.looselyEqual (.number (.int i)) (.string s) = false) := by
  obtain ⟨hinteger, rfl⟩ := Parameter.run_integer_eq_ok_iff.1 h
  constructor
  · intro htrim
    obtain ⟨l, hl, hexact, hrounded⟩ := Parameter.exists_written_of_integerOf? hinteger
    have hequals : l.toBinary64.equals (.ofInt i) = true := by
      by_cases hunmarked : Literal.Unmarked (Blank.trim isBlank s.toList)
      · rw [← hexact hunmarked]
        exact hl.equals_of_unmarked hunmarked
      · exact Binary64.equals_ofInt (hrounded hunmarked)
    have hnumeric : Json.numericText? s = some l.toBinary64 :=
      Json.numericText?_eq_some_iff.2 ⟨l, htrim ▸ hl, rfl⟩
    refine ⟨⟨_, Parameter.run_number (v := .string s) hnumeric payload rest position, hequals⟩, ?_⟩
    rw [Json.looselyEqual, Json.numberEqualsText, hnumeric]
    exact (Binary64.equals_comm _ _).trans hequals
  · intro htrim
    have hnumeric : Json.numericText? s = none := by
      rw [Option.eq_none_iff_forall_ne_some]
      exact fun f hf => htrim (Json.trim_of_numericText? hf)
    refine ⟨Parameter.run_number_of_none (v := .string s) hnumeric payload rest position, ?_⟩
    rw [Json.looselyEqual, Json.numberEqualsText, hnumeric]
    -- the written form of the integer has no blanks
    have hblank : ∀ c ∈ (toString i).toList, isBlank c = false := by
      rw [Literal.plainText_ofInt]
      exact (Literal.plain_ofInt i).written.isBlank_of_mem
    refine beq_eq_false_iff_ne.2 ?_
    rintro rfl
    refine htrim (trim_isBlank_eq ?_)
    rw [Number.comparisonText, Blank.trim_eq_self fun c hc => isAsciiBlank_of_isBlank (hblank c hc)]
    exact hblank

end Texts

/-- A text rounded as an integer is rounded as a number and in comparisons. -/
theorem rounded_text_compares :
    (Parameter.integer .i64).bind.run ⟨.empty, [.string "\t9007199254740993.0"], 0⟩ =
        (.ok (.integer 9007199254740992), ⟨.empty, [], 1⟩) ∧
      (∃ x, Parameter.number.bind.run ⟨.empty, [.string "\t9007199254740993.0"], 0⟩ =
          (.ok (.number x), ⟨.empty, [], 1⟩) ∧ x.equals (.ofInt 9007199254740992) = true) ∧
      Json.looselyEqual (.number (.int 9007199254740992)) (.string "\t9007199254740993.0") =
        true := by
  have hrun : (Parameter.integer .i64).bind.run
      ⟨.empty, [.string "\t9007199254740993.0"], 0⟩ =
      (.ok (.integer 9007199254740992), ⟨.empty, [], 1⟩) :=
    Parameter.run_integer_eq_ok_iff.2 ⟨by decide +kernel, rfl⟩
  obtain ⟨hcompare, -⟩ := text_integers_compare hrun
  obtain ⟨hnumber, hloose⟩ := hcompare (by decide +kernel)
  exact ⟨hrun, hnumber, hloose⟩

/-- A number behind a no-break space is an integer, and no number. -/
theorem no_break_space_kept :
    (Parameter.integer .i64).bind.run ⟨.empty, [.string "\u00a05"], 0⟩ =
        (.ok (.integer 5), ⟨.empty, [], 1⟩) ∧
      Parameter.number.bind.run ⟨.empty, [.string "\u00a05"], 0⟩ =
        (.error (.invalid 0 "number" (.string "\u00a05")), ⟨.empty, [], 1⟩) ∧
      Json.looselyEqual (.number (.int 5)) (.string "\u00a05") = false :=
  ⟨Parameter.run_integer_eq_ok_iff.2 ⟨by decide +kernel, rfl⟩,
    Parameter.run_number_of_none (by rfl) _ _ _, by decide +kernel⟩

end Switchboard
