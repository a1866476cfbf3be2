import Switchboard.Proofs.NumericTexts
import Switchboard.Proofs.Positions
import Switchboard.Proofs.ShortestDigits

/-!
# Numbers and their texts

Compared with a text, a number is written as a plain literal: a sign, digits, and a point only in
front of more digits. The reader gives the literal back, and the literal spells the number:

    l.Plain                l.plainText is written as the grammar asks, so it is read as l
    d.literal negative     the plain literal of a decimal, of the same value
    n.Held                 n.comparisonText is the text of a literal that is read as n

An integer is rounded as a number and as a literal alike. An integral double below `10^15` is the
one nearest to its integer, and the digits of all other doubles lie in their rounding intervals
(`attracts_shortest`). Only the sign of a zero is lost, and zeros are equal.
-/

namespace Switchboard

/-! ## Digits -/

namespace Literal

theorem natOfDigits_eq_ofDigitChars (cs : List Char) : natOfDigits cs = Nat.ofDigitChars 10 cs 0 :=
  Nat.ofDigitChars_eq_foldl.symm

theorem natOfDigits_append (cs ds : List Char) :
    natOfDigits (cs ++ ds) = 10 ^ ds.length * natOfDigits cs + natOfDigits ds := by
  have hrun : natOfDigits (cs ++ ds) = Nat.ofDigitChars 10 ds (natOfDigits cs) := by
    rw [natOfDigits, List.foldl_append]
    exact Nat.ofDigitChars_eq_foldl.symm
  rw [hrun, Nat.ofDigitChars_eq_ofDigitChars_zero, natOfDigits_eq_ofDigitChars ds]

theorem natOfDigits_zeros (n : Nat) : natOfDigits (List.replicate n '0') = 0 := by
  induction n with
  | zero => rfl
  | succ n ih =>
    rw [List.replicate_succ', natOfDigits_concat, ih]
    rfl

theorem natOfDigits_toString (n : Nat) : natOfDigits (toString n).toList = n := by
  rw [natOfDigits_eq_ofDigitChars, Nat.toString_eq_ofList_toDigits, String.toList_ofList,
    Nat.ofDigitChars_ten_toDigits]

theorem isDigit_of_mem_toString {n : Nat} {c : Char} (h : c ∈ (toString n).toList) :
    isDigit c = true := by
  rw [Nat.toString_eq_ofList_toDigits, String.toList_ofList] at h
  exact Nat.isDigit_of_mem_toDigits (by decide) (by decide) h

theorem toString_ne_nil (n : Nat) : (toString n).toList ≠ [] := by
  rw [Nat.toString_eq_ofList_toDigits, String.toList_ofList]
  exact Nat.toDigits_ne_nil

/-! ## Plain literals -/

/-- A literal of digits, without an exponent. -/
structure Plain (l : Literal) : Prop where
  whole_digits : ∀ c ∈ l.whole, isDigit c = true
  whole_ne_nil : l.whole ≠ []
  fraction_digits : ∀ c ∈ l.fraction, isDigit c = true
  exponent_eq : l.exponent = 0

/-- The point and the digits behind it; no point unless digits follow. -/
def fractionText (l : Literal) : List Char :=
  if l.fraction.isEmpty then [] else '.' :: l.fraction

/-- The text of a plain literal. -/
def plainText (l : Literal) : List Char :=
  (if l.negative then ['-'] else []) ++ (l.whole ++ l.fractionText)

section Plain
variable {l : Literal}

/-- The text of a plain literal writes that literal. -/
theorem Plain.written (h : l.Plain) : Written l l.plainText := by
  have hsign : Sign l.negative (if l.negative then ['-'] else []) := by
    cases l.negative with
    | true => exact .minus
    | false => exact .absent
  obtain ⟨negative, whole, fraction, exponent⟩ := l
  obtain rfl : exponent = 0 := h.exponent_eq
  cases fraction with
  | nil => exact .whole hsign h.whole_digits h.whole_ne_nil .absent
  | cons c cs =>
    have hpoint :=
      Written.point hsign h.whole_digits h.fraction_digits (.inl h.whole_ne_nil) .absent
    rwa [List.append_nil] at hpoint

theorem Plain.numericText?_eq (h : l.Plain) {s : String} (hs : s.toList = l.plainText) :
    Json.numericText? s = some l.toBinary64 := by
  have hblank : ∀ c ∈ l.plainText, isAsciiBlank c = false :=
    fun c hc => isAsciiBlank_of_isBlank (h.written.isBlank_of_mem c hc)
  rw [Json.numericText?_eq_some_iff, hs, Blank.trim_eq_self hblank]
  exact ⟨l, h.written, rfl⟩

end Plain

/-! ## Literals of integers -/

def ofInt (i : Int) : Literal := ⟨i < 0, (toString i.natAbs).toList, [], 0⟩

theorem plain_ofInt (i : Int) : (ofInt i).Plain where
  whole_digits _ hc := isDigit_of_mem_toString hc
  whole_ne_nil := toString_ne_nil _
  fraction_digits _ hc := by cases hc
  exponent_eq := rfl

theorem plainText_ofInt (i : Int) : (toString i).toList = (ofInt i).plainText := by
  cases i with
  | ofNat n =>
    show (toString n).toList = _
    simp [plainText, ofInt, fractionText]
  | negSucc n =>
    show ("-" ++ toString (n + 1)).toList = _
    simp [plainText, ofInt, fractionText]

theorem toBinary64_ofInt (i : Int) : (ofInt i).toBinary64 = .ofInt i := by
  unfold toBinary64 ofInt Binary64.ofInt
  rw [List.append_nil, natOfDigits_toString]
  exact Binary64.ofDecimal_integer _ _

/-! ## Literals of decimals -/

/-- The number that a literal writes, without its sign. -/
def magnitude (l : Literal) : ℚ :=
  natOfDigits (l.whole ++ l.fraction) * 10 ^ (l.exponent - l.fraction.length)

end Literal

/-- The plain literal of a decimal: the point stands behind the first `whole` digits, and zeros
stand where there are none. -/
def Decimal.literal (negative : Bool) (d : Decimal) : Literal :=
  let digits := (toString d.digits).toList
  let whole := (digits.length : Int) + d.exponent
  if whole ≤ 0 then ⟨negative, ['0'], List.replicate (-whole).toNat '0' ++ digits, 0⟩
  else if digits.length ≤ whole then
    ⟨negative, digits ++ List.replicate (whole - digits.length).toNat '0', [], 0⟩
  else ⟨negative, digits.take whole.toNat, digits.drop whole.toNat, 0⟩

namespace Decimal

variable (negative : Bool) (d : Decimal)

theorem negative_literal : (d.literal negative).negative = negative := by
  unfold literal
  dsimp only
  split
  · rfl
  · split <;> rfl

theorem plain_literal : (d.literal negative).Plain := by
  have hdigits : ∀ c ∈ (toString d.digits).toList, Literal.isDigit c = true :=
    fun c hc => Literal.isDigit_of_mem_toString hc
  have hne := Literal.toString_ne_nil d.digits
  have hzeros : ∀ n, ∀ c ∈ List.replicate n '0', Literal.isDigit c = true := by
    intro n c hc
    rw [List.eq_of_mem_replicate hc]
    decide
  unfold literal
  generalize (toString d.digits).toList = digits at *
  dsimp only
  split
  · refine ⟨List.forall_mem_singleton.2 (by decide), List.cons_ne_nil _ _, ?_, rfl⟩
    exact List.forall_mem_append.2 ⟨hzeros _, hdigits⟩
  · split
    · refine ⟨List.forall_mem_append.2 ⟨hdigits, hzeros _⟩, ?_, by simp, rfl⟩
      exact List.append_ne_nil_of_left_ne_nil hne _
    · refine ⟨fun c hc => hdigits c (List.mem_of_mem_take hc), ?_,
        fun c hc => hdigits c (List.mem_of_mem_drop hc), rfl⟩
      rw [Ne, List.take_eq_nil_iff, not_or]
      exact ⟨by omega, hne⟩

theorem magnitude_literal : (d.literal negative).magnitude = d.value := by
  have hvalue := Literal.natOfDigits_toString d.digits
  unfold literal Literal.magnitude value
  generalize (toString d.digits).toList = digits at *
  dsimp only
  split
  · have hdigits : Literal.natOfDigits
        (['0'] ++ (List.replicate (-((digits.length : Int) + d.exponent)).toNat '0' ++ digits)) =
        d.digits := by
      rw [Literal.natOfDigits_append, Literal.natOfDigits_append, Literal.natOfDigits_zeros, hvalue]
      simp [Literal.natOfDigits, Literal.digitValue]
    dsimp only
    rw [hdigits, List.length_append, List.length_replicate]
    congr 2
    omega
  · split
    · obtain ⟨k, hk⟩ : ∃ k : Nat, d.exponent = k := ⟨d.exponent.toNat, by omega⟩
      have hzeros : ((digits.length : Int) + d.exponent - digits.length).toNat = k := by omega
      rw [hzeros, List.append_nil, Literal.natOfDigits_append, Literal.natOfDigits_zeros, hvalue,
        List.length_replicate, hk]
      simp [mul_comm]
    · dsimp only
      rw [List.take_append_drop, hvalue, List.length_drop]
      congr 2
      omega

/-- The layout for comparisons writes the digits of the literal. -/
theorem toList_decimalText : (Layout.plain.decimalText d).toList =
    (d.literal negative).whole ++ (d.literal negative).fractionText := by
  have hlength : ((toString d.digits).length : Int) = (toString d.digits).toList.length := by
    rw [String.length_toList]
  have hne := Literal.toString_ne_nil d.digits
  unfold literal Layout.decimalText Layout.positionalText Literal.fractionText
  dsimp only [Layout.plain]
  rw [hlength, if_pos rfl]
  generalize toString d.digits = text at *
  split
  · have hfraction : ∀ zeros : List Char, (zeros ++ text.toList).isEmpty = false := by
      intro zeros
      rw [List.isEmpty_eq_false_iff]
      exact List.append_ne_nil_of_right_ne_nil _ hne
    simp [Layout.zeros, hfraction]
  · split
    · simp [Layout.zeros]
    · have hfraction : (text.toList.drop ((text.toList.length : Int) + d.exponent).toNat).isEmpty =
          false := by
        rw [List.isEmpty_eq_false_iff, Ne, List.drop_eq_nil_iff]
        omega
      simp [hfraction]

end Decimal

/-! ## Texts of numbers -/

/-- A literal whose number a double attracts is read as that double. -/
theorem Literal.toBinary64_of_attracts {l : Literal} {b : Binary64} (hfinite : b.isFinite = true)
    (hpos : 0 < b.significand) (hsign : l.negative = b.negative) (h : b.Attracts l.magnitude) :
    l.toBinary64 = b := by
  rw [Literal.toBinary64, hsign]
  exact Binary64.ofDecimal_of_attracts hfinite hpos h

/-- The plain text of a double spells the shortest decimal. -/
theorem Layout.toList_plain_text {b : Binary64} (hfinite : b.isFinite = true)
    (hpos : 0 < b.significand) :
    (Layout.plain.text b).toList = ((b.shortest .up).literal b.negative).plainText := by
  have hzero : b.isZero = false := by
    rw [Bool.eq_false_iff, Ne, Binary64.isZero_iff]
    exact hpos.ne'
  unfold Layout.text
  simp only [Binary64.isNaN_of_isFinite hfinite, Binary64.isInfinite_of_isFinite hfinite, hzero,
    Bool.false_eq_true, if_false]
  rw [String.toList_append, Literal.plainText, Decimal.negative_literal]
  congr 1
  · split <;> rfl
  · exact Decimal.toList_decimalText _ _

/-- A plain literal with this text and, up to the sign of a zero, this value. -/
structure Literal.Spells (l : Literal) (x : Binary64) (text : String) : Prop where
  plain : l.Plain
  text_eq : text.toList = l.plainText
  value : x.equals l.toBinary64 = true

theorem Literal.spells_ofInt {i : Int} {x : Binary64} (h : x.equals (.ofInt i) = true) :
    (Literal.ofInt i).Spells x (toString i) :=
  ⟨plain_ofInt i, plainText_ofInt i, (toBinary64_ofInt i).symm ▸ h⟩

theorem Literal.spells_shortest {b : Binary64} (hfinite : b.isFinite = true)
    (hpos : 0 < b.significand) :
    ((b.shortest .up).literal b.negative).Spells b (Layout.plain.text b) := by
  have hvalue : ((b.shortest .up).literal b.negative).toBinary64 = b := by
    refine toBinary64_of_attracts hfinite hpos (Decimal.negative_literal _ _) ?_
    rw [Decimal.magnitude_literal]
    exact Binary64.attracts_shortest .up hpos
  refine ⟨Decimal.plain_literal _ _, Layout.toList_plain_text hfinite hpos, ?_⟩
  rw [hvalue]
  exact (Binary64.equals_self_iff b).2 (Binary64.isNaN_of_isFinite hfinite)

namespace Number

/-- A number that a document can hold: an integer of 64 bits, signed or unsigned, or a finite
double. -/
def Held : Number → Prop
  | .int i => fits i = true
  | .float b => b.isFinite = true

instance : (n : Number) → Decidable n.Held
  | .int i => inferInstanceAs (Decidable (fits i = true))
  | .float b => inferInstanceAs (Decidable (b.isFinite = true))

/-- The written form of a number is a plain literal of the same value. -/
theorem Held.exists_spells {n : Number} (h : n.Held) :
    ∃ l : Literal, l.Spells n.toBinary64 n.comparisonText := by
  cases n with
  | int i => exact ⟨_, Literal.spells_ofInt (Binary64.ofInt_equals_self i)⟩
  | float b =>
    -- a zero is written as an integer, so the digits of other doubles are looked for
    have hpos : (∀ i, b.toInt? = some i → i ≠ 0) → 0 < b.significand := by
      intro hi
      refine Nat.pos_of_ne_zero fun hzero => hi 0 ?_ rfl
      exact Binary64.toInt?_of_isZero (b.isZero_iff.2 hzero)
    unfold comparisonText
    dsimp only
    split
    · next i hi =>
      split
      · exact ⟨_, Literal.spells_ofInt (Binary64.equals_ofInt hi)⟩
      · next hlarge =>
        refine ⟨_, Literal.spells_shortest h (hpos fun j hj => ?_)⟩
        rintro rfl
        obtain rfl : i = 0 := Option.some.inj (hi.symm.trans hj)
        exact hlarge (by decide)
    · next hnone =>
      refine ⟨_, Literal.spells_shortest h (hpos fun j hj => ?_)⟩
      rw [hnone] at hj
      cases hj

end Number

/-! ## Numbers as arguments -/

/-- The next argument is taken as the double that it stands for. -/
theorem Parameter.run_number {v : Json} {x : Binary64} (h : number? v = some x) (payload : Payload)
    (rest : List Json) (position : Nat) :
    Parameter.number.bind.run ⟨payload, v :: rest, position⟩ =
      (.ok (.number x), ⟨payload, rest, position + 1⟩) := by
  refine (run_scalar .number "number" number? v rest).trans ?_
  rw [h]

theorem Parameter.run_number_of_none {v : Json} (h : number? v = none) (payload : Payload)
    (rest : List Json) (position : Nat) :
    Parameter.number.bind.run ⟨payload, v :: rest, position⟩ =
      (.error (.invalid position "number" v), ⟨payload, rest, position + 1⟩) := by
  refine (run_scalar .number "number" number? v rest).trans ?_
  rw [h]

open Json in
/-- **A number and its text are interchangeable.** The text spells a double equal to the number,
the two are loosely equal in both directions, and a parameter for numbers takes equal doubles from
them. -/
theorem number_equals_its_text {n : Number} (h : n.Held) :
    ∃ x, numericText? n.comparisonText = some x ∧ n.toBinary64.equals x = true ∧
      looselyEqual (.number n) (.string n.comparisonText) = true ∧
      looselyEqual (.string n.comparisonText) (.number n) = true ∧
      ∀ payload rest position,
        Parameter.number.bind.run ⟨payload, .number n :: rest, position⟩ =
          (.ok (.number n.toBinary64), ⟨payload, rest, position + 1⟩) ∧
        Parameter.number.bind.run ⟨payload, .string n.comparisonText :: rest, position⟩ =
          (.ok (.number x), ⟨payload, rest, position + 1⟩) := by
  obtain ⟨l, hl⟩ := h.exists_spells
  have hspelled : numericText? n.comparisonText = some l.toBinary64 :=
    hl.plain.numericText?_eq hl.text_eq
  have hloose : numberEqualsText n n.comparisonText = true := by
    rw [numberEqualsText, hspelled]
    exact hl.value
  refine ⟨l.toBinary64, hspelled, hl.value, ?_, ?_, fun payload rest position => ⟨?_, ?_⟩⟩
  · rw [looselyEqual, hloose]
  · rw [looselyEqual, hloose]
  · exact Parameter.run_number (v := .number n) rfl payload rest position
  · exact Parameter.run_number (v := .string n.comparisonText) hspelled payload rest position

open Json in
/-- A double far beyond the integers that doubles tell apart. -/
theorem large_double_equals_its_text :
    (Number.float ⟨0x44B52D02C7E14AF6⟩).Held ∧
      ∃ x, numericText? "100000000000000000000000" = some x ∧
        Binary64.equals ⟨0x44B52D02C7E14AF6⟩ x = true ∧
        looselyEqual (.number (.float ⟨0x44B52D02C7E14AF6⟩)) (.string "100000000000000000000000") =
          true ∧
        Parameter.number.bind.run ⟨.empty, [.string "100000000000000000000000"], 0⟩ =
          (.ok (.number x), ⟨.empty, [], 1⟩) := by
  have htext : (Number.float ⟨0x44B52D02C7E14AF6⟩).comparisonText = "100000000000000000000000" := by
    decide +kernel
  obtain ⟨x, hx, hequals, hloose, -, hruns⟩ :=
    number_equals_its_text (n := .float ⟨0x44B52D02C7E14AF6⟩) (by decide)
  obtain ⟨-, hrun⟩ := hruns .empty [] 0
  rw [htext] at hx hloose hrun
  exact ⟨by decide, x, hx, hequals, hloose, hrun⟩

end Switchboard
