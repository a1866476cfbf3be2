import Switchboard.Json.Loose
import Switchboard.Proofs.LiteralGrammar
import Switchboard.Proofs.Trimming
import Switchboard.Proofs.WellFormed

/-!
# Numeric texts

A double can be spelled by a word, but not in a numeric text: only the characters of literals are
let through, and each of the words has an `n`. So a numeric text is a literal between blanks of
ASCII.

    numericText? s = (read? (trim isAsciiBlank s)).map toBinary64        (numericText?_eq)

Which texts are literals is told by their grammar (`Literal.Written`).
-/

namespace Switchboard

open Json (isNumeral numericText?)

/-! ## Characters of literals -/

namespace Literal

variable {l : Literal}

theorem isBlank_of_isDigit {c : Char} (h : isDigit c = true) : isBlank c = false := by
  have hbounds : 48 ≤ c.toNat ∧ c.toNat ≤ 57 := by
    simp only [isDigit, Bool.and_eq_true, decide_eq_true_eq] at h
    exact h
  rw [isBlank_eq_isAsciiBlank (by omega), Bool.eq_false_iff, Ne, isAsciiBlank_iff]
  omega

/-- There are no blanks in a literal. -/
theorem Written.isBlank_of_mem {cs : List Char} (h : Written l cs) : ∀ c ∈ cs, isBlank c = false :=
  h.forall_mem (fun _ hc => isBlank_of_isDigit hc) (by decide +kernel) (by decide +kernel)
    (by decide +kernel)

/-- A literal has a digit, in front of the point or behind it. -/
theorem Written.exists_digit {cs : List Char} (h : Written l cs) : ∃ c ∈ cs, isDigit c = true := by
  have hfirst : ∀ ds : List Char, Digits ds → ds ≠ [] → ∃ c ∈ ds, isDigit c = true := by
    intro ds hds hne
    obtain ⟨c, hc⟩ := List.exists_mem_of_ne_nil ds hne
    exact ⟨c, hc, hds c hc⟩
  cases h with
  | whole hsign hwhole hne hexponent =>
    obtain ⟨c, hc, hdigit⟩ := hfirst _ hwhole hne
    exact ⟨c, by simp [hc], hdigit⟩
  | point hsign hwhole hfraction hne hexponent =>
    rcases hne with hne | hne
    · obtain ⟨c, hc, hdigit⟩ := hfirst _ hwhole hne
      exact ⟨c, by simp [hc], hdigit⟩
    · obtain ⟨c, hc, hdigit⟩ := hfirst _ hfraction hne
      exact ⟨c, by simp [hc], hdigit⟩

/-- A literal is let through. -/
theorem Written.isNumeral_of_mem {cs : List Char} (h : Written l cs) :
    ∀ c ∈ cs, isNumeral c = true :=
  h.forall_mem (fun c hc => by simp [isNumeral, hc]) (by decide) (by decide) (by decide)

end Literal

/-! ## Words -/

theorem toLower_ne_of_isNumeral {c : Char} (h : isNumeral c = true) : c.toLower ≠ 'n' := by
  simp only [isNumeral, Literal.isDigit, Bool.or_eq_true, Bool.and_eq_true, beq_iff_eq,
    decide_eq_true_eq] at h
  rcases h with ((((hdigit | rfl) | rfl) | rfl) | rfl) | rfl
  · have hcapital : ¬ (c.val ≥ 'A'.val ∧ c.val ≤ 'Z'.val) := fun hc =>
      absurd (UInt32.le_trans hc.1 hdigit.2) (by decide)
    have hsame : c.toLower = c := dif_neg hcapital
    rw [hsame]
    rintro rfl
    exact absurd hdigit.2 (by decide)
  all_goals decide

/-- A word has an `n`, so it is not let through. -/
theorem Binary64.ofWord?_eq_none {negative : Bool} {word : List Char}
    (h : ∀ c ∈ word, isNumeral c = true) : ofWord? negative word = none := by
  have hfree : 'n' ∉ word.map Char.toLower := by
    rw [List.mem_map]
    rintro ⟨c, hc, hn⟩
    exact toLower_ne_of_isNumeral (h c hc) hn
  unfold ofWord?
  dsimp only
  rw [if_neg, if_neg]
  · intro hnan
    simp [hnan] at hfree
  · rintro (hinf | hinf) <;> simp [hinf] at hfree

/-- Of what is let through only literals are doubles. -/
theorem Binary64.ofText?_of_isNumeral {cs : List Char} (h : ∀ c ∈ cs, isNumeral c = true) :
    ofText? cs = (Literal.read? cs).map (·.toBinary64) := by
  unfold ofText?
  cases Literal.read? cs with
  | some l => rfl
  | none =>
    obtain ⟨sign, -, hcs⟩ := Literal.readSign_sound cs
    refine ofWord?_eq_none fun c hc => h c ?_
    rw [hcs]
    exact List.mem_append_right _ hc

/-! ## Numeric texts -/

theorem Json.numericText?_eq (s : String) :
    numericText? s =
      (Literal.read? (Blank.trim isAsciiBlank s.toList)).map (·.toBinary64) := by
  unfold numericText?
  generalize Blank.trim isAsciiBlank s.toList = cs
  dsimp only
  split
  · next hthrough =>
    rw [Bool.and_eq_true, List.all_eq_true] at hthrough
    exact Binary64.ofText?_of_isNumeral hthrough.2
  · next hthrough =>
    cases hread : Literal.read? cs with
    | none => rfl
    | some l =>
      -- A literal would have been let through.
      have hwritten := Literal.read?_sound hread
      rw [Bool.and_eq_true, List.all_eq_true, List.any_eq_true] at hthrough
      exact absurd ⟨hwritten.exists_digit, hwritten.isNumeral_of_mem⟩ hthrough

/-- A numeric text is a literal between blanks of ASCII. -/
theorem Json.numericText?_eq_some_iff {s : String} {f : Binary64} :
    numericText? s = some f ↔
      ∃ l, Literal.Written l (Blank.trim isAsciiBlank s.toList) ∧ l.toBinary64 = f := by
  rw [numericText?_eq, Option.map_eq_some_iff]
  simp only [Literal.read?_eq_some_iff]

/-- No text spells a NaN. -/
theorem Json.isNaN_of_numericText? {s : String} {x : Binary64} (h : numericText? s = some x) :
    x.isNaN = false := by
  obtain ⟨l, -, rfl⟩ := numericText?_eq_some_iff.1 h
  exact l.isNaN_toBinary64

/-- What has blanks of ASCII around a literal is numeric, and nothing else is. -/
theorem Json.numericText?_eq_some_iff_between {s : String} {x : Binary64} :
    numericText? s = some x ↔
      ∃ front body back l, s.toList = front ++ (body ++ back) ∧
        (∀ c ∈ front, isAsciiBlank c = true) ∧ (∀ c ∈ back, isAsciiBlank c = true) ∧
        Literal.Written l body ∧ l.toBinary64 = x := by
  rw [numericText?_eq_some_iff]
  constructor
  · rintro ⟨l, hl, rfl⟩
    obtain ⟨front, back, hfront, hback, hs⟩ := Blank.exists_trim isAsciiBlank s.toList
    exact ⟨front, _, back, l, hs, hfront, hback, hl, rfl⟩
  · rintro ⟨front, body, back, l, hs, hfront, hback, hl, rfl⟩
    have hbody : ∀ c ∈ body, isAsciiBlank c = false :=
      fun c hc => isAsciiBlank_of_isBlank (hl.isBlank_of_mem c hc)
    rw [hs, Blank.trim_append hfront hback hbody]
    exact ⟨l, hl, rfl⟩

/-- **Numeric texts.** Exactly the literals of the grammar are numeric, with blanks of ASCII around
them or without: what the characters and the words of doubles let through besides is none. What is
spelled is the double of the literal, never a NaN, and more blanks of ASCII change nothing. -/
theorem numeric_texts_spelled (s : String) :
    ((numericText? s).isSome = true ↔
      ∃ l, Literal.Written l (Blank.trim isAsciiBlank s.toList)) ∧
    (∀ x, numericText? s = some x ↔
      ∃ front body back l, s.toList = front ++ (body ++ back) ∧
        (∀ c ∈ front, isAsciiBlank c = true) ∧ (∀ c ∈ back, isAsciiBlank c = true) ∧
        Literal.Written l body ∧ l.toBinary64 = x) ∧
    (∀ x, numericText? s = some x → x.isNaN = false) ∧
    ∀ front back : String, (∀ c ∈ front.toList, isAsciiBlank c = true) →
      (∀ c ∈ back.toList, isAsciiBlank c = true) →
        numericText? (front ++ s ++ back) = numericText? s := by
  refine ⟨?_, fun x => Json.numericText?_eq_some_iff_between,
    fun x hx => Json.isNaN_of_numericText? hx, ?_⟩
  · rw [Option.isSome_iff_exists]
    simp only [Json.numericText?_eq_some_iff]
    constructor
    · rintro ⟨x, l, hl, -⟩
      exact ⟨l, hl⟩
    · rintro ⟨l, hl⟩
      exact ⟨_, l, hl, rfl⟩
  · intro front back hfront hback
    have htrim : Blank.trim isAsciiBlank (front ++ s ++ back).toList =
        Blank.trim isAsciiBlank s.toList := by
      rw [String.toList_append, String.toList_append, List.append_assoc]
      exact Blank.trim_pad hfront hback
    rw [Json.numericText?_eq, Json.numericText?_eq, htrim]

/-- A text with blanks around it and all that a literal can have. -/
theorem padded_text_spelled :
    numericText? "\t+1.50e1\x0b" = numericText? "+1.50e1" ∧
      numericText? "+1.50e1" = some (.ofInt 15) ∧ (Binary64.ofInt 15).isNaN = false := by
  obtain ⟨-, -, hnan, hpad⟩ := numeric_texts_spelled "+1.50e1"
  have hnumeric : numericText? "+1.50e1" = some (.ofInt 15) := by decide +kernel
  have hfront : ("\t" : String).toList.all isAsciiBlank = true := by decide +kernel
  have hback : ("\x0b" : String).toList.all isAsciiBlank = true := by decide +kernel
  exact ⟨hpad "\t" "\x0b" (List.all_eq_true.1 hfront) (List.all_eq_true.1 hback), hnumeric,
    hnan _ hnumeric⟩

example : ["inf", "-Infinity", "NaN", "1e", ".", "1 2", "0x10", "+-1"].map numericText? =
    List.replicate 8 none := by
  decide +kernel

end Switchboard
