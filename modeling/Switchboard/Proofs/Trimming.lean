import Mathlib.Data.List.TakeWhile
import Switchboard.Text.Blank

/-!
# Trimmed texts

Trimming takes blanks from both ends. What lies between blanks and has none in it is left:

    cs = front ++ (trim blank cs ++ back)       with `front` and `back` blank
    trim blank (front ++ (t ++ back)) = t       with `front` and `back` blank, and no blank in `t`

The blanks of ASCII are blanks of Unicode, so the two ways to trim agree where the first leaves no
blank of the second (`trim_isBlank_eq`).
-/

namespace Switchboard

namespace Blank

variable {blank : Char → Bool}

/-- A text is its trimmed text between blanks. -/
theorem exists_trim (blank : Char → Bool) (cs : List Char) :
    ∃ front back, (∀ c ∈ front, blank c = true) ∧ (∀ c ∈ back, blank c = true) ∧
      cs = front ++ (trim blank cs ++ back) := by
  refine ⟨cs.takeWhile blank, ((cs.dropWhile blank).reverse.takeWhile blank).reverse, ?_, ?_, ?_⟩
  · exact fun c hc => List.mem_takeWhile_imp hc
  · exact fun c hc => List.mem_takeWhile_imp (List.mem_reverse.1 hc)
  · rw [trim, ← List.reverse_append, List.takeWhile_append_dropWhile, List.reverse_reverse,
      List.takeWhile_append_dropWhile]

/-- Blanks go, up to what is none. -/
theorem dropWhile_append {front t : List Char} (hfront : ∀ c ∈ front, blank c = true)
    (ht : ∀ c ∈ t.head?, blank c = false) : (front ++ t).dropWhile blank = t := by
  rw [List.dropWhile_append_of_pos hfront]
  cases t with
  | nil => rfl
  | cons c cs => exact List.dropWhile_cons_of_neg (by simp [ht c rfl])

/-- What lies between blanks and has none in it is left. -/
theorem trim_append {front t back : List Char} (hfront : ∀ c ∈ front, blank c = true)
    (hback : ∀ c ∈ back, blank c = true) (ht : ∀ c ∈ t, blank c = false) :
    trim blank (front ++ (t ++ back)) = t := by
  rw [trim]
  cases t with
  | nil =>
    have hall : ∀ c ∈ front ++ ([] ++ back), blank c = true :=
      List.forall_mem_append.2 ⟨hfront, hback⟩
    rw [List.dropWhile_eq_nil_iff.2 hall]
    rfl
  | cons d ds =>
    have hhead : ∀ c ∈ (d :: ds ++ back).head?, blank c = false := by
      intro c hc
      cases hc
      exact ht d List.mem_cons_self
    have hlast : ∀ c ∈ (d :: ds).reverse.head?, blank c = false :=
      fun c hc => ht c (List.mem_reverse.1 (List.mem_of_mem_head? hc))
    rw [dropWhile_append hfront hhead, List.reverse_append,
      dropWhile_append (fun c hc => hback c (List.mem_reverse.1 hc)) hlast, List.reverse_reverse]

/-- A text without blanks is left as it is. -/
theorem trim_eq_self {t : List Char} (ht : ∀ c ∈ t, blank c = false) : trim blank t = t := by
  have htrim : trim blank ([] ++ (t ++ [])) = t :=
    trim_append (List.forall_mem_nil _) (List.forall_mem_nil _) ht
  rwa [List.append_nil, List.nil_append] at htrim

/-- Blanks around a text go with its own. -/
theorem trim_pad {front cs back : List Char} (hfront : ∀ c ∈ front, blank c = true)
    (hback : ∀ c ∈ back, blank c = true) : trim blank (front ++ (cs ++ back)) = trim blank cs := by
  have hreverse : ∀ c ∈ back.reverse, blank c = true := fun c hc => hback c (List.mem_reverse.1 hc)
  rw [trim, trim, List.dropWhile_append_of_pos hfront, List.dropWhile_append]
  split
  · next hempty =>
    rw [List.isEmpty_iff.1 hempty, List.dropWhile_eq_nil_iff.2 hback]
  · rw [List.reverse_append, List.dropWhile_append_of_pos hreverse]

end Blank

/-! ## Two kinds of blanks -/

theorem isAsciiBlank_iff (c : Char) :
    isAsciiBlank c = true ↔ c.toNat = 32 ∨ 9 ≤ c.toNat ∧ c.toNat ≤ 13 := by
  rw [isAsciiBlank, Bool.or_eq_true, Bool.and_eq_true, decide_eq_true_eq, decide_eq_true_eq,
    beq_iff_eq, ← Char.toNat_inj]
  rfl

theorem contains_whiteSpace_iff : ∀ n < 128,
    (Property.whiteSpace.contains n = true ↔ n = 32 ∨ 9 ≤ n ∧ n ≤ 13) := by
  decide +kernel

/-- In ASCII the two kinds of blanks agree. -/
theorem isBlank_eq_isAsciiBlank {c : Char} (h : c.toNat < 128) : isBlank c = isAsciiBlank c := by
  rw [Bool.eq_iff_iff, isAsciiBlank_iff]
  exact contains_whiteSpace_iff _ h

theorem isBlank_of_isAsciiBlank {c : Char} (h : isAsciiBlank c = true) : isBlank c = true := by
  have hlt : c.toNat < 128 := by
    have := (isAsciiBlank_iff c).1 h
    omega
  rw [isBlank_eq_isAsciiBlank hlt, h]

theorem isAsciiBlank_of_isBlank {c : Char} (h : isBlank c = false) : isAsciiBlank c = false := by
  rw [Bool.eq_false_iff] at *
  exact mt isBlank_of_isAsciiBlank h

/-- A text is trimmed alike if trimming it of the blanks of ASCII leaves no other blank. -/
theorem trim_isBlank_eq {cs : List Char} (h : ∀ c ∈ Blank.trim isAsciiBlank cs, isBlank c = false) :
    Blank.trim isBlank cs = Blank.trim isAsciiBlank cs := by
  obtain ⟨front, back, hfront, hback, hcs⟩ := Blank.exists_trim isAsciiBlank cs
  generalize Blank.trim isAsciiBlank cs = t at *
  rw [hcs]
  exact Blank.trim_append (fun c hc => isBlank_of_isAsciiBlank (hfront c hc))
    (fun c hc => isBlank_of_isAsciiBlank (hback c hc)) h

end Switchboard
