import Mathlib.Data.List.TakeWhile
import Switchboard.Number.Literal

/-!
# The grammar of decimal literals

A literal is written as a sign, digits with a point among them or none, and an exponent, of which
only the digits have to be there:

    literal   = sign digits exponent | sign [digits] "." [digits] exponent
    exponent  = "" | ("e" | "E") integer
    integer   = sign digits
    sign      = "" | "+" | "-"

`Written l cs` says that `cs` is such a text, and which literal it writes. The reader accepts these
texts and no others (`read?_eq_some_iff`). Of these the integers are the texts without a point and a
mark of an exponent (`integer_iff_written`).
-/

namespace Switchboard.Literal

/-! ## Grammar -/

/-- A sign: whether it is a minus, and how it is written. -/
inductive Sign : Bool → List Char → Prop
  | absent : Sign false []
  | plus : Sign false ['+']
  | minus : Sign true ['-']

def Digits (cs : List Char) : Prop := ∀ c ∈ cs, isDigit c = true

/-- An integer and how it is written. -/
inductive Integer : Int → List Char → Prop
  | written {negative : Bool} {sign digits : List Char} (hsign : Sign negative sign)
      (hdigits : Digits digits) (hne : digits ≠ []) :
      Integer (if negative then -(natOfDigits digits : Int) else natOfDigits digits)
        (sign ++ digits)

/-- An exponent and how it is written. -/
inductive Exponent : Int → List Char → Prop
  | absent : Exponent 0 []
  | written {mark : Char} {exponent : Int} {cs : List Char} (hmark : mark = 'e' ∨ mark = 'E')
      (hinteger : Integer exponent cs) : Exponent exponent (mark :: cs)

/-- A literal and how it is written. -/
inductive Written : Literal → List Char → Prop
  | whole {negative : Bool} {exponent : Int} {sign whole tail : List Char}
      (hsign : Sign negative sign) (hwhole : Digits whole) (hne : whole ≠ [])
      (hexponent : Exponent exponent tail) :
      Written ⟨negative, whole, [], exponent⟩ (sign ++ (whole ++ tail))
  | point {negative : Bool} {exponent : Int} {sign whole fraction tail : List Char}
      (hsign : Sign negative sign) (hwhole : Digits whole) (hfraction : Digits fraction)
      (hne : whole ≠ [] ∨ fraction ≠ []) (hexponent : Exponent exponent tail) :
      Written ⟨negative, whole, fraction, exponent⟩ (sign ++ (whole ++ '.' :: (fraction ++ tail)))

/-! ## Signs and digits -/

/-- A text that does not start with a digit, so that digits in front of it end there. -/
def EndsDigits (cs : List Char) : Prop := ∀ c ∈ cs.head?, isDigit c = false

theorem readSign_sound (cs : List Char) :
    ∃ sign, Sign (readSign cs).1 sign ∧ cs = sign ++ (readSign cs).2 := by
  unfold readSign
  split
  · exact ⟨_, .minus, rfl⟩
  · exact ⟨_, .plus, rfl⟩
  · exact ⟨_, .absent, rfl⟩

/-- A sign is read in front of what starts with none. -/
theorem readSign_complete {negative : Bool} {sign rest : List Char} (h : Sign negative sign)
    (hrest : ∀ c ∈ rest.head?, c ≠ '+' ∧ c ≠ '-') : readSign (sign ++ rest) = (negative, rest) := by
  cases h with
  | plus => rfl
  | minus => rfl
  | absent =>
    rw [List.nil_append]
    unfold readSign
    split
    · exact absurd rfl (hrest _ rfl).2
    · exact absurd rfl (hrest _ rfl).1
    · rfl

theorem ne_sign_of_isDigit {c : Char} (h : isDigit c = true) : c ≠ '+' ∧ c ≠ '-' := by
  constructor
  · rintro rfl
    exact absurd h (by decide)
  · rintro rfl
    exact absurd h (by decide)

/-- What starts with a digit starts with no sign. -/
theorem Digits.head?_append {ds : List Char} (h : Digits ds) (hne : ds ≠ []) (tail : List Char) :
    ∀ c ∈ (ds ++ tail).head?, c ≠ '+' ∧ c ≠ '-' := by
  obtain ⟨d, ds, rfl⟩ := List.exists_cons_of_ne_nil hne
  intro c hc
  obtain rfl : d = c := Option.some.inj hc
  exact ne_sign_of_isDigit (h d List.mem_cons_self)

theorem digits_takeWhile (cs : List Char) : Digits (cs.takeWhile isDigit) :=
  fun _ hc => List.mem_takeWhile_imp hc

/-- Digits end where a text goes on with something else. -/
theorem Digits.span {ds tail : List Char} (h : Digits ds) (htail : EndsDigits tail) :
    (ds ++ tail).takeWhile isDigit = ds ∧ (ds ++ tail).dropWhile isDigit = tail := by
  rw [List.takeWhile_append_of_pos h, List.dropWhile_append_of_pos h]
  cases tail with
  | nil => exact ⟨List.append_nil _, rfl⟩
  | cons c cs =>
    have hc : ¬ isDigit c = true := by simp [htail c rfl]
    rw [List.takeWhile_cons_of_neg hc, List.dropWhile_cons_of_neg hc, List.append_nil]
    exact ⟨rfl, rfl⟩

/-! ## Integers and exponents -/

/-- An integer is read as a sign and what is behind it. -/
theorem integer_iff {i : Int} {cs : List Char} :
    Integer i cs ↔ (readSign cs).2 ≠ [] ∧ Digits (readSign cs).2 ∧
      (if (readSign cs).1 then -(natOfDigits (readSign cs).2 : Int)
        else natOfDigits (readSign cs).2) = i := by
  constructor
  · rintro ⟨hsign, hdigits, hne⟩
    have hread := readSign_complete hsign (hdigits.head?_append hne [])
    rw [List.append_nil] at hread
    rw [hread]
    exact ⟨hne, hdigits, rfl⟩
  · rintro ⟨hne, hdigits, rfl⟩
    obtain ⟨sign, hsign, hcs⟩ := readSign_sound cs
    have hinteger := Integer.written hsign hdigits hne
    rwa [← hcs] at hinteger

theorem Exponent.endsDigits {exponent : Int} {cs : List Char} (h : Exponent exponent cs) :
    EndsDigits cs := by
  cases h with
  | absent =>
    intro c hc
    cases hc
  | written hmark =>
    intro c hc
    cases hc
    rcases hmark with rfl | rfl
    · decide
    · decide

theorem readExponent?_eq_some_iff {cs : List Char} {exponent : Int} :
    readExponent? cs = some exponent ↔ Exponent exponent cs := by
  constructor
  · intro h
    unfold readExponent? at h
    split at h
    · cases h
      exact .absent
    · split at h
      · next hmark =>
        refine .written hmark (integer_iff.2 ?_)
        simpa [Digits, and_assoc] using h
      · cases h
  · intro h
    cases h with
    | absent => rfl
    | written hmark hinteger =>
      rw [readExponent?, if_pos hmark]
      simpa [Digits, and_assoc] using integer_iff.1 hinteger

/-! ## Literals -/

theorem read?_sound {cs : List Char} {l : Literal} (h : read? cs = some l) : Written l cs := by
  obtain ⟨sign, hsign, hcs⟩ := readSign_sound cs
  unfold read? at h
  generalize readSign cs = read at *
  obtain ⟨negative, body⟩ := read
  dsimp only at h hsign hcs
  have hbody := (List.takeWhile_append_dropWhile (p := isDigit) (l := body)).symm
  have hwhole := digits_takeWhile body
  generalize body.takeWhile isDigit = whole at *
  generalize body.dropWhile isDigit = rest at *
  subst hbody hcs
  split at h
  · next rest =>
    have hrest := (List.takeWhile_append_dropWhile (p := isDigit) (l := rest)).symm
    have hfraction := digits_takeWhile rest
    generalize rest.takeWhile isDigit = fraction at *
    generalize rest.dropWhile isDigit = tail at *
    subst hrest
    split at h
    · cases h
    · next hne =>
      obtain ⟨exponent, hexponent, rfl⟩ := Option.map_eq_some_iff.1 h
      simp only [Bool.and_eq_true, List.isEmpty_iff, not_and_or] at hne
      exact .point hsign hwhole hfraction hne (readExponent?_eq_some_iff.1 hexponent)
  · split at h
    · cases h
    · next hne =>
      obtain ⟨exponent, hexponent, rfl⟩ := Option.map_eq_some_iff.1 h
      exact .whole hsign hwhole (by simpa using hne) (readExponent?_eq_some_iff.1 hexponent)

theorem read?_complete {cs : List Char} {l : Literal} (h : Written l cs) : read? cs = some l := by
  cases h with
  | whole hsign hwhole hne hexponent =>
    next negative exponent sign whole tail =>
    obtain ⟨htake, hdrop⟩ := hwhole.span hexponent.endsDigits
    have hnePoint : ∀ rest, tail ≠ '.' :: rest := by
      rintro rest rfl
      cases hexponent with
      | written hmark => rcases hmark with h | h <;> cases h
    unfold read?
    rw [readSign_complete hsign (hwhole.head?_append hne tail)]
    dsimp only
    rw [htake, hdrop]
    split
    · exact absurd rfl (hnePoint _)
    · rw [readExponent?_eq_some_iff.2 hexponent]
      simp [hne]
  | point hsign hwhole hfraction hne hexponent =>
    next negative exponent sign whole fraction tail =>
    have hpoint : EndsDigits ('.' :: (fraction ++ tail)) := by
      intro c hc
      cases hc
      decide
    obtain ⟨htake, hdrop⟩ := hwhole.span hpoint
    obtain ⟨htakeFraction, hdropFraction⟩ := hfraction.span hexponent.endsDigits
    have hhead : ∀ c ∈ (whole ++ '.' :: (fraction ++ tail)).head?, c ≠ '+' ∧ c ≠ '-' := by
      cases whole with
      | nil =>
        intro c hc
        cases hc
        decide
      | cons d ds => exact hwhole.head?_append (List.cons_ne_nil d ds) _
    unfold read?
    rw [readSign_complete hsign hhead]
    dsimp only
    rw [htake, hdrop]
    split
    · next rest heq =>
      obtain rfl := (List.cons.inj heq).2
      rw [htakeFraction, hdropFraction, readExponent?_eq_some_iff.2 hexponent]
      simpa [← not_and_or] using hne
    · next hnot => exact absurd rfl (hnot _)

/-- **The reader accepts the texts of the grammar, and no others.** -/
theorem read?_eq_some_iff {cs : List Char} {l : Literal} : read? cs = some l ↔ Written l cs :=
  ⟨read?_sound, read?_complete⟩

/-! ## Characters -/

section Characters

variable {p : Char → Prop} (hdigit : ∀ c, isDigit c = true → p c)

theorem Sign.forall_mem {negative : Bool} {sign : List Char} (h : Sign negative sign)
    (hsign : p '+' ∧ p '-') : ∀ c ∈ sign, p c := by
  cases h with
  | absent => exact List.forall_mem_nil _
  | plus => exact List.forall_mem_singleton.2 hsign.1
  | minus => exact List.forall_mem_singleton.2 hsign.2

include hdigit

theorem Integer.forall_mem {i : Int} {cs : List Char} (h : Integer i cs) (hsign : p '+' ∧ p '-') :
    ∀ c ∈ cs, p c := by
  obtain ⟨hs, hdigits, -⟩ := h
  refine List.forall_mem_append.2 ⟨hs.forall_mem hsign, ?_⟩
  exact fun c hc => hdigit c (hdigits c hc)

theorem Exponent.forall_mem {exponent : Int} {cs : List Char} (h : Exponent exponent cs)
    (hsign : p '+' ∧ p '-') (hmark : p 'e' ∧ p 'E') : ∀ c ∈ cs, p c := by
  cases h with
  | absent => exact List.forall_mem_nil _
  | written hm hinteger =>
    refine List.forall_mem_cons.2 ⟨?_, hinteger.forall_mem hdigit hsign⟩
    rcases hm with rfl | rfl
    · exact hmark.1
    · exact hmark.2

/-- A literal is written with digits, signs, a point and the marks of an exponent. -/
theorem Written.forall_mem {l : Literal} {cs : List Char} (h : Written l cs)
    (hsign : p '+' ∧ p '-') (hpoint : p '.') (hmark : p 'e' ∧ p 'E') : ∀ c ∈ cs, p c := by
  cases h with
  | whole hs hwhole _ hexponent =>
    refine List.forall_mem_append.2 ⟨hs.forall_mem hsign, List.forall_mem_append.2 ⟨?_, ?_⟩⟩
    · exact fun c hc => hdigit c (hwhole c hc)
    · exact hexponent.forall_mem hdigit hsign hmark
  | point hs hwhole hfraction _ hexponent =>
    refine List.forall_mem_append.2 ⟨hs.forall_mem hsign, List.forall_mem_append.2 ⟨?_, ?_⟩⟩
    · exact fun c hc => hdigit c (hwhole c hc)
    · refine List.forall_mem_cons.2 ⟨hpoint, List.forall_mem_append.2 ⟨?_, ?_⟩⟩
      · exact fun c hc => hdigit c (hfraction c hc)
      · exact hexponent.forall_mem hdigit hsign hmark

end Characters

/-! ## Literals of integers -/

/-- A text without a point and without the mark of an exponent. -/
def Unmarked (cs : List Char) : Prop := ∀ c ∈ cs, c ≠ '.' ∧ c ≠ 'e' ∧ c ≠ 'E'

instance (cs : List Char) : Decidable (Unmarked cs) :=
  List.decidableBAll (fun c => c ≠ '.' ∧ c ≠ 'e' ∧ c ≠ 'E') cs

/-- The integer in front of the point. -/
def integer (l : Literal) : Int :=
  if l.negative then -(natOfDigits l.whole : Int) else natOfDigits l.whole

/-- Without a point and an exponent a literal is an integer. -/
theorem Written.integer {l : Literal} {cs : List Char} (h : Written l cs)
    (hunmarked : Unmarked cs) :
    Integer l.integer cs ∧ l = ⟨l.negative, l.whole, [], 0⟩ := by
  cases h with
  | whole hsign hwhole hne hexponent =>
    cases hexponent with
    | absent =>
      rw [List.append_nil]
      exact ⟨.written hsign hwhole hne, rfl⟩
    | written hmark =>
      exfalso
      have hmem :=
        hunmarked _ (List.mem_append_right _ (List.mem_append_right _ List.mem_cons_self))
      rcases hmark with rfl | rfl
      · exact hmem.2.1 rfl
      · exact hmem.2.2 rfl
  | point =>
    exfalso
    exact (hunmarked '.' (by simp)).1 rfl

theorem Integer.unmarked {i : Int} {cs : List Char} (h : Integer i cs) : Unmarked cs := by
  refine h.forall_mem (fun c hc => ?_) (by decide)
  refine ⟨?_, ?_, ?_⟩ <;>
  · rintro rfl
    exact absurd hc (by decide)

/-- **The integers are the literals without a point and an exponent.** -/
theorem integer_iff_written {i : Int} {cs : List Char} :
    Integer i cs ↔ Unmarked cs ∧ ∃ l, Written l cs ∧ l.integer = i := by
  constructor
  · intro h
    refine ⟨h.unmarked, ?_⟩
    obtain ⟨hsign, hdigits, hne⟩ := h
    have hwritten := Written.whole hsign hdigits hne .absent
    rw [List.append_nil] at hwritten
    exact ⟨_, hwritten, rfl⟩
  · rintro ⟨hunmarked, l, hwritten, rfl⟩
    exact (hwritten.integer hunmarked).1

end Switchboard.Literal
