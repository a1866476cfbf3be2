import Switchboard.Proofs.Splits
import Switchboard.Template.Expression

/-!
# Sources of parts

Expansion takes the parts of a template to the sources of their pieces, one after the other:

    expand (textOf ps) = sourceOf (piecesOf ps)                 (expand_textOf)
    source (textOf ps) = "^" ++ sourceOf (piecesOf ps) ++ "$"   (source_textOf)

The first pass replaces the optional placeholders and must not mistake anything else for one; what
it leaves of a part depends on whether an optional placeholder follows (`Part.half`). The second
pass needs the closing braces of the required placeholders that are left.
-/

namespace Switchboard.Template

def Piece.source : Piece → List Char
  | char c => [c]
  | text => requiredGroup
  | option => optionalGroup

def sourceOf (ps : List Piece) : List Char := ps.flatMap Piece.source

/-! ## Tests -/

theorem plain_ne {c : Char} (hc : Part.isPlain c = true) :
    c ≠ '\n' ∧ c ≠ braceOpen ∧ c ≠ braceClose := by
  refine ⟨?_, ?_, ?_⟩ <;>
  · rintro rfl
    exact absurd hc (by decide)

/-- Whether a part is a character that is no brace, or a placeholder that is well formed. -/
def Part.isRegular : Part → Bool
  | char c => c ≠ braceOpen ∧ c ≠ braceClose
  | required name => name.all isInName && name.head? != some ':'
  | optional name => name.all isInName

theorem Part.isRegular_of_isWellFormed {p : Part} (h : p.isWellFormed = true) :
    p.isRegular = true := by
  cases p with
  | char c => simpa [isRegular] using (plain_ne h).2
  | required name => exact h
  | optional name => exact h

theorem inName_ne {c : Char} (hc : Part.isInName c = true) :
    c ≠ braceOpen ∧ c ≠ braceClose ∧ c ≠ '\n' := by
  simpa [Part.isInName] using hc

theorem afterBrace?_name {name : List Char} (h : name.all Part.isInName = true) (cs : List Char) :
    afterBrace? (name ++ braceClose :: cs) = some cs := by
  induction name with
  | nil => simp [afterBrace?]
  | cons c name ih =>
    rw [List.all_cons, Bool.and_eq_true] at h
    obtain ⟨-, hb, hn⟩ := inName_ne h.1
    rw [List.cons_append, afterBrace?, if_neg hb, if_neg hn, ih h.2]

theorem afterMark?_name {name : List Char} (h : name.all Part.isInName = true) (cs : List Char) :
    afterMark? (name ++ '?' :: braceClose :: cs) = some cs := by
  induction name with
  | nil => simp [afterMark?]
  | cons c name ih =>
    rw [List.all_cons, Bool.and_eq_true] at h
    obtain ⟨-, -, hn⟩ := inName_ne h.1
    have hnext : (name ++ '?' :: braceClose :: cs).head? ≠ some braceClose := by
      cases name with
      | nil => simp [braceClose]
      | cons d name =>
        rw [List.all_cons, Bool.and_eq_true] at h
        simpa using (inName_ne h.2.1).2.1
    rw [List.cons_append, afterMark?, if_neg fun h => hnext h.2, if_neg hn, ih h.2]

theorem afterOptional?_optional {name : List Char} (h : name.all Part.isInName = true)
    (cs : List Char) : afterOptional? ((Part.optional name).text ++ cs) = some cs := by
  have := afterMark?_name h cs
  simpa [Part.text, afterOptional?] using this

theorem afterRequired?_required {name : List Char} (h : name.all Part.isInName = true)
    (cs : List Char) : afterRequired? ((Part.required name).text ++ cs) = some cs := by
  have := afterBrace?_name h cs
  simpa [Part.text, afterRequired?] using this

theorem afterOptional?_of_ne {cs : List Char} (h : cs.head? ≠ some braceOpen) :
    afterOptional? cs = none := by
  unfold afterOptional?
  split
  · rename_i c d cs
    exact if_neg fun hc => h (by rw [hc.1]; rfl)
  · rfl

theorem afterOptional?_name {name : List Char} (h : name.all Part.isInName = true)
    (cs : List Char) : afterOptional? (name ++ braceClose :: cs) = none := by
  refine afterOptional?_of_ne ?_
  cases name with
  | nil => simp [braceOpen, braceClose]
  | cons c name =>
    rw [List.all_cons, Bool.and_eq_true] at h
    simpa using (inName_ne h.1).1

/-- A required placeholder is not taken for an optional one: its name has no colon in front. -/
theorem afterOptional?_required {name : List Char} (h : (Part.required name).isRegular = true)
    (cs : List Char) : afterOptional? ((Part.required name).text ++ cs) = none := by
  rw [Part.isRegular, Bool.and_eq_true] at h
  cases name with
  | nil => simp [Part.text, afterOptional?, braceClose]
  | cons c name =>
    have hc : c ≠ ':' := by simpa using h.2
    simp [Part.text, afterOptional?, hc]

theorem afterOptionalWithin?_of_some {c : Char} {cs rest : List Char} (hc : c ≠ '\n')
    (h : afterOptional? cs = some rest) : afterOptionalWithin? (c :: cs) = some rest := by
  simp [afterOptionalWithin?, hc, h]

/-- An optional placeholder at the front needs no character before it. -/
theorem afterOptionalWithin?_of_afterOptional? {cs rest : List Char}
    (h : afterOptional? cs = some rest) : afterOptionalWithin? cs = some rest := by
  cases cs with
  | nil => cases h
  | cons c cs =>
    cases cs with
    | nil => cases h
    | cons d cs =>
      have hstart : c = braceOpen ∧ d = ':' := by
        by_contra hne
        rw [afterOptional?, if_neg hne] at h
        cases h
      have hnone : afterOptional? (d :: cs) = none :=
        afterOptional?_of_ne (by simp [hstart.2, braceOpen])
      simp [afterOptionalWithin?, hnone, h]

theorem afterOptionalWithin?_of_none {c : Char} {cs : List Char} (h : afterOptional? cs = none) :
    afterOptionalWithin? (c :: cs) = afterOptional? (c :: cs) := by
  simp [afterOptionalWithin?, h]

theorem afterOptionalWithin?_cons_of_ne {c : Char} {cs : List Char} (hc : c ≠ braceOpen)
    (hcs : afterOptional? cs = none) : afterOptionalWithin? (c :: cs) = none := by
  rw [afterOptionalWithin?_of_none hcs]
  exact afterOptional?_of_ne (by simpa using hc)

/-! ## The passes -/

theorem expandOptional_of_some {cs rest : List Char} (h : afterOptionalWithin? cs = some rest) :
    expandOptional cs = optionalGroup ++ expandOptional rest := by
  rw [expandOptional]
  split <;> simp_all

theorem expandOptional_cons {c : Char} {cs : List Char}
    (h : afterOptionalWithin? (c :: cs) = none) :
    expandOptional (c :: cs) = c :: expandOptional cs := by
  rw [expandOptional]
  split <;> simp_all

theorem expandRequired_of_some {cs rest : List Char} (h : afterRequired? cs = some rest) :
    expandRequired cs = requiredGroup ++ expandRequired rest := by
  rw [expandRequired]
  split <;> simp_all

theorem expandRequired_append {front : List Char} (h : braceOpen ∉ front) (cs : List Char) :
    expandRequired (front ++ cs) = front ++ expandRequired cs := by
  induction front with
  | nil => rfl
  | cons c front ih =>
    rw [List.mem_cons, not_or] at h
    have hc : afterRequired? (c :: (front ++ cs)) = none := if_neg fun hc => h.1 hc.symm
    rw [List.cons_append, expandRequired]
    split <;> simp_all

/-- Whether parts start with an optional placeholder. -/
def startsWithOptional : List Part → Bool
  | .optional _ :: _ => true
  | _ => false

def Part.isRequired : Part → Bool
  | required _ => true
  | char _ | optional _ => false

/-- Parts are apart exactly if no optional placeholder takes the closing brace of a required one. -/
theorem isChain_cons_iff {p : Part} {ps : List Part} :
    ((p :: ps).IsChain fun p q => p.mayPrecede q = true) ↔
      (startsWithOptional ps = true → p.isRequired = false) ∧
        ps.IsChain fun p q => p.mayPrecede q = true := by
  rw [List.isChain_cons]
  refine and_congr_left' ?_
  cases ps with
  | nil => simp [startsWithOptional]
  | cons q ps => cases p <;> cases q <;> simp [Part.mayPrecede, Part.isRequired, startsWithOptional]

theorem textOf_cons (p : Part) (ps : List Part) : textOf (p :: ps) = p.text ++ textOf ps := rfl

/-- Nothing but an optional placeholder is taken for one. -/
theorem isSome_afterOptional?_textOf {ps : List Part} (hps : ∀ p ∈ ps, p.isRegular = true) :
    (afterOptional? (textOf ps)).isSome = startsWithOptional ps := by
  cases ps with
  | nil => rfl
  | cons p ps =>
    have hp := hps p List.mem_cons_self
    cases p with
    | char c =>
      have hne : (textOf (.char c :: ps)).head? ≠ some braceOpen := by
        simpa [textOf_cons, Part.text] using (of_decide_eq_true hp).1
      rw [afterOptional?_of_ne hne]
      rfl
    | required name =>
      rw [textOf_cons, afterOptional?_required hp]
      rfl
    | optional name =>
      rw [textOf_cons, afterOptional?_optional hp]
      rfl

/-! ### The first pass -/

/-- What the first pass leaves of a part, by whether an optional placeholder follows it. -/
def Part.half (followed : Bool) : Part → List Char
  | char c => if followed && c != '\n' then [] else [c]
  | required name => braceOpen :: (name ++ if followed then [] else [braceClose])
  | optional _ => optionalGroup

/-- What the first pass leaves of parts. -/
def halves : List Part → List Char
  | [] => []
  | p :: ps => p.half (startsWithOptional ps) ++ halves ps

/-- An optional placeholder takes the character in front of it, unless that ends a line. -/
theorem expandOptional_char {c : Char} (hc : c ≠ braceOpen) (cs : List Char) :
    expandOptional (c :: cs) =
      (Part.char c).half (afterOptional? cs).isSome ++ expandOptional cs := by
  cases hcs : afterOptional? cs with
  | none =>
    rw [expandOptional_cons (afterOptionalWithin?_cons_of_ne hc hcs)]
    rfl
  | some rest =>
    by_cases hn : c = '\n'
    · have hnone : afterOptionalWithin? (c :: cs) = none := by
        have hself : afterOptional? (c :: cs) = none := afterOptional?_of_ne (by simpa using hc)
        simp [afterOptionalWithin?, hn, hn ▸ hself]
      rw [expandOptional_cons hnone]
      simp [Part.half, hn]
    · rw [expandOptional_of_some (afterOptionalWithin?_of_some hn hcs),
        expandOptional_of_some (afterOptionalWithin?_of_afterOptional? hcs)]
      simp [Part.half, hn]

/-- The first pass keeps the name of a required placeholder. -/
theorem expandOptional_name {name : List Char} (h : name.all Part.isInName = true)
    (cs : List Char) :
    expandOptional (name ++ braceClose :: cs) = name ++ expandOptional (braceClose :: cs) := by
  induction name with
  | nil => rfl
  | cons c name ih =>
    rw [List.all_cons, Bool.and_eq_true] at h
    rw [List.cons_append, expandOptional_char (inName_ne h.1).1, afterOptional?_name h.2, ih h.2]
    rfl

/-- The step lemma of the first pass: what is left of one part in front of others. -/
theorem expandOptional_part {p : Part} (hp : p.isRegular = true) (cs : List Char) :
    expandOptional (p.text ++ cs) = p.half (afterOptional? cs).isSome ++ expandOptional cs := by
  cases p with
  | char c => exact expandOptional_char (of_decide_eq_true hp).1 cs
  | required name =>
    have hself := afterOptional?_required hp cs
    have htext : (Part.required name).text ++ cs = braceOpen :: (name ++ braceClose :: cs) := by
      simp [Part.text]
    rw [Part.isRegular, Bool.and_eq_true] at hp
    rw [htext] at hself ⊢
    have hnone := (afterOptionalWithin?_of_none (afterOptional?_name hp.1 cs)).trans hself
    -- the closing brace is taken like any other character
    rw [expandOptional_cons hnone, expandOptional_name hp.1, expandOptional_char (by decide)]
    simp [Part.half, braceClose]
  | optional name =>
    exact expandOptional_of_some
      (afterOptionalWithin?_of_afterOptional? (afterOptional?_optional hp cs))

/-- The run lemma of the first pass. -/
theorem expandOptional_textOf {ps : List Part} (hps : ∀ p ∈ ps, p.isRegular = true) :
    expandOptional (textOf ps) = halves ps := by
  induction ps with
  | nil => simp [textOf, expandOptional, halves, afterOptionalWithin?, afterOptional?]
  | cons p ps ih =>
    obtain ⟨hp, hps⟩ := List.forall_mem_cons.1 hps
    rw [textOf_cons, expandOptional_part hp, isSome_afterOptional?_textOf hps, ih hps, halves]

/-! ### The second pass -/

/-- The pieces of a part, by whether an optional placeholder follows it. -/
def Part.pieces (followed : Bool) : Part → List Piece
  | char c => if followed && c != '\n' then [] else [.char c]
  | required _ => [.text]
  | optional _ => [.option]

/-- The pieces of parts. An optional placeholder takes the character in front of it with it, unless
that ends a line. -/
def piecesOf : List Part → List Piece
  | [] => []
  | p :: ps => p.pieces (startsWithOptional ps) ++ piecesOf ps

theorem sourceOf_append (ps qs : List Piece) : sourceOf (ps ++ qs) = sourceOf ps ++ sourceOf qs :=
  List.flatMap_append

/-- The step lemma of the second pass: a part that has kept its closing brace. -/
theorem expandRequired_half {p : Part} (hp : p.isRegular = true) {followed : Bool}
    (h : followed = true → p.isRequired = false) (cs : List Char) :
    expandRequired (p.half followed ++ cs) =
      sourceOf (p.pieces followed) ++ expandRequired cs := by
  cases p with
  | char c =>
    have hc : c ≠ braceOpen := (of_decide_eq_true hp).1
    by_cases hf : (followed && c != '\n') = true
    · simp [Part.half, Part.pieces, hf, sourceOf]
    · simpa [Part.half, Part.pieces, hf, sourceOf, Piece.source] using
        expandRequired_append (by simpa using hc.symm : braceOpen ∉ [c]) cs
  | required name =>
    obtain rfl : followed = false := by
      cases followed with
      | false => rfl
      | true => cases h rfl
    rw [Part.isRegular, Bool.and_eq_true] at hp
    exact expandRequired_of_some (afterRequired?_required hp.1 cs)
  | optional name => exact expandRequired_append (by decide : braceOpen ∉ optionalGroup) cs

/-- The run lemma of the second pass. -/
theorem expandRequired_halves {ps : List Part} (hps : ∀ p ∈ ps, p.isRegular = true)
    (happart : ps.IsChain fun p q => p.mayPrecede q = true) :
    expandRequired (halves ps) = sourceOf (piecesOf ps) := by
  induction ps with
  | nil => simp [halves, expandRequired, afterRequired?, piecesOf, sourceOf]
  | cons p ps ih =>
    obtain ⟨hp, hps⟩ := List.forall_mem_cons.1 hps
    obtain ⟨hkeeps, happart⟩ := isChain_cons_iff.1 happart
    rw [halves, expandRequired_half hp hkeeps, ih hps happart, piecesOf, sourceOf_append]

/-- Expansion takes parts to the sources of their pieces. -/
theorem expand_textOf {ps : List Part} (hps : ∀ p ∈ ps, p.isRegular = true)
    (happart : ps.IsChain fun p q => p.mayPrecede q = true) :
    expand (textOf ps) = sourceOf (piecesOf ps) := by
  rw [expand, expandOptional_textOf hps, expandRequired_halves hps happart]

/-! ### Templates -/

theorem source_eq (template : String) :
    source template = "^" ++ String.ofList (expand template.toList) ++ "$" := by
  rw [← String.toList_inj]
  simp [source]

theorem source_textOf {ps : List Part} (hps : ∀ p ∈ ps, p.isRegular = true)
    (happart : ps.IsChain fun p q => p.mayPrecede q = true) :
    source (String.ofList (textOf ps)) =
      String.ofList ('^' :: sourceOf (piecesOf ps) ++ ['$']) := by
  rw [source, String.toList_ofList, expand_textOf hps happart]

theorem pieces_eq_piecesOf {ps : List Part} (hps : ∀ p ∈ ps, p.isWellFormed = true) :
    pieces ps = piecesOf ps := by
  induction ps using pieces.induct with
  | case1 => rfl
  | case2 c name ps ih =>
    obtain ⟨hc, hps⟩ := List.forall_mem_cons.1 hps
    rw [pieces, ih (List.forall_mem_cons.1 hps).2]
    simp [piecesOf, Part.pieces, startsWithOptional, (plain_ne hc).1]
  | case3 c ps hnot ih =>
    have hstart : startsWithOptional ps = false := by
      unfold startsWithOptional
      split
      · exact absurd rfl (hnot _ _)
      · rfl
    rw [pieces, ih (List.forall_mem_cons.1 hps).2]
    · simp [piecesOf, Part.pieces, hstart]
    · exact hnot
  | case4 name ps ih =>
    rw [pieces, ih (List.forall_mem_cons.1 hps).2]
    rfl
  | case5 name ps ih =>
    rw [pieces, ih (List.forall_mem_cons.1 hps).2]
    rfl

/-! ## Placeholders are noticed -/

theorem anySuffix_append {test : List Char → Bool} {cs : List Char} (h : test cs = true)
    (front : List Char) : anySuffix test (front ++ cs) = true := by
  induction front with
  | nil => cases cs <;> simp [anySuffix, h]
  | cons c front ih => rw [List.cons_append, anySuffix, ih, Bool.or_true]

theorem hasPlaceholders_textOf {ps : List Part} (hps : ∀ p ∈ ps, p.isRegular = true)
    (h : ∃ p ∈ ps, p.isPlaceholder = true) :
    hasPlaceholders (String.ofList (textOf ps)) = true := by
  obtain ⟨p, hp, hplaceholder⟩ := h
  have hregular := hps p hp
  obtain ⟨front, back, rfl⟩ := List.append_of_mem hp
  have htext : textOf (front ++ p :: back) = textOf front ++ (p.text ++ textOf back) := by
    rw [textOf, List.flatMap_append, List.flatMap_cons]
    rfl
  rw [hasPlaceholders, String.toList_ofList, htext]
  refine anySuffix_append ?_ _
  cases p with
  | char c => simp [Part.isPlaceholder] at hplaceholder
  | required name =>
    rw [Part.isRegular, Bool.and_eq_true] at hregular
    rw [afterRequired?_required hregular.1, Option.isSome_some, Bool.or_true]
  | optional name => rw [afterOptional?_optional hregular, Option.isSome_some, Bool.true_or]

end Switchboard.Template
