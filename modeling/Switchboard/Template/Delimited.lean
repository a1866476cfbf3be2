import Switchboard.Regex.Parser

/-!
# Delimited expressions

An expression may be written as it is between two delimiters, followed by modifiers: `/re/i`,
`~re~A`, `(re)`. The opening delimiter is any character but a letter, a digit, a blank, a backslash
or an opening brace; the closing one is its partner or the same character, at its last occurrence.
-/

namespace Switchboard

/-- A delimited text: opening delimiter, body and modifiers. -/
structure Delimited where
  delimiter : Char
  body : List Char
  modifiers : List Char

/-- Why a text is no delimited expression. -/
inductive DelimitedError where
  | missingDelimiter
  | unknownModifier (modifier : Char)
deriving DecidableEq, Repr

namespace Delimited

def canOpen (c : Char) : Bool :=
  !(isAlphanumeric c || isBlank c || c == '\\' || c == '\x7b')

/-- The closing delimiter of an opening one. -/
def closing : Char → Char
  | '(' => ')'
  | '[' => ']'
  | '<' => '>'
  | c => c

/-- The texts before and after the last occurrence of a character. -/
def splitAtLast (c : Char) : List Char → Option (List Char × List Char)
  | [] => none
  | d :: cs =>
    match splitAtLast c cs with
    | some (front, back) => some (d :: front, back)
    | none => if d = c then some ([], cs) else none

/-- The parts of a delimited text; blanks in front of it are skipped. -/
def split? (text : String) : Option Delimited :=
  match text.toList.dropWhile isBlank with
  | [] => none
  | c :: rest =>
    if canOpen c then (splitAtLast (closing c) rest).map fun (body, mods) => ⟨c, body, mods⟩
    else none

/-! ## Modifiers -/

/-- Modifiers that are flags of expressions. -/
def isFlag (c : Char) : Bool := ['i', 'm', 's', 'x', 'U'].contains c

/-- Modifiers without an effect. -/
def isIgnored (c : Char) : Bool := ['u', 'D', 'S'].contains c

/-- The modifier that anchors an expression at the start of the text. -/
def anchor : Char := 'A'

def isModifier (c : Char) : Bool := isFlag c || isIgnored c || c == anchor

/-- The letters that tell a delimited text from a template. -/
def knownModifiers : List Char := ['i', 'm', 's', 'x', 'U', 'u', 'D', 'S', 'A']

/-- The members of a list, each at its first occurrence. -/
def firstOccurrences (seen : List Char) : List Char → List Char
  | [] => []
  | c :: cs =>
    if seen.contains c then firstOccurrences seen cs else c :: firstOccurrences (c :: seen) cs

/-- The flags among the modifiers, once each, in order. -/
def flags (d : Delimited) : List Char := firstOccurrences [] (d.modifiers.filter isFlag)

/-! ## Source -/

/-- A character as an expression for itself. -/
def escapeChar (c : Char) : List Char := if Regex.Parser.isMeta c then ['\\', c] else [c]

/-- Replaces each backslash with the delimiter by an expression for the delimiter. -/
def unescape (delimiter : Char) : List Char → List Char
  | '\\' :: c :: cs =>
    if c = delimiter then escapeChar delimiter ++ unescape delimiter cs
    else '\\' :: unescape delimiter (c :: cs)
  | c :: cs => c :: unescape delimiter cs
  | [] => []

/-- The expression between the delimiters, under its flags. -/
def source (d : Delimited) : List Char :=
  let body := unescape d.delimiter d.body
  (if d.flags.isEmpty then [] else ['(', '?'] ++ d.flags ++ [')']) ++
    (if d.modifiers.contains anchor then "\\A(?:".toList ++ body ++ [')'] else body)

/-- The source of a delimited expression. -/
def sourceOf (text : String) : Except DelimitedError String :=
  match split? text with
  | none => .error .missingDelimiter
  | some d =>
    match d.modifiers.find? (!isModifier ·) with
    | some m => .error (.unknownModifier m)
    | none => .ok (String.ofList d.source)

/-- Whether a text is delimited, with modifiers that are known. -/
def isDelimited (text : String) : Bool :=
  match split? text with
  | some d => d.modifiers.all knownModifiers.contains
  | none => false

/-! ## Lemmas -/

theorem splitAtLast_eq_none_iff {c : Char} {cs : List Char} :
    splitAtLast c cs = none ↔ c ∉ cs := by
  induction cs with
  | nil => simp [splitAtLast]
  | cons d cs ih =>
    rw [splitAtLast]
    cases hsplit : splitAtLast c cs with
    | some parts =>
      have hmem : c ∈ cs := by
        apply Decidable.byContradiction
        intro hmem
        rw [ih.2 hmem] at hsplit
        cases hsplit
      simp [hmem]
    | none =>
      have hmem : c ∉ cs := ih.1 hsplit
      by_cases hd : c = d
      · simp [hd]
      · simp [hd, Ne.symm hd, hmem]

theorem splitAtLast_of_notMem {c : Char} (front : List Char) {back : List Char} (h : c ∉ back) :
    splitAtLast c (front ++ c :: back) = some (front, back) := by
  induction front with
  | nil => simp [splitAtLast, splitAtLast_eq_none_iff.2 h]
  | cons d front ih => simp [splitAtLast, ih]

/-- A text is split where a character occurs for the last time. -/
theorem splitAtLast_eq_some_iff {c : Char} {cs front back : List Char} :
    splitAtLast c cs = some (front, back) ↔ cs = front ++ c :: back ∧ c ∉ back := by
  constructor
  · intro h
    induction cs generalizing front with
    | nil => cases h
    | cons d cs ih =>
      rw [splitAtLast] at h
      cases hsplit : splitAtLast c cs with
      | some parts =>
        rw [hsplit] at h
        cases h
        obtain ⟨hcs, hback⟩ := ih hsplit
        exact ⟨by rw [hcs]; rfl, hback⟩
      | none =>
        rw [hsplit] at h
        by_cases hd : d = c
        · simp only [hd, if_true, Option.some.injEq, Prod.mk.injEq] at h
          obtain ⟨rfl, rfl⟩ := h
          exact ⟨by rw [hd]; rfl, splitAtLast_eq_none_iff.1 hsplit⟩
        · simp [hd] at h
  · rintro ⟨rfl, hback⟩
    exact splitAtLast_of_notMem front hback

theorem mem_firstOccurrences {c : Char} {l seen : List Char} :
    c ∈ firstOccurrences seen l ↔ c ∈ l ∧ c ∉ seen := by
  induction l generalizing seen with
  | nil => simp [firstOccurrences]
  | cons d l ih =>
    rw [firstOccurrences]
    by_cases hd : d ∈ seen
    · have hmem : seen.contains d = true := by simpa using hd
      rw [if_pos hmem, ih]
      constructor
      · rintro ⟨hc, hseen⟩
        exact ⟨List.mem_cons_of_mem d hc, hseen⟩
      · rintro ⟨hc, hseen⟩
        rcases List.mem_cons.1 hc with rfl | hc
        · exact absurd hd hseen
        · exact ⟨hc, hseen⟩
    · have hmem : ¬ seen.contains d = true := by simpa using hd
      rw [if_neg hmem, List.mem_cons, ih]
      by_cases hc : c = d
      · subst hc
        simp [hd]
      · simp [hc]

theorem nodup_firstOccurrences (l seen : List Char) : (firstOccurrences seen l).Nodup := by
  induction l generalizing seen with
  | nil => exact List.nodup_nil
  | cons d l ih =>
    rw [firstOccurrences]
    split
    · exact ih seen
    · refine List.nodup_cons.2 ⟨?_, ih (d :: seen)⟩
      intro hd
      exact (mem_firstOccurrences.1 hd).2 List.mem_cons_self

theorem mem_flags {d : Delimited} {c : Char} :
    c ∈ d.flags ↔ c ∈ d.modifiers ∧ isFlag c = true := by
  simp [flags, mem_firstOccurrences]

/-- The letters that make a text delimited are those that have a meaning in its source. -/
theorem contains_knownModifiers : knownModifiers.contains = isModifier := by
  funext c
  simp only [knownModifiers, isModifier, isFlag, isIgnored, anchor, List.contains_cons,
    List.contains_nil, Bool.or_false, Bool.or_assoc]

end Delimited

end Switchboard
