import Switchboard.Regex.Memory
import Switchboard.Template.Expression

/-!
# What counts as delimited

A text is delimited if, behind blanks, it is a body between two delimiters and then modifiers, which
do not hold the closing delimiter. Whether a text is taken for an expression is decided before the
expression is compiled, and by letters of its own (`knownModifiers`). The two agree:

    isDelimited text = false    iff  `ofDelimited text` misses a delimiter or a modifier
    compile text = .error e     only if the template of the text gives no expression

So a failure to compile never tells of delimiters (`detection_agrees`).
-/

namespace Switchboard

/-! ## Kinds of failure -/

/-- What is wrong with a text, the text itself aside. -/
inductive ExpressionError.Kind where
  | missingDelimiter
  | unknownModifier
  | invalid
deriving DecidableEq, Repr

def ExpressionError.kind : ExpressionError → Kind
  | missingDelimiter _ => .missingDelimiter
  | unknownModifier _ _ => .unknownModifier
  | invalid _ => .invalid

namespace Delimited

/-! ## Splitting -/

/-- A text, less the blanks in front of it, is made of these parts. -/
structure Wraps (d : Delimited) (text : String) : Prop where
  opens : canOpen d.delimiter = true
  parts : text.toList.dropWhile isBlank =
    d.delimiter :: (d.body ++ closing d.delimiter :: d.modifiers)
  /-- The closing delimiter is the last one of its kind. -/
  last : closing d.delimiter ∉ d.modifiers

/-- The parts of a text are found exactly if it has such parts. -/
theorem split?_eq_some_iff {text : String} {d : Delimited} :
    split? text = some d ↔ d.Wraps text := by
  unfold split?
  constructor
  · intro h
    split at h
    · cases h
    · next c rest hrest =>
      by_cases hc : canOpen c = true
      · rw [if_pos hc] at h
        obtain ⟨⟨body, modifiers⟩, hsplit, rfl⟩ := Option.map_eq_some_iff.1 h
        obtain ⟨rfl, hlast⟩ := splitAtLast_eq_some_iff.1 hsplit
        exact ⟨hc, hrest, hlast⟩
      · rw [if_neg hc] at h
        cases h
  · intro h
    rw [h.parts]
    dsimp only
    rw [if_pos h.opens, splitAtLast_of_notMem d.body h.last]
    rfl

/-! ## Writing -/

/-- A body between delimiters, with modifiers behind it. -/
def written (c : Char) (body modifiers : List Char) : String :=
  String.ofList (c :: (body ++ closing c :: modifiers))

section Written
variable {c : Char} {body modifiers : List Char}

theorem isBlank_of_canOpen (hc : canOpen c = true) : isBlank c = false := by
  cases h : isBlank c with
  | false => rfl
  | true => simp [canOpen, h] at hc

theorem dropWhile_written (hc : isBlank c = false) :
    (written c body modifiers).toList.dropWhile isBlank =
      c :: (body ++ closing c :: modifiers) := by
  rw [written, String.toList_ofList, List.dropWhile_cons_of_neg (by simp [hc])]

theorem split?_written (hc : canOpen c = true) (hfree : closing c ∉ modifiers) :
    split? (written c body modifiers) = some ⟨c, body, modifiers⟩ :=
  split?_eq_some_iff.2 ⟨hc, dropWhile_written (isBlank_of_canOpen hc), hfree⟩

/-- What cannot open a delimited text gives none. -/
theorem split?_written_eq_none (hblank : isBlank c = false) (hc : canOpen c = false) :
    split? (written c body modifiers) = none := by
  simp [split?, dropWhile_written hblank, hc]

end Written

/-! ## Outcomes -/

section Outcomes
variable {text : String} {d : Delimited}

theorem isDelimited_of_split (h : split? text = some d) :
    isDelimited text = d.modifiers.all isModifier := by
  simp only [isDelimited, h, contains_knownModifiers]

theorem isDelimited_eq_false_iff : isDelimited text = false ↔
    split? text = none ∨ ∃ d, split? text = some d ∧ d.modifiers.all isModifier = false := by
  cases hsplit : split? text with
  | none => simp [isDelimited, hsplit]
  | some d => simp [isDelimited_of_split hsplit]

theorem sourceOf_of_known (h : split? text = some d) (hknown : d.modifiers.all isModifier = true) :
    sourceOf text = .ok (String.ofList d.source) := by
  have hfind : d.modifiers.find? (!isModifier ·) = none := by simpa using hknown
  simp only [sourceOf, h, hfind]

/-- The first letter that is no modifier is reported. -/
theorem sourceOf_of_unknown (h : split? text = some d)
    (hunknown : d.modifiers.all isModifier = false) :
    ∃ m ∈ d.modifiers, isModifier m = false ∧ sourceOf text = .error (.unknownModifier m) := by
  cases hfind : d.modifiers.find? (!isModifier ·) with
  | none =>
    have hall : d.modifiers.all isModifier = true := by simpa using hfind
    rw [hunknown] at hall
    cases hall
  | some m =>
    refine ⟨m, List.mem_of_find?_eq_some hfind, by simpa using List.find?_some hfind, ?_⟩
    simp only [sourceOf, h, hfind]

end Outcomes

end Delimited

namespace Expression

open Delimited

section Outcomes
variable [Regex.Capacity] {text : String} {d : Delimited}

theorem ofSource_eq_error {source : String} {e : ExpressionError}
    (h : ofSource source = .error e) : e = .invalid source := by
  unfold ofSource at h
  split at h
  · cases h
  · cases h
    rfl

theorem ofDelimited_of_not_split (h : split? text = none) :
    ofDelimited text = .error (.missingDelimiter text) := by
  simp only [ofDelimited, sourceOf, h]

theorem ofDelimited_of_known (h : split? text = some d)
    (hknown : d.modifiers.all isModifier = true) :
    ofDelimited text = ofSource (String.ofList d.source) := by
  rw [ofDelimited, sourceOf_of_known h hknown]

theorem ofDelimited_of_unknown (h : split? text = some d)
    (hunknown : d.modifiers.all isModifier = false) :
    ∃ m ∈ d.modifiers, isModifier m = false ∧
      ofDelimited text = .error (.unknownModifier m text) := by
  obtain ⟨m, hm, hletter, hsource⟩ := sourceOf_of_unknown h hunknown
  exact ⟨m, hm, hletter, by rw [ofDelimited, hsource]⟩

/-- The kind of a failure tells at which step it came up. -/
theorem kind_of_error {e : ExpressionError} (h : ofDelimited text = .error e) :
    (split? text = none ∧ e.kind = .missingDelimiter) ∨
    (∃ d, split? text = some d ∧ d.modifiers.all isModifier = false ∧ e.kind = .unknownModifier) ∨
    e.kind = .invalid := by
  cases hsplit : split? text with
  | none =>
    rw [ofDelimited_of_not_split hsplit] at h
    cases h
    exact .inl ⟨rfl, rfl⟩
  | some d =>
    cases hknown : d.modifiers.all isModifier with
    | false =>
      obtain ⟨m, -, -, hm⟩ := ofDelimited_of_unknown hsplit hknown
      rw [hm] at h
      cases h
      exact .inr (.inl ⟨d, rfl, hknown, rfl⟩)
    | true =>
      rw [ofDelimited_of_known hsplit hknown] at h
      rw [ofSource_eq_error h]
      exact .inr (.inr rfl)

/-- A delimiter is missing exactly if the text has no parts. -/
theorem misses_delimiter_iff :
    (∃ e, ofDelimited text = .error e ∧ e.kind = .missingDelimiter) ↔ split? text = none := by
  constructor
  · rintro ⟨e, he, hkind⟩
    rcases kind_of_error he with ⟨hnone, -⟩ | ⟨d, -, -, hk⟩ | hk
    · exact hnone
    · cases hkind.symm.trans hk
    · cases hkind.symm.trans hk
  · intro h
    exact ⟨_, ofDelimited_of_not_split h, rfl⟩

/-- A modifier is unknown exactly if the text has parts with a letter that is none. -/
theorem misses_modifier_iff :
    (∃ e, ofDelimited text = .error e ∧ e.kind = .unknownModifier) ↔
      ∃ d, split? text = some d ∧ d.modifiers.all isModifier = false := by
  constructor
  · rintro ⟨e, he, hkind⟩
    rcases kind_of_error he with ⟨-, hk⟩ | ⟨d, hsplit, hunknown, -⟩ | hk
    · cases hkind.symm.trans hk
    · exact ⟨d, hsplit, hunknown⟩
    · cases hkind.symm.trans hk
  · rintro ⟨d, hsplit, hunknown⟩
    obtain ⟨m, -, -, hm⟩ := ofDelimited_of_unknown hsplit hunknown
    exact ⟨_, hm, rfl⟩

end Outcomes

/-- Whatever fails to compile fails as a template. -/
theorem compile_eq_error [Regex.Capacity] {text : String} {e : ExpressionError}
    (h : compile text = .error e) :
    e = .invalid (Template.source text) := by
  have htemplate : ofTemplate text = .error e := by
    unfold compile at h
    split at h
    · split at h
      · cases h
      · exact h
    · exact h
  exact ofSource_eq_error htemplate

/-- **Detection and compilation agree.** A text does not count as delimited exactly if its delimited
expression misses a delimiter or has an unknown modifier. So compiling a text fails with neither; it
fails only on the source of the text as a template. A text that misses no delimiter has, behind its
blanks, an opening delimiter, a body, the closing delimiter, and modifiers without that one; and no
other text has. -/
theorem detection_agrees [Regex.Capacity] (text : String) :
    (isDelimited text = false ↔ ∃ e, ofDelimited text = .error e ∧
      (e.kind = .missingDelimiter ∨ e.kind = .unknownModifier)) ∧
    (∀ e, compile text = .error e → e.kind ≠ .missingDelimiter ∧ e.kind ≠ .unknownModifier ∧
      e = .invalid (Template.source text)) ∧
    ((¬ ∃ e, ofDelimited text = .error e ∧ e.kind = .missingDelimiter) ↔
      ∃ d : Delimited, d.Wraps text) := by
  refine ⟨?_, ?_, ?_⟩
  · rw [isDelimited_eq_false_iff, ← misses_delimiter_iff, ← misses_modifier_iff, ← exists_or]
    simp only [and_or_left]
  · intro e he
    rw [compile_eq_error he]
    exact ⟨nofun, nofun, rfl⟩
  · rw [misses_delimiter_iff, ← ne_eq, Option.ne_none_iff_exists']
    simp only [split?_eq_some_iff]

/-- A text with an unknown letter behind its last slash is a template, which is not well formed. -/
theorem unknown_letter : isDelimited " /(a/q" = false ∧
    compile " /(a/q" = .error (.invalid "^ /(a/q$") ∧ ∃ d : Delimited, d.Wraps " /(a/q" := by
  obtain ⟨hdetected, hcompile, hwraps⟩ := detection_agrees " /(a/q"
  have hsplit : split? " /(a/q" = some ⟨'/', ['(', 'a'], ['q']⟩ := by cbv
  have hnot : isDelimited " /(a/q" = false :=
    isDelimited_eq_false_iff.2 (.inr ⟨_, hsplit, by decide⟩)
  obtain ⟨e, he⟩ : ∃ e, compile " /(a/q" = .error e := by
    have hsource : Regex.compile? (Template.source " /(a/q").toList = none := by decide +kernel
    have htemplate : compile " /(a/q" = ofTemplate " /(a/q" := if_neg (by simp [hnot])
    exact ⟨_, htemplate.trans (by rw [ofTemplate, ofSource, hsource])⟩
  obtain ⟨-, -, rfl⟩ := hcompile e he
  have hsource : Template.source " /(a/q" = "^ /(a/q$" := by cbv
  rw [hsource] at he
  refine ⟨hnot, he, hwraps.1 ?_⟩
  rw [misses_delimiter_iff, hsplit]
  exact Option.some_ne_none _

end Expression

end Switchboard
