import Mathlib.Data.List.Perm.Basic
import Switchboard.Proofs.AnchorModifier
import Switchboard.Proofs.Delimiters

/-!
# Modifiers act as a set

Which expression a delimited text gives depends on which modifiers it has, and not on their order or
on how often they stand there. Flags are written once each, in the order in which they come first,
so the sources may differ; they set the same flags and are read alike behind them:

    /a b/xUx     (?xU)a b
    /a b/UxD     (?Ux)a b

    d.SameEffect d'     one delimiter, one body, and the same modifiers but for `u`, `D` and `S`
    parse?_source       then both sources have the same expression, or both have none
    modifiers_act_as_set    and both texts fail alike, or capture alike
-/

namespace Switchboard

open Regex.Parser

namespace Delimited

/-! ## Flags -/

/-- Flags are set independently of each other. -/
theorem withFlag_comm {a b : Char} (ha : isFlag a = true) (hb : isFlag b = true) (f : Flags) :
    withFlag (withFlag f a) b = withFlag (withFlag f b) a := by
  rcases eq_of_isFlag ha with rfl | rfl | rfl | rfl | rfl <;>
    rcases eq_of_isFlag hb with rfl | rfl | rfl | rfl | rfl <;> rfl

/-! ## Sources -/

/-- Texts with one delimiter and one body, whose modifiers are the same but for those that have no
effect. -/
structure SameEffect (d d' : Delimited) : Prop where
  delimiter : d.delimiter = d'.delimiter
  body : d.body = d'.body
  modifiers : ∀ m, m ∉ ['u', 'D', 'S'] → (m ∈ d.modifiers ↔ m ∈ d'.modifiers)

/-- What stands behind the flags of a source. -/
def wording (d : Delimited) : List Char :=
  if d.modifiers.contains anchor then "\\A(?:".toList ++ d.content ++ [')'] else d.content

theorem source_eq_front_append (d : Delimited) : d.source = d.front ++ d.wording := rfl

theorem length_source_eq (d : Delimited) :
    d.source.length + 1 =
      d.front.length - d.lead.length + d.wording.length + 1 + d.lead.length := by
  have hlead := length_lead_le (d := d)
  rw [source_eq_front_append, List.length_append]
  omega

/-- How a source is read behind its flags. -/
theorem alternatives_source (d : Delimited) :
    alternatives (d.source.length + 1) [] [] (.start d.source) =
      alternatives (d.front.length - d.lead.length + d.wording.length + 1) [] d.lead
        (d.cursor d.wording) := by
  rw [length_source_eq, source_eq_front_append, alternatives_front]

namespace SameEffect
variable {d d' : Delimited}

theorem mem_iff_of_isFlag (h : d.SameEffect d') {c : Char} (hc : isFlag c = true) :
    c ∈ d.modifiers ↔ c ∈ d'.modifiers := by
  apply h.modifiers
  rcases eq_of_isFlag hc with rfl | rfl | rfl | rfl | rfl <;> decide

theorem flags_perm (h : d.SameEffect d') : d.flags.Perm d'.flags := by
  apply (List.perm_ext_iff_of_nodup (nodup_firstOccurrences _ _) (nodup_firstOccurrences _ _)).2
  intro c
  change c ∈ d.flags ↔ c ∈ d'.flags
  rw [mem_flags, mem_flags]
  constructor
  · rintro ⟨hm, hc⟩
    exact ⟨(h.mem_iff_of_isFlag hc).1 hm, hc⟩
  · rintro ⟨hm, hc⟩
    exact ⟨(h.mem_iff_of_isFlag hc).2 hm, hc⟩

theorem inForce (h : d.SameEffect d') : d.inForce = d'.inForce := by
  apply List.Perm.foldl_eq' h.flags_perm
  intro a ha b hb f
  exact withFlag_comm (mem_flags.1 ha).2 (mem_flags.1 hb).2 f

theorem lead (h : d.SameEffect d') : d.lead = d'.lead := by
  rw [Delimited.lead, Delimited.lead, h.flags_perm.isEmpty_eq]

theorem length_front (h : d.SameEffect d') : d.front.length = d'.front.length := by
  rw [front, front, h.flags_perm.isEmpty_eq]
  split
  · rfl
  · have hlength := h.flags_perm.length_eq
    simp only [List.length_append, hlength]

theorem wording (h : d.SameEffect d') : d.wording = d'.wording := by
  have hanchor : d.modifiers.contains anchor = d'.modifiers.contains anchor := by
    rw [Bool.eq_iff_iff, List.contains_iff_mem, List.contains_iff_mem]
    exact h.modifiers anchor (by decide)
  rw [Delimited.wording, Delimited.wording, hanchor, content, content, h.delimiter, h.body]

theorem all_isModifier (h : d.SameEffect d') :
    d.modifiers.all isModifier = d'.modifiers.all isModifier := by
  -- a letter that is no modifier is none of those without an effect, so both have it or neither
  have hmem : ∀ m, isModifier m = false → (m ∈ d.modifiers ↔ m ∈ d'.modifiers) := by
    intro m hm
    apply h.modifiers
    intro hignored
    have hm' : isIgnored m = true := List.contains_iff_mem.2 hignored
    simp [isModifier, hm'] at hm
  rw [Bool.eq_iff_iff, List.all_eq_true, List.all_eq_true]
  constructor
  · intro hall m hm
    cases hletter : isModifier m with
    | true => rfl
    | false => exact absurd (hall m ((hmem m hletter).2 hm)) (by simp [hletter])
  · intro hall m hm
    cases hletter : isModifier m with
    | true => rfl
    | false => exact absurd (hall m ((hmem m hletter).1 hm)) (by simp [hletter])

/-- The sources have the same expression, or both have none. -/
theorem parse?_source (h : d.SameEffect d') :
    Regex.parse? d.source = Regex.parse? d'.source := by
  have hread : alternatives (d.source.length + 1) [] [] (.start d.source) =
      alternatives (d'.source.length + 1) [] [] (.start d'.source) := by
    rw [alternatives_source, alternatives_source, cursor, cursor, h.inForce, h.lead,
      h.length_front, h.wording]
  unfold Regex.parse?
  rw [hread]

end SameEffect

end Delimited

/-! ## Expressions -/

namespace Expression

open Delimited

/-- Both fail with one kind of error, or both give expressions with the same captures. -/
inductive Alike : Except ExpressionError Expression → Except ExpressionError Expression → Prop
  | failure {e e' : ExpressionError} : e.kind = e'.kind → Alike (.error e) (.error e')
  | success {e e' : Expression} :
      (∀ text, e.captures text = e'.captures text) → Alike (.ok e) (.ok e')

section
variable [Regex.Capacity]

theorem alike_ofSource {cs cs' : List Char} (h : Regex.parse? cs = Regex.parse? cs') :
    Alike (ofSource (String.ofList cs)) (ofSource (String.ofList cs')) := by
  unfold ofSource
  rw [String.toList_ofList, String.toList_ofList, Regex.compile?, h, ← Regex.compile?]
  cases Regex.compile? cs' with
  | none => exact .failure rfl
  | some r => exact .success fun text => rfl

/-- **Modifiers act as a set.** Two texts with the same delimiters and the same body, and with the
same modifiers but for `u`, `D` and `S`, in whatever order and however often: both fail with one
kind of error, or both give expressions with the same captures for every text. A blank is no
delimiter, since blanks in front of a text are skipped. -/
theorem modifiers_act_as_set {c : Char} (hc : isBlank c = false) (body : List Char)
    {modifiers modifiers' : List Char} (hfree : closing c ∉ modifiers)
    (hfree' : closing c ∉ modifiers')
    (hsame : ∀ m, m ∉ ['u', 'D', 'S'] → (m ∈ modifiers ↔ m ∈ modifiers')) :
    Alike (ofDelimited (written c body modifiers)) (ofDelimited (written c body modifiers')) := by
  cases hopen : canOpen c with
  | false =>
    rw [ofDelimited_of_not_split (split?_written_eq_none hc hopen),
      ofDelimited_of_not_split (split?_written_eq_none hc hopen)]
    exact .failure rfl
  | true =>
    have hsplit : split? (written c body modifiers) = some ⟨c, body, modifiers⟩ :=
      split?_written hopen hfree
    have hsplit' : split? (written c body modifiers') = some ⟨c, body, modifiers'⟩ :=
      split?_written hopen hfree'
    have heffect : SameEffect ⟨c, body, modifiers⟩ ⟨c, body, modifiers'⟩ := ⟨rfl, rfl, hsame⟩
    cases hknown : modifiers.all isModifier with
    | true =>
      rw [ofDelimited_of_known hsplit hknown,
        ofDelimited_of_known hsplit' (heffect.all_isModifier ▸ hknown)]
      exact alike_ofSource heffect.parse?_source
    | false =>
      obtain ⟨m, -, -, hm⟩ := ofDelimited_of_unknown hsplit hknown
      obtain ⟨m', -, -, hm'⟩ :=
        ofDelimited_of_unknown hsplit' (heffect.all_isModifier ▸ hknown)
      rw [hm, hm']
      exact .failure rfl

theorem exists_ofDelimited {text source : String} (hsource : sourceOf text = .ok source)
    (h : (Regex.compile? source.toList).isSome = true) :
    ∃ e, ofDelimited text = .ok e ∧ e.source = source := by
  obtain ⟨r, hr⟩ := Option.isSome_iff_exists.1 h
  exact ⟨⟨source, r⟩, ofDelimited_eq_ok_iff.2 ⟨source, r, hsource, hr, rfl⟩, rfl⟩

end

/-- The sources differ in the order of their flags. -/
theorem flags_in_two_orders : ∃ e e', ofDelimited "(a (b+))xUx" = .ok e ∧
    ofDelimited "(a (b+))UDx" = .ok e' ∧ e.source = "(?xU)a (b+)" ∧ e'.source = "(?Ux)a (b+)" ∧
    ∀ text, e.captures text = e'.captures text := by
  have hfree : closing '(' ∉ ['x', 'U', 'x'] := by decide
  have hfree' : closing '(' ∉ ['U', 'D', 'x'] := by decide
  have hsame : ∀ m, m ∉ ['u', 'D', 'S'] → (m ∈ ['x', 'U', 'x'] ↔ m ∈ ['U', 'D', 'x']) := by
    simp
    tauto
  have halike : Alike (ofDelimited "(a (b+))xUx") (ofDelimited "(a (b+))UDx") :=
    modifiers_act_as_set (by decide) "a (b+)".toList hfree hfree' hsame
  obtain ⟨e, he, hsource⟩ : ∃ e, ofDelimited "(a (b+))xUx" = .ok e ∧ e.source = "(?xU)a (b+)" :=
    exists_ofDelimited (by decide +kernel) (by decide +kernel)
  obtain ⟨e', he', hsource'⟩ : ∃ e, ofDelimited "(a (b+))UDx" = .ok e ∧
      e.source = "(?Ux)a (b+)" :=
    exists_ofDelimited (by decide +kernel) (by decide +kernel)
  rw [he, he'] at halike
  cases halike with
  | success hcaptures => exact ⟨e, e', he, he', hsource, hsource', hcaptures⟩

end Expression

end Switchboard
