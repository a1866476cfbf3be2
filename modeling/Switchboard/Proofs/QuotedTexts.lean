import Switchboard.Proofs.AsWritten
import Switchboard.Proofs.Coverage

/-!
# Quoted texts

A text is quoted by escaping the characters in it that mean something, and writing it between
delimiters. Quoted texts are always expressions, but not always for the text itself: between
delimiters a backslash and the delimiter stand for the delimiter, also if the backslash is the
second half of an escaped one.

    quote '/' "a+b"      is  /a\+b/      for "a+b"
    quote '/' "\\/"      is  /\\//       for "/", not for "\\/"

A delimiter that means something in expressions is escaped in a quoted text, so it does no harm.
-/

namespace Switchboard

open Regex (ofParts ways starts Head)
open Regex.Parser

namespace Delimited

/-- A text as an expression for itself. -/
def escape (t : List Char) : List Char := t.flatMap escapeChar

/-- A text as a delimited expression. -/
def quote (d : Char) (t : List Char) : String := String.ofList (d :: escape t ++ [closing d])

/-- Whether a source is a text in which some characters are escaped, among them all that mean
something. -/
inductive Spells : List Char → List Char → Prop where
  | nil : Spells [] []
  | plain {c cs t} : isMeta c = false → Spells cs t → Spells (c :: cs) (c :: t)
  | escaped {c cs t} : isEscapable c = true → Spells cs t → Spells ('\\' :: c :: cs) (c :: t)

/-! ## Escaping and unescaping -/

section Unescape
variable {d c : Char} {cs t : List Char}

theorem escape_cons (c : Char) (t : List Char) : escape (c :: t) = escapeChar c ++ escape t := rfl

theorem escapeChar_of_isMeta (hc : isMeta c = true) : escapeChar c = ['\\', c] := if_pos hc

theorem escapeChar_of_not_isMeta (hc : isMeta c = false) : escapeChar c = [c] :=
  if_neg (by rw [hc]; exact Bool.false_ne_true)

theorem unescape_cons_of_ne (hc : c ≠ '\\') (cs : List Char) :
    unescape d (c :: cs) = c :: unescape d cs := by
  rw [unescape]
  intro _ _ h
  exact absurd h hc

theorem unescape_backslash_of_ne (hc : c ≠ d) (cs : List Char) :
    unescape d ('\\' :: c :: cs) = '\\' :: unescape d (c :: cs) := by
  rw [unescape, if_neg hc]

theorem unescape_backslash_self (cs : List Char) :
    unescape d ('\\' :: d :: cs) = escapeChar d ++ unescape d cs := by
  rw [unescape, if_pos rfl]

/-- A delimiter that means something is unescaped to itself, escaped. -/
theorem unescape_of_isMeta (hd : isMeta d = true) (cs : List Char) : unescape d cs = cs := by
  fun_induction unescape d cs with
  | case1 cs ih => rw [escapeChar_of_isMeta hd, ih]; rfl
  | case2 c cs _ ih => rw [ih]
  | case3 c cs _ ih => rw [ih]
  | case4 => rfl

theorem infix_cons_iff_of_front (h : ¬ ['\\', d] <+: c :: cs) :
    ['\\', d] <:+: c :: cs ↔ ['\\', d] <:+: cs :=
  ⟨fun hinfix => (List.infix_cons_iff.1 hinfix).resolve_left h, List.infix_cons⟩

/-- A delimiter that means nothing loses each backslash in front of it. -/
theorem unescape_eq_self_iff_of_not_isMeta (hd : isMeta d = false) (cs : List Char) :
    unescape d cs = cs ↔ ¬ ['\\', d] <:+: cs := by
  fun_induction unescape d cs with
  | case1 cs ih =>
    have hne : d ≠ '\\' := by
      rintro rfl
      cases hd
    have hinfix : ['\\', d] <:+: '\\' :: d :: cs := ⟨[], cs, rfl⟩
    simp [escapeChar_of_not_isMeta hd, hne, hinfix]
  | case2 c cs hc ih =>
    have hfront : ¬ ['\\', d] <+: '\\' :: c :: cs := by
      rintro ⟨rest, hrest⟩
      exact hc (List.cons.inj (List.cons.inj hrest).2).1.symm
    rw [List.cons_inj_right, ih, infix_cons_iff_of_front hfront]
  | case3 c cs hcs ih =>
    have hfront : ¬ ['\\', d] <+: c :: cs := by
      rintro ⟨rest, hrest⟩
      obtain ⟨hc, hrest⟩ := List.cons.inj hrest
      exact hcs _ _ hc.symm hrest.symm
    rw [List.cons_inj_right, ih, infix_cons_iff_of_front hfront]
  | case4 => simp

theorem unescape_eq_self_iff (d : Char) (cs : List Char) :
    unescape d cs = cs ↔ isMeta d = true ∨ ¬ ['\\', d] <:+: cs := by
  cases hd : isMeta d with
  | true => simp [unescape_of_isMeta hd]
  | false => simp [unescape_eq_self_iff_of_not_isMeta hd]

/-! ## What is spelled -/

theorem Spells.escapeChar (c : Char) (h : Spells cs t) : Spells (escapeChar c ++ cs) (c :: t) := by
  cases hc : isMeta c with
  | true =>
    rw [escapeChar_of_isMeta hc]
    exact .escaped (by rw [isEscapable, hc, Bool.true_or]) h
  | false =>
    rw [escapeChar_of_not_isMeta hc]
    exact .plain hc h

theorem spells_escape (t : List Char) : Spells (escape t) t := by
  induction t with
  | nil => exact .nil
  | cons c t ih => exact ih.escapeChar c

/-- A backslash stays in front of a text that does not start with the delimiter. -/
theorem unescape_backslash_escape (hd : isMeta d = false) (ht : ∀ cs, t ≠ d :: cs) :
    unescape d ('\\' :: escape t) = '\\' :: unescape d (escape t) := by
  cases t with
  | nil => rfl
  | cons c t =>
    rw [escape_cons]
    cases hc : isMeta c with
    | true =>
      have hne : '\\' ≠ d := by
        rintro rfl
        cases hd
      rw [escapeChar_of_isMeta hc]
      exact unescape_backslash_of_ne hne _
    | false =>
      have hne : c ≠ d := fun h => ht t (h ▸ rfl)
      rw [escapeChar_of_not_isMeta hc]
      exact unescape_backslash_of_ne hne _

/-- A character stays escaped, unless it is a backslash in front of the delimiter. -/
theorem unescape_escape_cons (hd : isMeta d = false) (hc : c ≠ '\\' ∨ ∀ cs, t ≠ d :: cs) :
    unescape d (escape (c :: t)) = escapeChar c ++ unescape d (escape t) := by
  rw [escape_cons]
  cases hmeta : isMeta c with
  | true =>
    have hne : c ≠ d := by
      rintro rfl
      exact absurd hmeta (by rw [hd]; exact Bool.false_ne_true)
    rw [escapeChar_of_isMeta hmeta]
    show unescape d ('\\' :: c :: escape t) = '\\' :: c :: unescape d (escape t)
    rw [unescape_backslash_of_ne hne]
    by_cases hback : c = '\\'
    · subst hback
      rw [unescape_backslash_escape hd (hc.resolve_left fun h => h rfl)]
    · rw [unescape_cons_of_ne hback]
  | false =>
    have hback : c ≠ '\\' := by
      rintro rfl
      cases hmeta
    rw [escapeChar_of_not_isMeta hmeta]
    exact unescape_cons_of_ne hback _

/-- What becomes of an escaped text spells what becomes of the text, unless that takes an escape
without a meaning. -/
theorem spells_unescape_escape (hescapable : isEscapable d = true ∨ ¬ ['\\', d] <:+: t) :
    Spells (unescape d (escape t)) (unescape d t) := by
  cases hd : isMeta d with
  | true =>
    rw [unescape_of_isMeta hd, unescape_of_isMeta hd]
    exact spells_escape t
  | false =>
    have hlater : ∀ {c : Char} {t : List Char}, isEscapable d = true ∨ ¬ ['\\', d] <:+: c :: t →
        isEscapable d = true ∨ ¬ ['\\', d] <:+: t :=
      fun h => h.imp_right fun hnot hinfix => hnot (List.infix_cons hinfix)
    fun_induction unescape d t with
    | case1 t ih =>
      have hd' : isEscapable d = true := hescapable.resolve_right fun h => h ⟨[], t, rfl⟩
      have hne : '\\' ≠ d := by
        rintro rfl
        cases hd
      have hsource : unescape d (escape ('\\' :: d :: t)) =
          '\\' :: d :: unescape d (escape t) := by
        rw [escape_cons, escape_cons, escapeChar_of_not_isMeta hd]
        show unescape d ('\\' :: '\\' :: d :: escape t) = _
        rw [unescape_backslash_of_ne hne, unescape_backslash_self, escapeChar_of_not_isMeta hd]
        rfl
      rw [hsource, escapeChar_of_not_isMeta hd]
      exact .escaped hd' (ih (.inl hd'))
    | case2 c t hc ih =>
      rw [unescape_escape_cons hd (.inr fun cs h => hc (List.cons.inj h).1)]
      exact (ih (hlater hescapable)).escapeChar '\\'
    | case3 c t hct ih =>
      have hc : c ≠ '\\' ∨ ∀ cs, t ≠ d :: cs :=
        (ne_or_eq c '\\').imp_right fun h cs hcs => hct d cs h hcs
      rw [unescape_escape_cons hd hc]
      exact (ih (hlater hescapable)).escapeChar c
    | case4 => exact .nil

end Unescape

/-! ## Sources of quoted texts -/

theorem quote_eq_written (d : Char) (t : List Char) : quote d t = written d (escape t) [] := rfl

theorem sourceOf_quote {d : Char} (hd : canOpen d = true) (t : List Char) :
    sourceOf (quote d t) = .ok (String.ofList (unescape d (escape t))) := by
  have hsplit : split? (quote d t) = some ⟨d, escape t, []⟩ := by
    rw [quote_eq_written]
    exact split?_written hd List.not_mem_nil
  rw [sourceOf_of_known hsplit rfl]
  rfl

end Delimited

/-! ## Expressions of texts -/

namespace Regex

open Delimited (Spells)

/-- The expression that matches a text and nothing else. -/
def literal (t : List Char) : Regex := ofParts (t.map fun c => one (.single c.toNat))

theorem isPlain_of_not_isMeta {c : Char} (hc : isMeta c = false) :
    Template.Part.isPlain c = true ∨ c = '\n' := by
  by_cases hline : c = '\n'
  · exact .inr hline
  · refine .inl ?_
    simp only [isMeta, List.contains_eq_mem, decide_eq_false_iff_not, List.mem_cons, not_or] at hc
    simp [Template.Part.isPlain, Template.braceOpen, Template.braceClose, hline, hc]

theorem alternatives_escaped {c : Char} (hc : isEscapable c = true) (fuel : Nat)
    (items : List Item) (cs : List Char) :
    alternatives (fuel + 1) [] items (Template.cursor ('\\' :: c :: cs) 0) =
      alternatives fuel [] ((Primitive.char c).item {} :: items) (Template.cursor cs 0) := by
  have hescape : Parser.escape {} (c :: cs) = some (.char c, cs) := by
    simp [Parser.escape, hc]
  simp only [alternatives, Template.cursor, skip, Bool.false_eq_true, if_false, hescape]
  rfl

/-- The run lemma of reading what is spelled. -/
theorem alternatives_spells {cs t : List Char} (h : Spells cs t) :
    ∀ (fuel : Nat) (items : List Item), alternatives (fuel + cs.length + 1) [] items
        (Template.cursor cs 0) =
      some (closeItem [] ((t.map fun c => (Primitive.char c).item {}).reverse ++ items),
        Template.cursor [] 0) := by
  induction h with
  | nil => exact fun fuel items => rfl
  | plain hc h ih =>
    intro fuel items
    rw [List.length_cons, ← Nat.add_assoc, Template.alternatives_char (isPlain_of_not_isMeta hc),
      ih]
    simp [Primitive.item, charSet]
  | @escaped c cs t hc h ih =>
    intro fuel items
    have hfuel : fuel + ('\\' :: c :: cs).length + 1 = fuel + 1 + cs.length + 1 + 1 := by
      simp only [List.length_cons]
      omega
    rw [hfuel, alternatives_escaped hc, ih]
    simp

/-- Parts that are neither sequences nor nested stay as they are. -/
theorem sequenceItem_flat {items : List Item}
    (h : ∀ i ∈ items, parts i.regex = [i.regex] ∧ i.depth = 0) :
    ∃ depth ≤ 1, sequenceItem items = ⟨ofParts (items.reverse.map (·.regex)), depth, false⟩ := by
  match items with
  | [] => exact ⟨0, Nat.zero_le 1, rfl⟩
  | [i] => exact ⟨i.depth, by rw [(h i List.mem_cons_self).2]; exact Nat.zero_le 1, rfl⟩
  | i :: j :: items =>
    have hdepth : (i :: j :: items).foldl (fun d i => Nat.max d i.depth) 0 ≤ 0 :=
      (Template.foldl_max_le_iff _).2 ⟨Nat.le_refl 0, fun i hi => Nat.le_of_eq (h i hi).2⟩
    have hparts : ((i :: j :: items).reverse.map (·.regex)).flatMap parts =
        (i :: j :: items).reverse.map (·.regex) := by
      rw [List.flatMap_map, List.map_eq_flatMap]
      exact List.flatMap_congr fun i hi => (h i (List.mem_reverse.1 hi)).1
    refine ⟨_, Nat.succ_le_succ hdepth, ?_⟩
    rw [← hparts]
    rfl

theorem closeItem_literal (t : List Char) : ∃ depth ≤ 1,
    closeItem [] (t.map fun c => (Primitive.char c).item {}).reverse =
      ⟨literal t, depth, false⟩ := by
  obtain ⟨depth, hdepth, hitem⟩ := sequenceItem_flat
    (by simp [Primitive.item, parts] :
      ∀ i ∈ (t.map fun c => (Primitive.char c).item {}).reverse,
        parts i.regex = [i.regex] ∧ i.depth = 0)
  refine ⟨depth, hdepth, ?_⟩
  rw [closeItem, hitem, List.reverse_reverse, List.map_map]
  rfl

/-- What spells a text reads as the expression of the text. -/
theorem parse?_spells {cs t : List Char} (h : Spells cs t) :
    parse? cs = some (literal t) := by
  obtain ⟨depth, hdepth, hitem⟩ := closeItem_literal t
  have hread := alternatives_spells h 0 []
  rw [Nat.zero_add, List.append_nil, hitem] at hread
  have hmax : depth ≤ maxDepth := Nat.le_trans hdepth (by decide)
  rw [parse?, show Cursor.start cs = Template.cursor cs 0 from rfl, hread]
  simp [Template.cursor, hmax]

/-! ## Searching for texts -/

theorem ways_literal_ne_nil_iff (t : List Char) (h : Head) :
    ways (literal t) h ≠ [] ↔ t <+: h.rest := by
  induction t generalizing h with
  | nil => simp [literal, Regex.ofParts, ways]
  | cons c t ih =>
    have hcons : ways (literal (c :: t)) h =
        (ways (one (.single c.toNat)) h).flatMap (ways (literal t)) :=
      Template.ways_ofParts_cons _ _ h
    rw [hcons, Template.ways_char]
    split
    · next hhead =>
      rw [List.eq_cons_of_mem_head? hhead, List.prefix_cons_inj, List.flatMap_singleton, ih]
      rfl
    · next hhead =>
      have hfront : ¬ c :: t <+: h.rest := by
        rintro ⟨rest, hrest⟩
        exact hhead (by rw [← hrest]; rfl)
      simp [hfront]

theorem exists_mem_starts_iff {t cs : List Char} {before : Option Char} {position : Nat} :
    (∃ h ∈ starts before position cs, t <+: h.rest) ↔ t <:+: cs := by
  induction cs generalizing before position with
  | nil => simp [starts]
  | cons c cs ih => simp [starts, List.infix_cons_iff, ih]

theorem isSome_search_literal_iff {t text : List Char} :
    (search (literal t) text).isSome = true ↔ t <:+: text := by
  simp only [isSome_search_iff, ways_literal_ne_nil_iff, exists_mem_starts_iff]

end Regex

/-! ## Quoted texts -/

namespace Delimited

/-- **Quoted texts.** A quoted text that there is room for is an expression, unless it takes an
escape without a meaning. It is found where the text is that unescaping leaves of it, so the text
itself is found exactly if the delimiter means something in expressions, or follows no backslash
in the text. -/
theorem quoted_text_found [Regex.Capacity] {d : Char} {t : List Char} (hd : canOpen d = true)
    (hescapable : isEscapable d = true ∨ ¬ ['\\', d] <:+: t)
    (hfits : Regex.Capacity.fits (Regex.literal (unescape d t)) = true) :
    ∃ e, Expression.ofDelimited (quote d t) = .ok e ∧
      (∀ s : String, e.isMatch s = true ↔ unescape d t <:+: s.toList) ∧
      ((∀ s : String, e.isMatch s = true ↔ t <:+: s.toList) ↔
        isMeta d = true ∨ ¬ ['\\', d] <:+: t) := by
  have hcompile : Regex.compile? (unescape d (escape t)) = some (Regex.literal (unescape d t)) :=
    Regex.compile?_eq_some_iff.2 ⟨Regex.parse?_spells (spells_unescape_escape hescapable), hfits⟩
  have hmatch : ∀ s : String,
      (Expression.mk (String.ofList (unescape d (escape t)))
        (Regex.literal (unescape d t))).isMatch s = true ↔ unescape d t <:+: s.toList :=
    fun s => Regex.isSome_search_literal_iff
  refine ⟨_, Expression.ofDelimited_eq_ok_iff.2 ⟨_, _, sourceOf_quote hd t, ?_, rfl⟩, hmatch, ?_⟩
  · rwa [String.toList_ofList]
  · simp only [hmatch, ← unescape_eq_self_iff]
    constructor
    · intro h
      have hleft := (h (String.ofList (unescape d t))).1 (by simp)
      have hright := (h (String.ofList t)).2 (by simp)
      rw [String.toList_ofList] at hleft hright
      exact hright.eq_of_length_le hleft.length_le
    · intro h s
      rw [h]

/-- A backslash, a slash and a star, but no slash that follows a backslash. -/
theorem path_found : ∃ e, Expression.ofDelimited "/c:\\\\x/\\*/" = .ok e ∧
    e.isMatch "copy c:\\x/*" = true ∧
    ∀ s : String, e.isMatch s = true ↔ "c:\\x/*".toList <:+: s.toList := by
  obtain ⟨e, he, -, hself⟩ := quoted_text_found (by decide : canOpen '/' = true)
    (.inl rfl : isEscapable '/' = true ∨ ¬ ['\\', '/'] <:+: "c:\\x/*".toList)
    (by decide +kernel)
  have hfound := hself.2 (.inr (by decide +kernel))
  exact ⟨e, he, (hfound _).2 (by decide +kernel), hfound⟩

/-- The second backslash is taken for that of an escaped delimiter, so the first one escapes it. -/
theorem bare_slash_found : ∃ e, Expression.ofDelimited (quote '/' ['\\', '/']) = .ok e ∧
    e.isMatch "/" = true ∧ ¬ ['\\', '/'] <:+: "/".toList := by
  obtain ⟨e, he, hmatch⟩ : ∃ e, Expression.ofDelimited (quote '/' ['\\', '/']) = .ok e ∧
      e.isMatch "/" = true :=
    Expression.isMatch_ofDelimited (sourceOf_quote (by decide) _) (by decide +kernel)
  exact ⟨e, he, hmatch, by decide +kernel⟩

end Delimited

end Switchboard
