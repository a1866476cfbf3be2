import Switchboard.Proofs.AsWritten
import Switchboard.Proofs.Coverage
import Switchboard.Proofs.Enclosed
import Switchboard.Proofs.FrontFlags

/-!
# The modifier that anchors

The modifier `A` puts a group around an expression, and the test of the start of the text in front
of it. The group is written around the text of the expression, so its parenthesis closes it only if
the text leaves it alone:

    /a|b/A          \A(?:a|b)
    /a)(b/A         \A(?:a)(b)         the group is closed early, and another one late
    /b # b/xA       (?x)\A(?:b # b)    the parenthesis is a part of the comment

If it closes the group, the expression and the anchored one are both well formed, up to the limits
on depth and size, and the anchored one matches where the other has a match at the start
(`anchored_iff`).
-/

namespace Switchboard

open Regex.Parser

/-! ## Expressions at the start of a text -/

namespace Regex

/-- Whether an expression has a match that begins at the first position of a text. -/
def MatchesAtStart (r : Regex) (text : List Char) : Prop := ways r ⟨0, none, text, [(0, 0)]⟩ ≠ []

section
variable [Capacity]

/-- Whether the expression of a text, as far as it is read, is not too deep, and there is room for
it. -/
def withinLimits (text : List Char) : Bool :=
  (alternatives (text.length + 1) [] [] (.start text)).all fun (item, _) =>
    item.depth ≤ maxDepth && Capacity.fits item.regex

theorem compile?_eq_some_iff_withinLimits {text : List Char} {r : Regex} :
    compile? text = some r ↔ withinLimits text = true ∧ ∃ item s,
      alternatives (text.length + 1) [] [] (.start text) = some (item, s) ∧ s.rest = [] ∧
        item.regex = r := by
  rw [compile?_eq_some_iff]
  unfold parse? withinLimits
  cases hread : alternatives (text.length + 1) [] [] (.start text) with
  | none => simp
  | some read =>
    obtain ⟨item, ⟨rest, flags, groups, names⟩⟩ := read
    cases rest with
    | nil =>
      have hregex : item.regex = r ∧ Capacity.fits r = true ↔
          Capacity.fits item.regex = true ∧ item.regex = r :=
        ⟨fun ⟨h, hfits⟩ => ⟨h ▸ hfits, h⟩, fun ⟨hfits, h⟩ => ⟨h, h ▸ hfits⟩⟩
      simp [and_assoc, hregex]
    | cons => simp

end

theorem ways_anchored_ne_nil_iff {r : Regex} {h : Head} :
    ways (sequence [look .textStart, r]) h ≠ [] ↔ h.before = none ∧ ways r h ≠ [] := by
  rw [ways_sequence, Template.ways_ofParts_cons, ways]
  cases hbefore : h.before with
  | none => simp [Place.satisfies, Head.place, hbefore, ofParts]
  | some => simp [Place.satisfies, Head.place, hbefore]

theorem mem_starts_self (text : List Char) :
    (⟨0, none, text, [(0, 0)]⟩ : Head) ∈ starts none 0 text := by
  cases text with
  | nil => exact List.mem_singleton.2 rfl
  | cons => exact List.mem_cons_self

theorem isSome_search_anchored_iff {r : Regex} {text : List Char} :
    (search (sequence [look .textStart, r]) text).isSome = true ↔ r.MatchesAtStart text := by
  simp only [isSome_search_iff, ways_anchored_ne_nil_iff]
  constructor
  · rintro ⟨h, hm, hbefore, hr⟩
    rwa [before_of_mem_starts hm hbefore] at hr
  · exact fun hr => ⟨_, mem_starts_self text, rfl, hr⟩

end Regex

namespace Delimited

/-! ## Modifiers -/

/-- A delimited text with the modifier that anchors it. -/
def anchored (d : Delimited) : Delimited := { d with modifiers := d.modifiers ++ [anchor] }

section Modifiers
variable {d : Delimited}

theorem anchor_ne_closing {c : Char} (hc : canOpen c = true) : anchor ≠ closing c := by
  intro heq
  unfold closing at heq
  split at heq
  · cases heq
  · cases heq
  · cases heq
  · rw [← heq] at hc
    cases hc

theorem split?_anchored {text : String} (h : split? text = some d) :
    split? (text ++ "A") = some d.anchored := by
  have hwraps := split?_eq_some_iff.1 h
  have happend : (text ++ "A").toList = text.toList ++ [anchor] := String.toList_append
  apply split?_eq_some_iff.2
  refine ⟨hwraps.opens, ?_, ?_⟩
  · rw [happend, List.dropWhile_append, hwraps.parts]
    simp [anchored]
  · have hlast : closing d.delimiter ∉ d.modifiers := hwraps.last
    have hne : closing d.delimiter ≠ anchor := Ne.symm (anchor_ne_closing hwraps.opens)
    simp [anchored, hlast, hne]

theorem flags_anchored : d.anchored.flags = d.flags := by
  simp [flags, anchored, isFlag, anchor]

theorem all_isModifier_anchored :
    d.anchored.modifiers.all isModifier = d.modifiers.all isModifier := by
  simp [anchored, isModifier]

end Modifiers

/-! ## Sources -/

/-- The flags in front of an expression. -/
def front (d : Delimited) : List Char :=
  if d.flags.isEmpty then [] else ['(', '?'] ++ d.flags ++ [')']

/-- The expression itself. -/
def content (d : Delimited) : List Char := unescape d.delimiter d.body

/-- What the flags in front of an expression are read as. -/
def lead (d : Delimited) : List Item := if d.flags.isEmpty then [] else [⟨.empty, 0, true⟩]

def withFlag (f : Flags) (c : Char) : Flags := (setFlag? f true c).getD f

/-- The flags that hold for the expression itself. -/
def inForce (d : Delimited) : Flags := d.flags.foldl withFlag {}

/-- Where the expression itself is read. -/
def cursor (d : Delimited) (cs : List Char) : Cursor := ⟨cs, d.inForce, 0, []⟩

/-- Whether a parenthesis behind the expression closes a group in front of it: it is left to be
read when the expression has been read. -/
def Encloses (d : Delimited) : Prop :=
  ∃ n item s, alternatives n [] [] (d.cursor (d.content ++ [')'])) = some (item, s) ∧
    s.rest = [')']

section Sources
variable {d : Delimited}

theorem source_eq (h : anchor ∉ d.modifiers) : d.source = d.front ++ d.content := by
  simp [source, front, content, h]

theorem source_anchored :
    d.anchored.source = d.front ++ ("\\A(?:".toList ++ (d.content ++ [')'])) := by
  have hflags : d.anchored.flags = d.flags := flags_anchored
  have hanchor : d.anchored.modifiers.contains anchor = true := by simp [anchored]
  rw [source, hflags, hanchor]
  rfl

theorem eq_of_isFlag {c : Char} (hc : isFlag c = true) :
    c = 'i' ∨ c = 'm' ∨ c = 's' ∨ c = 'x' ∨ c = 'U' := by
  have hmem : c ∈ ['i', 'm', 's', 'x', 'U'] := List.contains_iff_mem.1 hc
  simpa only [List.mem_cons, List.not_mem_nil, or_false] using hmem

theorem setFlag?_of_isFlag {c : Char} (f : Flags) (hc : isFlag c = true) :
    c ≠ ':' ∧ c ≠ ')' ∧ c ≠ '-' ∧ setFlag? f true c = some (withFlag f c) := by
  rcases eq_of_isFlag hc with rfl | rfl | rfl | rfl | rfl <;>
    exact ⟨by decide, by decide, by decide, rfl⟩

theorem isFlag_of_mem_flags {c : Char} (h : c ∈ d.flags) : isFlag c = true :=
  (mem_flags.1 h).2

/-- The run lemma of reading flags: each of them once, up to the closing parenthesis. -/
theorem flagLetters_firstOccurrences {l seen : List Char} (hl : ∀ c ∈ l, isFlag c = true)
    (hseen : '-' ∉ seen) (f : Flags) (cs : List Char) :
    flagLetters f seen (firstOccurrences seen l ++ ')' :: cs) =
      some ((firstOccurrences seen l).foldl withFlag f,
        !(seen.isEmpty && (firstOccurrences seen l).isEmpty), ')' :: cs) := by
  induction l generalizing seen f with
  | nil =>
    have hhead : seen.head? ≠ some '-' := fun h => hseen (List.mem_of_mem_head? h)
    simp [firstOccurrences, flagLetters, hhead]
  | cons c l ih =>
    obtain ⟨hc, hl⟩ := List.forall_mem_cons.1 hl
    rw [firstOccurrences]
    split
    · exact ih hl hseen f
    · next hnew =>
      obtain ⟨hcolon, hparenthesis, hhyphen, hset⟩ := setFlag?_of_isFlag f hc
      have hseen' : '-' ∉ c :: seen := by simp [hseen, Ne.symm hhyphen]
      have hnone : seen.contains '-' = false := by simpa using hseen
      rw [List.cons_append, flagLetters]
      simp only [hcolon, hparenthesis, or_self, if_false, hnew, Bool.false_eq_true, hhyphen,
        hnone, Bool.not_false, hset, ih hl hseen', List.foldl_cons]
      simp

theorem opening_flags (hsome : ¬ d.flags.isEmpty = true) (cs : List Char) :
    opening {} ('?' :: (d.flags ++ ')' :: cs)) = some (.flags d.inForce, cs) := by
  have hread : flagLetters {} [] (d.flags ++ ')' :: cs) =
      some (d.inForce, !d.flags.isEmpty, ')' :: cs) :=
    flagLetters_firstOccurrences (fun c hc => (List.mem_filter.1 hc).2) List.not_mem_nil {} cs
  cases hflags : d.flags with
  | nil => exact (hsome (by rw [hflags]; rfl)).elim
  | cons c flags =>
    rw [hflags] at hread
    simp only [List.cons_append] at hread ⊢
    rcases eq_of_isFlag (isFlag_of_mem_flags (hflags ▸ List.mem_cons_self)) with
      rfl | rfl | rfl | rfl | rfl <;> simp [opening, skip, hread]

theorem alternatives_front (n : Nat) (cs : List Char) :
    alternatives (n + d.lead.length) [] [] (.start (d.front ++ cs)) =
      alternatives n [] d.lead (d.cursor cs) := by
  unfold front lead
  split
  · next hnone =>
    have hforce : d.inForce = {} := by
      rw [inForce, List.isEmpty_iff.1 hnone]
      rfl
    rw [cursor, hforce]
    rfl
  · next hsome =>
    have happend : ['(', '?'] ++ d.flags ++ [')'] ++ cs = '(' :: '?' :: (d.flags ++ ')' :: cs) := by
      simp
    rw [happend, List.length_singleton, alternatives]
    dsimp only [Cursor.start, skip]
    simp only [Bool.false_eq_true, if_false, opening_flags hsome]
    rfl

theorem alternatives_behind_lead (n : Nat) (s : Cursor) :
    Option.Rel ReadsAlike (alternatives n [] [] s) (alternatives n [] d.lead s) := by
  unfold lead
  split
  · cases alternatives n [] [] s with
    | none => exact .none
    | some => exact .some ⟨rfl, rfl⟩
  · exact alternatives_behind_flags (.first allProper_nil)

/-- How a group behind the test of the start is read: what is in it, and then what follows. -/
theorem alternatives_anchored (n : Nat) (items : List Item) (cs : List Char) (f : Flags) :
    alternatives (n + 2) [] items ⟨"\\A(?:".toList ++ cs, f, 0, []⟩ =
      match alternatives n [] [] ⟨cs, f, 0, []⟩ with
      | some (item, { rest := ')' :: cs, flags := _, groups := groups, names := names }) =>
        alternatives n []
          (⟨item.regex, item.depth + 1, false⟩ :: ⟨.look .textStart, 0, false⟩ :: items)
          ⟨cs, f, groups, names⟩
      | _ => none := by
  obtain ⟨_, _, _, _, _, _, verbose⟩ := f
  cases verbose <;> rfl

/-- How the source of an anchored expression is read: what is in the group, and what follows. -/
theorem alternatives_source_anchored (n : Nat) :
    alternatives (n + 2 + d.lead.length) [] [] (.start d.anchored.source) =
      match alternatives n [] [] (d.cursor (d.content ++ [')'])) with
      | some (item, { rest := ')' :: cs, flags := _, groups := groups, names := names }) =>
        alternatives n []
          (⟨item.regex, item.depth + 1, false⟩ :: ⟨.look .textStart, 0, false⟩ :: d.lead)
          ⟨cs, d.inForce, groups, names⟩
      | _ => none := by
  rw [source_anchored, alternatives_front, cursor, alternatives_anchored]
  rfl

theorem regex_closeItem_anchored (item : Item) :
    (closeItem [] (item :: ⟨.look .textStart, 0, false⟩ :: d.lead)).regex =
      .sequence [.look .textStart, item.regex] := by
  unfold lead
  split <;> rfl

theorem length_lead_le : d.lead.length ≤ d.front.length := by
  unfold lead front
  split
  · exact Nat.le_refl 0
  · simp

/-- The fuel that is left when the expression itself is read. -/
def contentFuel (d : Delimited) : Nat := d.front.length - d.lead.length + d.content.length + 1

theorem length_source (h : anchor ∉ d.modifiers) :
    d.source.length + 1 = d.contentFuel + d.lead.length := by
  have hlead := length_lead_le (d := d)
  rw [source_eq h, List.length_append, contentFuel]
  omega

theorem length_source_anchored :
    d.anchored.source.length + 1 = d.contentFuel + 4 + 2 + d.lead.length := by
  have hlead := length_lead_le (d := d)
  have hopening : "\\A(?:".toList.length = 5 := rfl
  rw [source_anchored, List.length_append, List.length_append, List.length_append, hopening,
    contentFuel, List.length_singleton]
  omega

end Sources

/-! ## The group -/

section Group
variable {d : Delimited}

/-- If the parenthesis closes the group, the same is read alone and in the group. -/
theorem Encloses.read (h : d.Encloses) : ∃ (item : Item) (s : Cursor), ∀ n, d.content.length < n →
    alternatives n [] [] (d.cursor d.content) = some (item, s.at []) ∧
      alternatives n [] [] (d.cursor (d.content ++ [')'])) = some (item, s.at [')']) := by
  obtain ⟨m, item, ⟨rest, f, groups, names⟩, hread, hrest⟩ := h
  obtain rfl : rest = [')'] := hrest
  refine ⟨item, ⟨[')'], f, groups, names⟩, fun n hn => ?_⟩
  obtain ⟨rest, halone, henclosed, -⟩ :=
    (retracted_alternatives (s := d.cursor d.content) hn (.followed d.content) hread).resolve_left
      (by simp)
  have hnil : rest = [] := by
    generalize hclosing : [')'] = cs at henclosed
    cases henclosed with
    | followed => simpa using hclosing
    | swallowed => rfl
  subst hnil
  obtain ⟨rest', hgroup, -⟩ :=
    local_alternatives closing_parenthesis (Nat.le_refl n) (.followed d.content) halone
  cases alternatives_unique hread hgroup
  exact ⟨halone, hgroup⟩

/-- If an expression can be read alone, and a group around it is closed at all, the parenthesis
behind the expression closes it. -/
theorem encloses_of_read {n n' : Nat} (hn : n ≤ n') {item item' : Item} {s s' : Cursor}
    (halone : alternatives n [] [] (d.cursor d.content) = some (item, s)) (hrest : s.rest = [])
    (hgroup : alternatives n' [] [] (d.cursor (d.content ++ [')'])) = some (item', s'))
    (hrest' : s'.rest ≠ []) : d.Encloses := by
  obtain ⟨rest, hread, hcontinues⟩ :=
    local_alternatives closing_parenthesis hn (.followed d.content) halone
  refine ⟨n', item, s.at rest, hread, ?_⟩
  cases alternatives_unique hgroup hread
  rw [hrest] at hcontinues
  cases hcontinues with
  | followed => rfl
  | swallowed => exact (hrest' rfl).elim

/-- How both sources are read, if the parenthesis closes the group. -/
theorem Encloses.read_sources (h : d.Encloses) (hplain : anchor ∉ d.modifiers) :
    ∃ item item' s s',
      alternatives (d.source.length + 1) [] [] (.start d.source) = some (item, s) ∧
        s.rest = [] ∧
      alternatives (d.anchored.source.length + 1) [] [] (.start d.anchored.source) =
        some (item', s') ∧ s'.rest = [] ∧
      ∃ r, item'.regex = .sequence [.look .textStart, r] ∧
        Regex.ways item.regex = Regex.ways r := by
  obtain ⟨item, s, hread⟩ := h.read
  have hfuel : d.content.length < d.contentFuel := by
    unfold contentFuel
    omega
  have halone := (hread d.contentFuel hfuel).1
  have hgroup := (hread (d.contentFuel + 4) (by omega)).2
  have hlead := alternatives_behind_lead (d := d) d.contentFuel (d.cursor d.content)
  rw [halone] at hlead
  generalize hfront : alternatives d.contentFuel [] d.lead (d.cursor d.content) = front at hlead
  cases hlead with
  | @some _ read hlead =>
    have hregex := regex_closeItem_anchored (d := d) ⟨item.regex, item.depth + 1, false⟩
    refine ⟨read.1, _, read.2, ⟨[], d.inForce, s.groups, s.names⟩, ?_, ?_, ?_, rfl, _, hregex,
      hlead.2⟩
    · rw [length_source hplain, source_eq hplain, alternatives_front, hfront]
    · rw [← hlead.1]
      rfl
    · rw [length_source_anchored, alternatives_source_anchored, hgroup]
      exact alternatives_end (d.contentFuel + 3) _ _ _ _ _

/-- An expression and the anchored one both compile if the parenthesis closes the group, up to the
limits of both, and only then. -/
theorem compile?_both_iff [Regex.Capacity] (hplain : anchor ∉ d.modifiers) :
    (∃ r, Regex.compile? d.source = some r) ∧ (∃ r', Regex.compile? d.anchored.source = some r') ↔
      d.Encloses ∧ Regex.withinLimits d.source = true ∧
        Regex.withinLimits d.anchored.source = true := by
  simp only [Regex.compile?_eq_some_iff_withinLimits]
  constructor
  · rintro ⟨⟨r, hlimits, item, s, hread, hrest, -⟩, r', hlimits', item', s', hread', -⟩
    refine ⟨?_, hlimits, hlimits'⟩
    rw [length_source hplain, source_eq hplain, alternatives_front] at hread
    rw [length_source_anchored, alternatives_source_anchored] at hread'
    have hlead := alternatives_behind_lead (d := d) d.contentFuel (d.cursor d.content)
    rw [hread] at hlead
    generalize halone : alternatives d.contentFuel [] [] (d.cursor d.content) = alone at hlead
    cases hlead with
    | @some read _ hlead =>
      split at hread'
      · next hgroup =>
        exact encloses_of_read (Nat.le_add_right _ 4) halone (hlead.1 ▸ hrest) hgroup
          (List.cons_ne_nil _ _)
      · cases hread'
  · rintro ⟨hencloses, hlimits, hlimits'⟩
    obtain ⟨item, item', s, s', hread, hrest, hread', hrest', -⟩ :=
      hencloses.read_sources hplain
    exact ⟨⟨_, hlimits, item, s, hread, hrest, rfl⟩, _, hlimits', item', s', hread', hrest', rfl⟩

/-- The anchored expression is the expression behind the test of the start. -/
theorem Encloses.parse?_anchored (h : d.Encloses) (hplain : anchor ∉ d.modifiers) {r r' : Regex}
    (hr : Regex.parse? d.source = some r) (hr' : Regex.parse? d.anchored.source = some r') :
    ∃ r₀, r' = .sequence [.look .textStart, r₀] ∧ r.ways = r₀.ways := by
  obtain ⟨item, item', s, s', hread, hrest, hread', hrest', r₀, hregex, hways⟩ :=
    h.read_sources hplain
  rw [Regex.eq_of_parse? hr hread hrest, Regex.eq_of_parse? hr' hread' hrest']
  exact ⟨r₀, hregex, hways⟩

end Group

/-! ## Expressions -/

section Expressions
variable [Regex.Capacity] {d : Delimited} {text : String}

omit [Regex.Capacity] in
theorem sourceOf_eq_ok_iff (hsplit : split? text = some d) {source : String} :
    sourceOf text = .ok source ↔
      d.modifiers.all isModifier = true ∧ source = String.ofList d.source := by
  cases hknown : d.modifiers.all isModifier with
  | true => simp [sourceOf_of_known hsplit hknown, eq_comm]
  | false =>
    obtain ⟨m, -, -, hm⟩ := sourceOf_of_unknown hsplit hknown
    simp [hm]

theorem ofDelimited_iff_of_split (hsplit : split? text = some d) {e : Expression} :
    Expression.ofDelimited text = .ok e ↔ d.modifiers.all isModifier = true ∧
      Regex.compile? d.source = some e.regex ∧ e.source = String.ofList d.source := by
  rw [Expression.ofDelimited_eq_ok_iff]
  simp only [sourceOf_eq_ok_iff hsplit]
  constructor
  · rintro ⟨source, r, ⟨hall, rfl⟩, hr, rfl⟩
    rw [String.toList_ofList] at hr
    exact ⟨hall, hr, rfl⟩
  · rintro ⟨hall, hr, hsource⟩
    exact ⟨_, e.regex, ⟨hall, rfl⟩, by rwa [String.toList_ofList], hsource ▸ rfl⟩

theorem exists_ofDelimited_iff (hsplit : split? text = some d) :
    (∃ e, Expression.ofDelimited text = .ok e) ↔
      d.modifiers.all isModifier = true ∧ ∃ r, Regex.compile? d.source = some r := by
  simp only [ofDelimited_iff_of_split hsplit]
  constructor
  · rintro ⟨e, hall, hr, -⟩
    exact ⟨hall, e.regex, hr⟩
  · rintro ⟨hall, r, hr⟩
    exact ⟨⟨_, r⟩, hall, hr, rfl⟩

/-- **Anchored expressions.** A delimited expression and the one with `A` behind its modifiers are
both well formed exactly if the modifiers are known, the parenthesis behind the expression closes a
group in front of it, and both sources keep to the limits. Then the anchored one matches where the
other has a match at the start. -/
theorem anchored_iff (hsplit : split? text = some d) (hplain : anchor ∉ d.modifiers) :
    ((∃ e, Expression.ofDelimited text = .ok e) ∧
        (∃ e', Expression.ofDelimited (text ++ "A") = .ok e') ↔
      d.modifiers.all isModifier = true ∧ d.Encloses ∧ Regex.withinLimits d.source = true ∧
        Regex.withinLimits d.anchored.source = true) ∧
    ∀ e e', Expression.ofDelimited text = .ok e → Expression.ofDelimited (text ++ "A") = .ok e' →
      ∀ s : String, e'.isMatch s = true ↔ e.regex.MatchesAtStart s.toList := by
  have hsplit' := split?_anchored hsplit
  have hboth : (∃ e, Expression.ofDelimited text = .ok e) ∧
        (∃ e', Expression.ofDelimited (text ++ "A") = .ok e') ↔
      d.modifiers.all isModifier = true ∧ d.Encloses ∧ Regex.withinLimits d.source = true ∧
        Regex.withinLimits d.anchored.source = true := by
    rw [exists_ofDelimited_iff hsplit, exists_ofDelimited_iff hsplit', all_isModifier_anchored,
      ← compile?_both_iff hplain]
    tauto
  refine ⟨hboth, fun e e' he he' s => ?_⟩
  obtain ⟨-, hencloses, -⟩ := hboth.1 ⟨⟨e, he⟩, e', he'⟩
  obtain ⟨-, hr, -⟩ := (ofDelimited_iff_of_split hsplit).1 he
  obtain ⟨-, hr', -⟩ := (ofDelimited_iff_of_split hsplit').1 he'
  obtain ⟨r, hregex, hways⟩ := hencloses.parse?_anchored hplain
    (Regex.compile?_eq_some_iff.1 hr).1 (Regex.compile?_eq_some_iff.1 hr').1
  rw [Expression.isMatch, hregex, Regex.isSome_search_anchored_iff, Regex.MatchesAtStart,
    Regex.MatchesAtStart, hways]

theorem ofDelimited_eq_error {source : String} (hsource : sourceOf text = .ok source)
    (h : Regex.compile? source.toList = none) :
    Expression.ofDelimited text = .error (.invalid source) := by
  rw [Expression.ofDelimited, hsource]
  dsimp only
  rw [Expression.ofSource, h]

end Expressions

/-- Alternatives under a flag: the anchored ones match at the start only. -/
theorem alternatives_anchor : ∃ e e', Expression.ofDelimited "/on | off/x" = .ok e ∧
    Expression.ofDelimited "/on | off/xA" = .ok e' ∧ e.isMatch "switched off" = true ∧
    e'.isMatch "offline" = true ∧ Encloses ⟨'/', "on | off".toList, ['x']⟩ ∧
    ∀ s : String, e'.isMatch s = true ↔ e.regex.MatchesAtStart s.toList := by
  have hsplit : split? "/on | off/x" = some ⟨'/', "on | off".toList, ['x']⟩ := by cbv
  obtain ⟨hboth, hmatch⟩ := anchored_iff hsplit (by decide)
  obtain ⟨e, he, hfound⟩ : ∃ e, Expression.ofDelimited "/on | off/x" = .ok e ∧
      e.isMatch "switched off" = true :=
    Expression.isMatch_ofDelimited (by decide +kernel : sourceOf "/on | off/x" = .ok "(?x)on | off")
      (by decide +kernel)
  obtain ⟨e', he', hfound'⟩ : ∃ e', Expression.ofDelimited "/on | off/xA" = .ok e' ∧
      e'.isMatch "offline" = true :=
    Expression.isMatch_ofDelimited
      (by decide +kernel : sourceOf "/on | off/xA" = .ok "(?x)\\A(?:on | off)") (by decide +kernel)
  exact ⟨e, e', he, he', hfound, hfound', (hboth.1 ⟨⟨e, he⟩, e', he'⟩).2.1, hmatch e e' he he'⟩

/-- A comment takes the parenthesis, so an expression that matches loses its meaning. A parenthesis
of the expression closes the group, so one without a meaning gets one. -/
theorem anchor_breaks_and_mends :
    (∃ e, Expression.ofDelimited "/b # b/x" = .ok e ∧ e.isMatch "bc" = true) ∧
      Expression.ofDelimited "/b # b/xA" = .error (.invalid "(?x)\\A(?:b # b)") ∧
    Expression.ofDelimited "/a)(b/" = .error (.invalid "a)(b") ∧
      ∃ e', Expression.ofDelimited "/a)(b/A" = .ok e' ∧ e'.isMatch "abc" = true := by
  refine ⟨?_, ?_, ?_, ?_⟩
  · exact Expression.isMatch_ofDelimited (by decide +kernel : sourceOf "/b # b/x" = .ok "(?x)b # b")
      (by decide +kernel)
  · exact ofDelimited_eq_error (by decide +kernel) (by decide +kernel)
  · exact ofDelimited_eq_error (by decide +kernel) (by decide +kernel)
  · exact Expression.isMatch_ofDelimited
      (by decide +kernel : sourceOf "/a)(b/A" = .ok "\\A(?:a)(b)") (by decide +kernel)

end Delimited

end Switchboard
