import Switchboard.Proofs.Continued
import Switchboard.Proofs.FoundWays
import Switchboard.Proofs.TemplateMatch
import Switchboard.Template.Expression

/-!
# Anchors of templates

The source of a template is its expansion between the tests of both ends. The tests are written
next to the expansion, so they belong to its first and its last alternative only:

    ^start|stop$     matches what starts with "start", and what ends with "stop"

A group around the expansion keeps both ends, whatever the expansion is (`parse?_grouped`). So a
template matches whole texts only, if such a group would make no difference
(`matchesWhole_of_grouped`).
-/

namespace Switchboard

namespace Regex

/-- Whether an expression matches a text from its first to its last character. -/
def MatchesWhole (r : Regex) (text : List Char) : Prop :=
  ∃ h ∈ ways r ⟨0, none, text, [(0, 0)]⟩, h.rest = []

instance (r : Regex) (text : List Char) : Decidable (r.MatchesWhole text) :=
  inferInstanceAs (Decidable (∃ h ∈ ways r ⟨0, none, text, [(0, 0)]⟩, h.rest = []))

/-! ## Tests of both ends -/

theorem ways_ofParts_parts (r : Regex) (h : Head) : ways (ofParts (parts r)) h = ways r h := by
  induction r generalizing h with
  | seq a b iha ihb =>
    rw [parts, Template.ways_ofParts_append, iha, ways]
    exact List.flatMap_congr fun h' _ => ihb h'
  | empty | one | look | mark | alt | loop => rfl

theorem mem_ways_look {l : Look} {h h' : Head} :
    h' ∈ ways (look l) h ↔ h.place.satisfies l = true ∧ h' = h := by
  rw [ways]
  split
  · next hl => simp [hl]
  · next hl => simp [hl]

/-- The places behind the first one have a character before them. -/
theorem before_of_mem_starts {before : Option Char} {position : Nat} {cs : List Char} {h : Head}
    (hm : h ∈ starts before position cs) (hnone : h.before = none) :
    h = ⟨position, before, cs, [(0, position)]⟩ := by
  have hlater : ∀ (c : Char) (cs : List Char) (position : Nat),
      ∀ h ∈ starts (some c) position cs, h.before ≠ none := by
    intro c cs
    induction cs generalizing c with
    | nil =>
      intro position h hm
      rw [List.mem_singleton.1 hm]
      exact Option.some_ne_none c
    | cons d cs ih =>
      intro position h hm
      rcases List.mem_cons.1 hm with rfl | hm
      · exact Option.some_ne_none c
      · exact ih d _ h hm
  cases cs with
  | nil => exact List.mem_singleton.1 hm
  | cons c cs =>
    rcases List.mem_cons.1 hm with rfl | hm
    · rfl
    · exact (hlater c cs _ h hm hnone).elim

/-- An expression between the tests of both ends matches whole texts only. -/
theorem matchesWhole_of_search {r : Regex} {text : List Char}
    (h : (search (sequence [look .textStart, r, look .textEnd]) text).isSome) :
    r.MatchesWhole text := by
  obtain ⟨m, hm⟩ := Option.isSome_iff_exists.1 h
  obtain ⟨h₀, hm₀, h', hm', -⟩ := search_mem_ways hm
  have hparts : sequence [look .textStart, r, look .textEnd] =
      ofParts (look .textStart :: (parts r ++ [look .textEnd])) := by
    simp [sequence, parts]
  rw [hparts, Template.ways_ofParts_cons] at hm'
  obtain ⟨h₁, hstart, hm'⟩ := List.mem_flatMap.1 hm'
  rw [Template.ways_ofParts_append] at hm'
  obtain ⟨h₂, hm₂, hend⟩ := List.mem_flatMap.1 hm'
  rw [ways_ofParts_parts] at hm₂
  obtain ⟨hfirst, rfl⟩ := mem_ways_look.1 hstart
  obtain ⟨hlast, rfl⟩ := mem_ways_look.1 hend
  rw [before_of_mem_starts hm₀ (Option.isNone_iff_eq_none.1 hfirst)] at hm₂
  exact ⟨h', hm₂, List.head?_eq_none_iff.1 (Option.isNone_iff_eq_none.1 hlast)⟩

/-! ## Groups -/

/-- An expression in a group between the tests of both ends. -/
def groupedSource (text : List Char) : List Char := "^(?:".toList ++ text ++ ")$".toList

/-- How a group between the tests of both ends is read: what is in it, and then what follows. -/
theorem alternatives_grouped (text : List Char) (n : Nat) :
    Parser.alternatives (n + 2) [] [] (.start (groupedSource text)) =
      match Parser.alternatives n [] [] (.start (text ++ ")$".toList)) with
      | some (item, { rest := ')' :: cs, flags := _, groups := groups, names := names }) =>
        Parser.alternatives n []
          [⟨item.regex, item.depth + 1, false⟩, ⟨look .textStart, 0, false⟩]
          ⟨cs, {}, groups, names⟩
      | _ => none := rfl

/-- What a text parses to is what is read from it, up to its end. -/
theorem eq_of_parse? {text : List Char} {r : Regex} {item : Parser.Item} {s : Parser.Cursor}
    (h : parse? text = some r)
    (hread : Parser.alternatives (text.length + 1) [] [] (.start text) = some (item, s))
    (hrest : s.rest = []) : r = item.regex := by
  obtain ⟨rest, flags, groups, names⟩ := s
  cases hrest
  rw [parse?, hread] at h
  dsimp only at h
  split at h
  · cases h
    rfl
  · cases h

/-- The tests belong to all of a group. -/
theorem parse?_grouped {text : List Char} {r r' : Regex} (h : parse? text = some r)
    (h' : parse? (groupedSource text) = some r') :
    r' = sequence [look .textStart, r, look .textEnd] := by
  have hclosing : Parser.Closing ")$".toList := ⟨rfl, by decide, by decide⟩
  obtain ⟨item, s, rest, rfl, hread, hrest⟩ :=
    Parser.local_parse? hclosing h (by omega : text.length < text.length + 5)
  have hlength : (groupedSource text).length + 1 = text.length + 5 + 2 := by
    simp [groupedSource]
  have hgrouped := alternatives_grouped text (text.length + 5)
  rw [hread] at hgrouped
  cases hrest with
  | followed =>
    have hend : ∃ depth, Parser.alternatives (text.length + 5) []
          [⟨item.regex, item.depth + 1, false⟩, ⟨look .textStart, 0, false⟩]
          ⟨['$'], {}, s.groups, s.names⟩ =
        some (⟨sequence [look .textStart, item.regex, look .textEnd], depth, false⟩,
          ⟨[], {}, s.groups, s.names⟩) := ⟨_, rfl⟩
    obtain ⟨depth, hend⟩ := hend
    exact eq_of_parse? h' (hlength ▸ hgrouped.trans hend) rfl
  | swallowed =>
    rw [parse?, hlength, hgrouped] at h'
    cases h'

end Regex

/-! ## Templates -/

namespace Expression

theorem ofTemplate_eq_ok_iff [Regex.Capacity] {template : String} {e : Expression} :
    ofTemplate template = .ok e ↔
      ∃ r, Regex.compile? (Template.source template).toList = some r ∧
        e = ⟨Template.source template, r⟩ := by
  unfold ofTemplate ofSource
  cases Regex.compile? (Template.source template).toList with
  | none => simp
  | some r => simp [eq_comm]

/-- A steady expression that has a way through a text matches it. -/
theorem isMatch_of_firstFrom [Regex.Capacity] {template subject : String}
    (h : (Regex.compile? (Template.source template).toList).any fun r =>
      r.steady && (Regex.firstFrom r none 0 subject.toList).isSome) :
    ∃ e, ofTemplate template = .ok e ∧ e.isMatch subject = true := by
  obtain ⟨r, hr, hfound⟩ := (Option.any_eq_true _ _).1 h
  obtain ⟨hsteady, hfirst⟩ := Bool.and_eq_true_iff.1 hfound
  refine ⟨_, ofTemplate_eq_ok_iff.2 ⟨r, hr, rfl⟩, ?_⟩
  rw [isMatch, Regex.search_eq hsteady]
  exact hfirst

/-- **Anchored templates.** If a group around the expansion of a template makes no difference to the
expression, the expression matches whole texts only: what matches is matched by the expansion from
its first to its last character. -/
theorem matchesWhole_of_grouped [Regex.Capacity] {template : String} {e : Expression} {r : Regex}
    (h : ofTemplate template = .ok e)
    (hr : Regex.parse? (Template.expand template.toList) = some r)
    (hgroup : Regex.parse? (Regex.groupedSource (Template.expand template.toList)) =
      Regex.parse? (Template.source template).toList)
    {subject : String} (hmatch : e.isMatch subject = true) : r.MatchesWhole subject.toList := by
  obtain ⟨q, hq, rfl⟩ := ofTemplate_eq_ok_iff.1 h
  rw [(Regex.compile?_eq_some_iff.1 hq).1] at hgroup
  obtain rfl := Regex.parse?_grouped hr hgroup
  exact Regex.matchesWhole_of_search hmatch

/-- Alternatives in a group of their own lie between the tests of both ends. -/
theorem choice_matchesWhole : ∃ e r, ofTemplate "(start|stop) \x7bname\x7d" = .ok e ∧
    Regex.parse? (Template.expand "(start|stop) \x7bname\x7d".toList) = some r ∧
    Regex.parse? (Regex.groupedSource (Template.expand "(start|stop) \x7bname\x7d".toList)) =
      Regex.parse? (Template.source "(start|stop) \x7bname\x7d").toList ∧
    e.isMatch "stop me" = true ∧ r.MatchesWhole "stop me".toList := by
  obtain ⟨r, hr⟩ := Option.isSome_iff_exists.1
    (by decide +kernel :
      (Regex.parse? (Template.expand "(start|stop) \x7bname\x7d".toList)).isSome)
  have hgroup :
      Regex.parse? (Regex.groupedSource (Template.expand "(start|stop) \x7bname\x7d".toList)) =
        Regex.parse? (Template.source "(start|stop) \x7bname\x7d").toList := by
    decide +kernel
  obtain ⟨e, he, hmatch⟩ := isMatch_of_firstFrom
    (by decide +kernel :
      (Regex.compile? (Template.source "(start|stop) \x7bname\x7d").toList).any fun r =>
        r.steady && (Regex.firstFrom r none 0 "stop me".toList).isSome)
  exact ⟨e, r, he, hr, hgroup, hmatch, matchesWhole_of_grouped he hr hgroup hmatch⟩

/-- Bare alternatives keep one end each: "started" begins with the first one, and none of them is
all of it. -/
theorem start_or_stop_matches_started : ∃ e r, compile "start|stop" = .ok e ∧
    Regex.parse? (Template.expand "start|stop".toList) = some r ∧
    e.isMatch "started" = true ∧ ¬ r.MatchesWhole "started".toList := by
  have htemplate : compile "start|stop" = ofTemplate "start|stop" :=
    if_neg (by decide +kernel)
  obtain ⟨e, he, hmatch⟩ := isMatch_of_firstFrom
    (by decide +kernel : (Regex.compile? (Template.source "start|stop").toList).any fun r =>
      r.steady && (Regex.firstFrom r none 0 "started".toList).isSome)
  obtain ⟨r, hr, hpart⟩ := (Option.any_eq_true _ _).1
    (by decide +kernel : (Regex.parse? (Template.expand "start|stop".toList)).any fun r =>
      ¬ r.MatchesWhole "started".toList)
  exact ⟨e, r, htemplate.trans he, hr, hmatch, of_decide_eq_true hpart⟩

end Expression

end Switchboard
