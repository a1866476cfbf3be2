import Switchboard.Proofs.Cache
import Switchboard.Proofs.Delimiters
import Switchboard.Proofs.TemplateMatch

/-!
# Delimited expressions are used as written

An item with a delimited expression accepts what the expression matches, if the text of the
expression has no placeholders:

    item.captures? payload  =  some []                if the value loosely equals the text
                               e.captures subject     otherwise

A brace of the expression that reads as a placeholder comes first: `/a{2}/` is the template that
stands for a text between "/a" and "/" (`braces_come_first`).
-/

namespace Switchboard

namespace Expression

theorem isSome_captures (e : Expression) (text : String) :
    (e.captures text).isSome = e.isMatch text := Option.isSome_map

variable [Regex.Capacity]

/-- Only delimited texts have a delimited expression. -/
theorem isDelimited_of_ofDelimited {text : String} {e : Expression}
    (h : ofDelimited text = .ok e) : Delimited.isDelimited text = true := by
  cases hsplit : Delimited.split? text with
  | none =>
    rw [ofDelimited_of_not_split hsplit] at h
    cases h
  | some d =>
    rw [Delimited.isDelimited_of_split hsplit]
    cases hknown : d.modifiers.all Delimited.isModifier with
    | true => rfl
    | false =>
      obtain ⟨m, -, -, hm⟩ := ofDelimited_of_unknown hsplit hknown
      rw [hm] at h
      cases h

theorem ofDelimited_eq_ok_iff {text : String} {e : Expression} :
    ofDelimited text = .ok e ↔
      ∃ source r, Delimited.sourceOf text = .ok source ∧ Regex.compile? source.toList = some r ∧
        e = ⟨source, r⟩ := by
  unfold ofDelimited ofSource
  rcases Delimited.sourceOf text with (_ | m) | source
  · simp
  · simp
  · cases hr : Regex.compile? source.toList with
    | none => simp [hr]
    | some r => simp [hr, eq_comm]

/-- A steady delimited expression that has a way through a text matches it. -/
theorem isMatch_ofDelimited {text source subject : String}
    (hsource : Delimited.sourceOf text = .ok source)
    (h : (Regex.compile? source.toList).any fun r =>
      r.steady && (Regex.firstFrom r none 0 subject.toList).isSome) :
    ∃ e, ofDelimited text = .ok e ∧ e.isMatch subject = true := by
  obtain ⟨r, hr, hfound⟩ := (Option.any_eq_true _ _).1 h
  obtain ⟨hsteady, hfirst⟩ := Bool.and_eq_true_iff.1 hfound
  refine ⟨_, ofDelimited_eq_ok_iff.2 ⟨source, r, hsource, hr, rfl⟩, ?_⟩
  rw [isMatch, Regex.search_eq hsteady]
  exact hfirst

theorem compile?_of_ofDelimited {text : String} {e : Expression}
    (hplain : Template.hasPlaceholders text = false) (h : ofDelimited text = .ok e) :
    compile? text = some e := by
  have hcompile : compile text = .ok e := by
    rw [compile, isDelimited_of_ofDelimited h, hplain, h]
    rfl
  rw [compile?, hcompile]
  rfl

end Expression

namespace Pattern

section
variable [Regex.Capacity]

/-- What an item with a text makes of a truthy scalar. -/
theorem Item.match?_keyValue {payload : Payload} {path text subject : String} {received : Json}
    (hget : payload.get? path = some received) (htruthy : received.isTruthy = true)
    (hsubject : received.subject? = some subject) :
    (Item.keyValue path (.string text)).match? payload =
      if received.looselyEqual (.string text) then some []
      else (Expression.compile? text).bind (·.captures subject) := by
  have hverdict : (Item.keyValue path (.string text)).verdict payload =
      if received.looselyEqual (.string text) then .decided (some [])
      else .test text subject := by
    simp only [Item.verdict, hget, htruthy, if_true, Item.compare, hsubject]
  rw [Item.match?, hverdict]
  split
  · next heq =>
    split at heq
    · next hloose =>
      cases heq
      rw [if_pos hloose]
    · cases heq
  · next heq =>
    split at heq
    · cases heq
    · next hloose =>
      cases heq
      rw [if_neg hloose]

/-- **Expressions are tried as written.** Whatever a matcher was asked before: if a delimited text
without placeholders has an expression, and the expression matches the text of a truthy scalar, an
item that expects the text there matches, with the captures of the expression unless the two are
loosely equal. -/
theorem delimited_tried_as_written {text path subject : String} {e : Expression}
    {payload : Payload} {received : Json} (hplain : Template.hasPlaceholders text = false)
    (he : Expression.ofDelimited text = .ok e) (hget : payload.get? path = some received)
    (htruthy : received.isTruthy = true) (hsubject : received.subject? = some subject)
    (hmatch : e.isMatch subject = true) (history : List Matcher.Request) :
    let found :=
      (((Item.keyValue path (.string text)).captures? payload).run (Matcher.after {} history)).1
    found.isSome ∧
      found = if received.looselyEqual (.string text) then some [] else e.captures subject := by
  intro found
  have hm := Matcher.remembers_after history (Matcher.remembers_empty [])
  have hfound : found =
      if received.looselyEqual (.string text) then some [] else e.captures subject := by
    rw [← Option.bind_some e (·.captures subject), ← Expression.compile?_of_ofDelimited hplain he,
      ← Item.match?_keyValue hget htruthy hsubject]
    exact (asks_item _ payload _ _ hm).1
  refine ⟨?_, hfound⟩
  rw [hfound]
  split
  · rfl
  · rw [Expression.isSome_captures, hmatch]

end

/-- What a matcher finds for a text in a payload with one member, after it was asked for it. -/
def foundIn [Regex.Capacity] (expected received : String) : Option (List String) :=
  (((Item.keyValue "text" (.string expected)).captures?
    ⟨.object [("text", .string received)]⟩).run (Matcher.after {} [.expression expected])).1

/-- The expression need not match all of the value. -/
theorem some_as_found : ∃ e, Expression.ofDelimited "/a+b/" = .ok e ∧
    e.isMatch "xaab" = true ∧ (foundIn "/a+b/" "xaab").isSome ∧
    foundIn "/a+b/" "xaab" = e.captures "xaab" := by
  obtain ⟨e, he, hmatch⟩ : ∃ e, Expression.ofDelimited "/a+b/" = .ok e ∧
      e.isMatch "xaab" = true :=
    Expression.isMatch_ofDelimited
      (by decide +kernel : Delimited.sourceOf "/a+b/" = .ok "a+b") (by decide +kernel)
  have hget : Payload.get? ⟨.object [("text", .string "xaab")]⟩ "text" =
      some (.string "xaab") := by cbv
  obtain ⟨hsome, hfound⟩ := delimited_tried_as_written (by decide +kernel) he hget
    (by decide +kernel) rfl hmatch [.expression "/a+b/"]
  rw [if_neg (by decide +kernel)] at hfound
  exact ⟨e, he, hmatch, hsome, hfound⟩

/-- `/a{2}/` as a template: anything between "/a" and "/". -/
def bracedTemplate : List Template.Part := [.char '/', .char 'a', .required ['2'], .char '/']

/-- A repetition in braces reads as a placeholder, so the expression is not tried. -/
theorem braces_come_first : ∃ e, Expression.ofDelimited "/a\x7b2\x7d/" = .ok e ∧
    Delimited.isDelimited "/a\x7b2\x7d/" = true ∧ e.isMatch "aa" = true ∧
    foundIn "/a\x7b2\x7d/" "aa" = none := by
  obtain ⟨e, he, hmatch⟩ : ∃ e, Expression.ofDelimited "/a\x7b2\x7d/" = .ok e ∧
      e.isMatch "aa" = true :=
    Expression.isMatch_ofDelimited
      (by decide +kernel : Delimited.sourceOf "/a\x7b2\x7d/" = .ok "a\x7b2\x7d")
      (by decide +kernel)
  refine ⟨e, he, Expression.isDelimited_of_ofDelimited he, hmatch, ?_⟩
  have hget : Payload.get? ⟨.object [("text", .string "aa")]⟩ "text" = some (.string "aa") := by
    cbv
  have hcompile := Template.compile_textOf
    (by decide : ∀ p ∈ bracedTemplate, p.isOrdinary = true) (by decide) (by decide)
  rw [if_pos (by decide)] at hcompile
  have hfound := (asks_item (.keyValue "text" (.string "/a\x7b2\x7d/"))
    ⟨.object [("text", .string "aa")]⟩ _ _
    (Matcher.remembers_after [.expression "/a\x7b2\x7d/"] (Matcher.remembers_empty []))).1
  rw [Item.match?_keyValue hget (by decide +kernel) rfl, if_neg (by decide +kernel)] at hfound
  refine hfound.trans ?_
  have htext : String.ofList (Template.textOf bracedTemplate) = "/a\x7b2\x7d/" := by decide
  rw [← htext, Expression.compile?, hcompile]
  show Expression.captures _ "aa" = none
  rw [Template.captures_regexOf]
  decide

end Pattern

end Switchboard
