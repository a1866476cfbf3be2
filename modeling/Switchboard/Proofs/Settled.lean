import Switchboard.Proofs.TemplateSource

/-!
# Expansion is final

Expansion leaves no placeholder behind, whatever braces a template has, and it changes nothing but
placeholders:

    hasPlaceholders (source t) = false
    source t = "^" ++ t ++ "$"   ↔   hasPlaceholders t = false

What carries both is a fact about lines. A text is settled if no closing brace follows an opening
one on its line (`Settled`). The second pass settles every text (`settled_expandRequired`): an
opening brace that it keeps has no closing brace on its line, and replacing what comes later on
other lines brings none. Neither pass changes a settled text.
-/

namespace Switchboard.Template

/-! ## Settled texts -/

/-- Whether a required placeholder starts nowhere in a text. -/
def Settled : List Char → Prop
  | [] => True
  | c :: cs => afterRequired? (c :: cs) = none ∧ Settled cs

theorem afterRequired?_of_ne {c : Char} (hc : c ≠ braceOpen) (cs : List Char) :
    afterRequired? (c :: cs) = none := if_neg hc

theorem settled_append_of_notMem {front : List Char} (h : braceOpen ∉ front) {cs : List Char} :
    Settled (front ++ cs) ↔ Settled cs := by
  induction front with
  | nil => rfl
  | cons c front ih =>
    rw [List.mem_cons, not_or] at h
    rw [List.cons_append, Settled, ih h.2]
    exact and_iff_right (afterRequired?_of_ne (Ne.symm h.1) _)

theorem afterBrace?_of_notMem {cs : List Char} (h : braceClose ∉ cs) : afterBrace? cs = none := by
  induction cs with
  | nil => rfl
  | cons c cs ih =>
    rw [List.mem_cons, not_or] at h
    rw [afterBrace?, if_neg (Ne.symm h.1), ih h.2, ite_self]

/-- A text without a closing brace does not close what stands before it. -/
theorem afterBrace?_append {back : List Char} (h : braceClose ∉ back) (cs : List Char) :
    afterBrace? (cs ++ back) = (afterBrace? cs).map (· ++ back) := by
  induction cs with
  | nil => exact afterBrace?_of_notMem h
  | cons c cs ih =>
    rw [List.cons_append, afterBrace?, afterBrace?]
    split
    · rfl
    · split
      · rfl
      · exact ih

theorem settled_append {back : List Char} (hopen : braceOpen ∉ back) (hclose : braceClose ∉ back)
    {cs : List Char} : Settled (cs ++ back) ↔ Settled cs := by
  induction cs with
  | nil =>
    have hback : Settled (back ++ []) ↔ Settled [] := settled_append_of_notMem hopen
    rwa [List.append_nil] at hback
  | cons c cs ih =>
    rw [List.cons_append, Settled, Settled, ih, afterRequired?, afterRequired?,
      afterBrace?_append hclose]
    split
    · rw [Option.map_eq_none_iff]
    · rfl

/-! ## Placeholders of settled texts -/

/-- An optional placeholder also has the form of a required one, up to its first closing brace. -/
theorem isSome_afterBrace?_of_afterMark? {cs : List Char} (h : (afterMark? cs).isSome) :
    (afterBrace? cs).isSome := by
  induction cs with
  | nil => cases h
  | cons c cs ih =>
    rw [afterMark?] at h
    rw [afterBrace?]
    split
    · rfl
    · split at h
      · next hc =>
        -- the closing brace comes right after the question mark
        obtain ⟨cs', rfl⟩ := List.head?_eq_some_iff.1 hc.2
        rw [hc.1, if_neg (by decide), afterBrace?, if_pos rfl]
        rfl
      · split at h
        · cases h
        · next hn =>
          rw [if_neg hn]
          exact ih h

theorem isSome_afterRequired?_of_afterOptional? {cs : List Char}
    (h : (afterOptional? cs).isSome) : (afterRequired? cs).isSome := by
  unfold afterOptional? at h
  split at h
  · next c d cs =>
    split at h
    · next hcd =>
      have hbrace : afterBrace? (d :: cs) = afterBrace? cs := by
        rw [afterBrace?, hcd.2, if_neg (by decide), if_neg (by decide)]
      rw [afterRequired?, if_pos hcd.1, hbrace]
      exact isSome_afterBrace?_of_afterMark? h
    · cases h
  · cases h

theorem afterOptional?_of_afterRequired? {cs : List Char} (h : afterRequired? cs = none) :
    afterOptional? cs = none := by
  by_contra hne
  have := isSome_afterRequired?_of_afterOptional? (Option.isSome_iff_ne_none.2 hne)
  rw [h] at this
  cases this

/-- A text is settled exactly if it has no placeholder of either kind. -/
theorem hasPlaceholders_eq_false_iff {template : String} :
    hasPlaceholders template = false ↔ Settled template.toList := by
  rw [hasPlaceholders]
  induction template.toList with
  | nil => exact ⟨fun _ => trivial, fun _ => rfl⟩
  | cons c cs ih =>
    rw [anySuffix, Bool.or_eq_false_iff, ih, Settled]
    refine and_congr_left' ⟨fun h => ?_, fun h => ?_⟩
    · rw [Bool.or_eq_false_iff] at h
      exact Option.isNone_iff_eq_none.1 (Option.isSome_eq_false_iff.1 h.2)
    · rw [h, afterOptional?_of_afterRequired? h]
      rfl

/-! ## The passes -/

theorem expandOptional_of_settled {cs : List Char} (h : Settled cs) : expandOptional cs = cs := by
  induction cs with
  | nil => simp [expandOptional, afterOptionalWithin?, afterOptional?]
  | cons c cs ih =>
    have hself := afterOptional?_of_afterRequired? h.1
    have hnext : afterOptional? cs = none := by
      cases cs with
      | nil => rfl
      | cons d cs => exact afterOptional?_of_afterRequired? h.2.1
    rw [expandOptional_cons ((afterOptionalWithin?_of_none hnext).trans hself), ih h.2]

theorem expandRequired_cons {c : Char} {cs : List Char} (h : afterRequired? (c :: cs) = none) :
    expandRequired (c :: cs) = c :: expandRequired cs := by
  rw [expandRequired]
  split <;> simp_all

theorem expandRequired_of_settled {cs : List Char} (h : Settled cs) : expandRequired cs = cs := by
  induction cs with
  | nil => simp [expandRequired, afterRequired?]
  | cons c cs ih => rw [expandRequired_cons h.1, ih h.2]

theorem expand_of_settled {cs : List Char} (h : Settled cs) : expand cs = cs := by
  rw [expand, expandOptional_of_settled h, expandRequired_of_settled h]

/-- The second pass brings no closing brace to a line that has none. -/
theorem afterBrace?_expandRequired {cs : List Char} (h : afterBrace? cs = none) :
    afterBrace? (expandRequired cs) = none := by
  induction cs using expandRequired.induct with
  | case1 cs rest hrest _ =>
    -- a placeholder on the line would end with a closing brace
    cases cs with
    | nil => cases hrest
    | cons c cs =>
      rw [afterRequired?] at hrest
      split at hrest
      · next hc =>
        rw [afterBrace?, hc, if_neg (by decide), if_neg (by decide), hrest] at h
        cases h
      · cases hrest
  | case2 hnone => simp [expandRequired, afterRequired?, afterBrace?]
  | case3 c cs hnone ih =>
    rw [expandRequired_cons hnone]
    rw [afterBrace?] at h ⊢
    split
    · next hc => simp [hc] at h
    · next hc =>
      rw [if_neg hc] at h
      split
      · rfl
      · next hn =>
        rw [if_neg hn] at h
        exact ih h

/-- The second pass settles every text. -/
theorem settled_expandRequired (cs : List Char) : Settled (expandRequired cs) := by
  induction cs using expandRequired.induct with
  | case1 cs rest hrest ih =>
    rw [expandRequired_of_some hrest]
    exact (settled_append_of_notMem (by decide)).2 ih
  | case2 hnone => simp [expandRequired, afterRequired?, Settled]
  | case3 c cs hnone ih =>
    rw [expandRequired_cons hnone]
    refine ⟨?_, ih⟩
    rw [afterRequired?] at hnone ⊢
    split
    · next hc =>
      rw [if_pos hc] at hnone
      exact afterBrace?_expandRequired hnone
    · rfl

theorem settled_expand (cs : List Char) : Settled (expand cs) :=
  settled_expandRequired (expandOptional cs)

/-! ## Templates -/

theorem settled_anchored {text : String} :
    Settled ("^" ++ text ++ "$").toList ↔ Settled text.toList := by
  have htext : ("^" ++ text ++ "$").toList = ['^'] ++ (text.toList ++ ['$']) := by simp
  rw [htext, settled_append_of_notMem (by decide), settled_append (by decide) (by decide)]

/-- **Expansion is final.** The source of a template has no placeholder. It is the template between
anchors exactly if that has none, and expanding what is between its anchors changes nothing. -/
theorem expansion_is_final (template : String) :
    hasPlaceholders (source template) = false ∧
    (source template = "^" ++ template ++ "$" ↔ hasPlaceholders template = false) ∧
    ∃ text, source template = "^" ++ text ++ "$" ∧ source text = "^" ++ text ++ "$" := by
  have hsource : hasPlaceholders (source template) = false := by
    rw [hasPlaceholders_eq_false_iff, source_eq, settled_anchored, String.toList_ofList]
    exact settled_expand _
  have hfixed : ∀ text : String, Settled text.toList → source text = "^" ++ text ++ "$" := by
    intro text h
    rw [source_eq, expand_of_settled h, String.ofList_toList]
  refine ⟨hsource, ⟨fun h => ?_, fun h => hfixed _ (hasPlaceholders_eq_false_iff.1 h)⟩, ?_⟩
  · rw [h, hasPlaceholders_eq_false_iff, settled_anchored] at hsource
    exact hasPlaceholders_eq_false_iff.2 hsource
  · refine ⟨_, source_eq template, hfixed _ ?_⟩
    rw [String.toList_ofList]
    exact settled_expand _

/-- Inner braces and braces on two lines. -/
example : source "\x7ba\x7bb\x7d \x7bc\nd\x7d" = "^(.*?) \x7bc\nd\x7d$" := by cbv

end Switchboard.Template
