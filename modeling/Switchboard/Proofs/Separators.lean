import Switchboard.Proofs.TemplateMatch

/-!
# What separates an optional text

An optional placeholder takes the character in front of it with it, and puts a blank in its place:

    "/ban-{:user?}"  stands for  "/ban"  and  "/ban " ++ text,  and not for  "/ban-" ++ text

So whatever character a template has between a literal and an optional placeholder at its end, in a
subject only a blank separates the two (`separated_by_blank`).
-/

namespace Switchboard.Template

/-! ## Splits after a literal -/

/-- A literal is split off from the front of a text in one way. -/
theorem splits_literal_append (l : List Char) (ps : List Piece) (s : List Char) :
    splits (l.map .char ++ ps) (l ++ s) = splits ps s := by
  induction l with
  | nil => rfl
  | cons c l ih =>
    rw [List.map_cons, List.cons_append, List.cons_append, splits, ← ih]
    simp [Piece.readings]

/-- After a blank, an option at the end takes the rest of the line. -/
theorem head?_splits_option_blank {v : List Char} (hv : '\n' ∉ v) :
    (splits [.option] (' ' :: v)).head? = some [some v] := by
  refine head?_splits.2 ⟨?_, fun us hus => ?_⟩
  · have hsplit : Split [.option] (' ' :: (v ++ [])) [some v] := .present hv .nil
    rwa [List.append_nil] at hsplit
  · generalize hs : ' ' :: v = s at hus
    cases hus with
    | present _ hrest =>
      cases hrest
      rw [List.append_nil, List.cons.injEq] at hs
      exact .inl (by rw [hs.2])
    | absent hrest =>
      cases hrest
      cases hs

/-- An option at the end does not take a text that starts with another character. -/
theorem head?_splits_option_ne {d : Char} (hd : d ≠ ' ') (v : List Char) :
    (splits [.option] (d :: v)).head? = none := by
  rw [← Option.not_isSome_iff_eq_none, ← exists_split_iff]
  rintro ⟨ts, hts⟩
  generalize hs : d :: v = s at hts
  cases hts with
  | present _ _ => exact hd (List.cons.inj hs).1
  | absent hrest =>
    cases hrest
    cases hs

/-! ## Templates -/

/-- A literal, one more character, and an optional placeholder. -/
def separated (l : List Char) (c : Char) (name : List Char) : List Part :=
  l.map .char ++ [.char c, .optional name]

section Separated
variable {l : List Char} {c : Char} {name : List Char}

theorem textOf_separated : textOf (separated l c name) = l ++ c :: (Part.optional name).text := by
  have hl : textOf (l.map .char) = l := by
    induction l with
    | nil => rfl
    | cons d l ih => exact congrArg (d :: ·) ih
  rw [separated, textOf, List.flatMap_append, ← textOf, hl]
  simp [Part.text]

theorem isWellFormed_separated (hl : ∀ d ∈ l, Part.isPlain d = true)
    (hc : Part.isPlain c = true) (hname : name.all Part.isInName = true) :
    ∀ p ∈ separated l c name, p.isWellFormed = true := by
  intro p hp
  rcases List.mem_append.1 hp with hp | hp
  · obtain ⟨d, hd, rfl⟩ := List.mem_map.1 hp
    exact hl d hd
  · rcases List.mem_cons.1 hp with rfl | hp
    · exact hc
    · rw [List.mem_singleton.1 hp]
      exact hname

/-- The character in front of the placeholder is none of the pieces. -/
theorem pieces_separated : pieces (separated l c name) = l.map .char ++ [.option] := by
  induction l with
  | nil => rfl
  | cons d l ih =>
    rw [separated, List.map_cons, List.cons_append, ← separated, List.map_cons, List.cons_append,
      ← ih]
    cases l <;> rfl

theorem isChain_separated :
    (separated l c name).IsChain fun p q => p.mayPrecede q = true := by
  refine List.isChain_append.2 ⟨?_, ?_, fun p hp q _ => ?_⟩
  · exact (List.pairwise_map.2 (List.pairwise_of_forall fun _ _ => rfl)).isChain
  · exact isChain_cons_iff.2 ⟨fun _ => rfl, .singleton _⟩
  · obtain ⟨d, -, rfl⟩ := List.mem_map.1 (List.mem_of_getLast? hp)
    rfl

/-- The expression of such a template, if there is room for it. -/
theorem compile_separated [Regex.Capacity] (hl : ∀ d ∈ l, Part.isPlain d = true)
    (hc : Part.isPlain c = true) (hname : name.all Part.isInName = true)
    (hfits : Regex.Capacity.fits (regexOf (l.map .char ++ [.option])) = true) :
    ∃ source, Expression.compile (String.ofList (l ++ c :: (Part.optional name).text)) =
      .ok ⟨source, regexOf (l.map .char ++ [.option])⟩ := by
  let t : Outline := ⟨separated l c name, isWellFormed_separated hl hc hname, isChain_separated,
    _, List.mem_append_right _ (List.mem_cons_of_mem _ List.mem_cons_self), rfl⟩
  have hpieces : t.pieces = l.map .char ++ [.option] := pieces_separated
  have hcompile := compile_text t
  rw [hpieces, if_pos hfits, Outline.text, textOf_separated] at hcompile
  exact ⟨_, hcompile⟩

end Separated

/-- **Only a blank separates.** A template of a literal, a character and an optional placeholder at
its end matches the literal alone. It matches the literal, some character and a text only if that
character is a blank, whatever the one in the template is. -/
theorem separated_by_blank [Regex.Capacity] {l : List Char} {c : Char} {name : List Char}
    (hl : ∀ d ∈ l, Part.isPlain d = true) (hc : Part.isPlain c = true)
    (hname : name.all Part.isInName = true)
    (hfits : Regex.Capacity.fits (regexOf (l.map .char ++ [.option])) = true) :
    ∃ e, Expression.compile (String.ofList (l ++ c :: (Part.optional name).text)) = .ok e ∧
      e.captures (String.ofList l) = some [] ∧
      ∀ (d : Char) (v : List Char), v ≠ [] → '\n' ∉ v →
        e.captures (String.ofList (l ++ d :: v)) =
          if d = ' ' then some [String.ofList v] else none := by
  obtain ⟨source, hcompile⟩ := compile_separated hl hc hname hfits
  refine ⟨_, hcompile, ?_, fun d v hv hline => ?_⟩
  · have hsplits : splits (l.map .char ++ [.option]) l = splits [.option] [] := by
      simpa using splits_literal_append l [.option] []
    rw [captures_regexOf, String.toList_ofList, hsplits]
    rfl
  · rw [captures_regexOf, String.toList_ofList, splits_literal_append]
    split
    · next hd =>
      have hne : (String.ofList v != "") = true := by simpa [← String.toList_inj] using hv
      rw [hd, head?_splits_option_blank hline]
      simp [taken, hne]
    · next hd =>
      rw [head?_splits_option_ne hd]
      rfl

/-- A hyphen in the template: the subject has to have a blank. -/
theorem ban_separated : ∃ e, Expression.compile "/ban-\x7b:user?\x7d" = .ok e ∧
    e.captures "/ban" = some [] ∧ e.captures "/ban bob" = some ["bob"] ∧
    e.captures "/ban-bob" = none := by
  obtain ⟨e, he, halone, hwith⟩ := separated_by_blank
    (List.all_eq_true.1 (by decide : "/ban".toList.all Part.isPlain = true))
    (by decide : Part.isPlain '-' = true)
    (by decide : "user".toList.all Part.isInName = true) (by decide +kernel)
  exact ⟨e, he, halone, hwith ' ' "bob".toList (by decide) (by decide),
    hwith '-' "bob".toList (by decide) (by decide)⟩

/-- The character before an optional placeholder is not optional itself: it is never matched. -/
theorem underscore_not_matched : ∃ e, Expression.compile "a_\x7b:x?\x7d" = .ok e ∧
    e.captures "a" = some [] ∧ e.captures "a_v" = none ∧ e.captures "a v" = some ["v"] := by
  obtain ⟨source, hcompile⟩ := compile_separated
    (List.all_eq_true.1 (by decide : ['a'].all Part.isPlain = true))
    (by decide : Part.isPlain '_' = true)
    (by decide : ['x'].all Part.isInName = true) (by decide +kernel)
  refine ⟨_, hcompile, ?_, ?_, ?_⟩ <;>
  · rw [captures_regexOf]
    decide

end Switchboard.Template
