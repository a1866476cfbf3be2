import Switchboard.Proofs.Settled

/-!
# Groups of placeholders

Each placeholder of a template becomes one group of its source, and no brace is left, exactly if no
optional placeholder comes right after a required one:

    source (textOf ps) = "^" ++ cs ++ "$",  no brace in cs,  Grouped ps cs   for some cs
      ↔   ps.IsChain mayPrecede                                          (groups_iff_apart)

An optional placeholder takes the character in front of it, and after a required one that is its
closing brace. The second pass then finds an opening brace that is not closed. Either it stays in
the source, or the next required placeholder on the line closes it (`closed_later`), and everything
from the one to the other becomes a single group: the source gets too short (`apart_or_shorter`).
-/

namespace Switchboard.Template

/-- Whether a text consists of the groups of the placeholders among parts, in their order, and of
the characters among them. Only a character right before an optional placeholder may be missing, and
only if it ends no line. -/
inductive Grouped : List Part → List Char → Prop where
  | nil : Grouped [] []
  | kept {c ps cs} : Grouped ps cs → Grouped (.char c :: ps) (c :: cs)
  | taken {c ps cs} :
    startsWithOptional ps = true → c ≠ '\n' → Grouped ps cs → Grouped (.char c :: ps) cs
  | required {name ps cs} : Grouped ps cs → Grouped (.required name :: ps) (requiredGroup ++ cs)
  | optional {name ps cs} : Grouped ps cs → Grouped (.optional name :: ps) (optionalGroup ++ cs)

/-! ## Sources of pieces -/

theorem grouped_sourceOf (ps : List Part) : Grouped ps (sourceOf (piecesOf ps)) := by
  induction ps with
  | nil => exact .nil
  | cons p ps ih =>
    rw [piecesOf, sourceOf_append]
    cases p with
    | char c =>
      by_cases h : (startsWithOptional ps && c != '\n') = true
      · rw [Part.pieces, if_pos h]
        rw [Bool.and_eq_true, bne_iff_ne] at h
        exact .taken h.1 h.2 ih
      · rw [Part.pieces, if_neg h]
        exact .kept ih
    | required name => exact .required ih
    | optional name => exact .optional ih

/-- No text with a group for each placeholder is shorter than the source of the pieces. -/
theorem Grouped.length_le {ps : List Part} {cs : List Char} (h : Grouped ps cs) :
    (sourceOf (piecesOf ps)).length ≤ cs.length := by
  induction h with
  | nil => exact Nat.le_refl 0
  | kept _ ih =>
    rw [piecesOf, sourceOf_append, List.length_append, Part.pieces, List.length_cons]
    split
    · exact Nat.le_succ_of_le (by simpa [sourceOf] using ih)
    · simp only [sourceOf, Piece.source, List.flatMap_cons, List.flatMap_nil, List.append_nil,
        List.length_singleton] at ih ⊢
      omega
  | taken hstart hn _ ih =>
    rw [piecesOf, Part.pieces, if_pos (by simp [hstart, hn])]
    exact ih
  | required _ ih =>
    rw [piecesOf, sourceOf_append, List.length_append, List.length_append]
    exact Nat.add_le_add_left ih _
  | optional _ ih =>
    rw [piecesOf, sourceOf_append, List.length_append, List.length_append]
    exact Nat.add_le_add_left ih _

/-- The braces of a template are those of its placeholders, and their sources have none. -/
theorem notMem_sourceOf {b : Char} (hb : b = braceOpen ∨ b = braceClose) {ps : List Part}
    (hps : ∀ p ∈ ps, p.isRegular = true) : b ∉ sourceOf (piecesOf ps) := by
  have hgroups : b ∉ requiredGroup ∧ b ∉ optionalGroup := by
    rcases hb with rfl | rfl <;> decide
  induction ps with
  | nil => exact List.not_mem_nil
  | cons p ps ih =>
    obtain ⟨hp, hps⟩ := List.forall_mem_cons.1 hps
    rw [piecesOf, sourceOf_append, List.mem_append, not_or]
    refine ⟨?_, ih hps⟩
    cases p with
    | char c =>
      have hc : b ≠ c := by
        have := of_decide_eq_true hp
        rcases hb with rfl | rfl
        · exact this.1.symm
        · exact this.2.symm
      rw [Part.pieces]
      split
      · exact List.not_mem_nil
      · exact fun h => hc (List.mem_singleton.1 h)
    | required name => exact hgroups.1
    | optional name => exact hgroups.2

theorem length_sourceOf_append_le (front ps : List Part) :
    (sourceOf (piecesOf ps)).length ≤ (sourceOf (piecesOf (front ++ ps))).length := by
  induction front with
  | nil => exact Nat.le_refl _
  | cons p front ih =>
    rw [List.cons_append, piecesOf, sourceOf_append, List.length_append]
    exact Nat.le_add_left_of_le ih

/-! ## Placeholders that are not closed -/

theorem afterBrace?_append_of_inName {name : List Char} (h : name.all Part.isInName = true)
    (cs : List Char) : afterBrace? (name ++ cs) = afterBrace? cs := by
  induction name with
  | nil => rfl
  | cons c name ih =>
    rw [List.all_cons, Bool.and_eq_true] at h
    obtain ⟨-, hb, hn⟩ := inName_ne h.1
    rw [List.cons_append, afterBrace?, if_neg hb, if_neg hn, ih h.2]

/-- What closes a line is the closing brace of a required placeholder. -/
theorem closed_later {ps : List Part} (hps : ∀ p ∈ ps, p.isRegular = true) {rest : List Char}
    (h : afterBrace? (halves ps) = some rest) :
    ∃ front name qs, ps = front ++ .required name :: qs ∧ rest = halves qs := by
  induction ps with
  | nil => cases h
  | cons p ps ih =>
    obtain ⟨hp, hps⟩ := List.forall_mem_cons.1 hps
    have hlater : afterBrace? (halves ps) = some rest →
        ∃ front name qs, p :: ps = front ++ .required name :: qs ∧ rest = halves qs := by
      intro h
      obtain ⟨front, name, qs, rfl, rfl⟩ := ih hps h
      exact ⟨p :: front, name, qs, rfl, rfl⟩
    rw [halves] at h
    cases p with
    | char c =>
      rw [Part.half] at h
      split at h
      · exact hlater h
      · rw [List.singleton_append, afterBrace?, if_neg (of_decide_eq_true hp).2] at h
        split at h
        · cases h
        · exact hlater h
    | required name =>
      rw [Part.isRegular, Bool.and_eq_true] at hp
      rw [Part.half, List.cons_append, afterBrace?, if_neg (by decide), if_neg (by decide),
        List.append_assoc, afterBrace?_append_of_inName hp.1] at h
      split at h
      · exact hlater h
      · rw [List.singleton_append, afterBrace?, if_pos rfl] at h
        exact ⟨[], name, ps, rfl, (Option.some.inj h).symm⟩
    | optional name =>
      have hgroup : ∀ cs, afterBrace? (optionalGroup ++ cs) = afterBrace? cs := fun cs => rfl
      rw [Part.half, hgroup] at h
      exact hlater h

/-- A required placeholder whose closing brace has been taken becomes one group with all up to the
next one that is closed. -/
theorem merged_of_taken {name : List Char} {ps : List Part}
    (hps : ∀ p ∈ Part.required name :: ps, p.isRegular = true)
    (hstart : startsWithOptional ps = true)
    (h : braceOpen ∉ expandRequired (halves (.required name :: ps))) :
    ∃ front name' qs, ps = front ++ .required name' :: qs ∧
      expandRequired (halves (.required name :: ps)) =
        requiredGroup ++ expandRequired (halves qs) := by
  obtain ⟨hname, hps⟩ := List.forall_mem_cons.1 hps
  rw [Part.isRegular, Bool.and_eq_true] at hname
  have hhalves : halves (.required name :: ps) = braceOpen :: (name ++ halves ps) := by
    simp [halves, Part.half, hstart]
  have hafter : afterRequired? (braceOpen :: (name ++ halves ps)) = afterBrace? (halves ps) :=
    afterBrace?_append_of_inName hname.1 _
  rw [hhalves] at h ⊢
  cases hrest : afterBrace? (halves ps) with
  | none =>
    rw [expandRequired_cons (hafter.trans hrest)] at h
    exact absurd List.mem_cons_self h
  | some rest =>
    obtain ⟨front, name', qs, rfl, rfl⟩ := closed_later hps hrest
    exact ⟨front, name', qs, rfl, expandRequired_of_some (hafter.trans hrest)⟩

theorem length_sourceOf_required (name : List Char) (ps : List Part) :
    (sourceOf (piecesOf (.required name :: ps))).length =
      requiredGroup.length + (sourceOf (piecesOf ps)).length := by
  rw [piecesOf, sourceOf_append, List.length_append]
  rfl

/-- If no opening brace is left, either no closing brace has been taken, or a group is missing. -/
theorem apart_or_shorter {ps : List Part} (hps : ∀ p ∈ ps, p.isRegular = true)
    (h : braceOpen ∉ expandRequired (halves ps)) :
    (ps.IsChain fun p q => p.mayPrecede q = true) ∨
      (expandRequired (halves ps)).length < (sourceOf (piecesOf ps)).length := by
  -- what is merged is skipped as a whole, so the induction is on the number of parts
  induction hn : ps.length using Nat.strong_induction_on generalizing ps with
  | _ n ih =>
    subst hn
    cases ps with
    | nil => exact .inl .nil
    | cons p ps =>
      obtain ⟨hp, hps'⟩ := List.forall_mem_cons.1 hps
      by_cases hkeeps : startsWithOptional ps = true → p.isRequired = false
      · have hexpand := expandRequired_half hp hkeeps (halves ps)
        rw [halves, hexpand] at h ⊢
        rw [List.mem_append, not_or] at h
        rw [piecesOf, sourceOf_append, List.length_append, List.length_append]
        refine (ih _ (Nat.lt_succ_self _) hps' h.2 rfl).imp (fun happart => ?_)
          (Nat.add_lt_add_left · _)
        exact isChain_cons_iff.2 ⟨hkeeps, happart⟩
      · obtain ⟨hstart, hrequired⟩ := Classical.not_imp.1 hkeeps
        cases p with
        | char c => exact absurd rfl hrequired
        | optional name => exact absurd rfl hrequired
        | required name =>
          obtain ⟨front, name', qs, rfl, hmerged⟩ := merged_of_taken hps hstart h
          have hqs : ∀ q ∈ qs, q.isRegular = true := fun q hq =>
            hps' q (List.mem_append_right _ (List.mem_cons_of_mem _ hq))
          have hrest : (expandRequired (halves qs)).length ≤ (sourceOf (piecesOf qs)).length := by
            rw [hmerged, List.mem_append, not_or] at h
            have hlt : qs.length <
                (Part.required name :: (front ++ .required name' :: qs)).length := by
              simp only [List.length_cons, List.length_append]
              omega
            rcases ih _ hlt hqs h.2 rfl with happart | hshort
            · rw [expandRequired_halves hqs happart]
            · exact Nat.le_of_lt hshort
          -- two groups would stand where there is one
          have hlong := length_sourceOf_append_le front (.required name' :: qs)
          have hgroup : 0 < requiredGroup.length := by decide
          right
          rw [hmerged, length_sourceOf_required, List.length_append]
          rw [length_sourceOf_required] at hlong
          omega

/-! ## Templates -/

/-- `{a}{:b?}` -/
def touching : List Part := [.required ['a'], .optional ['b']]

/-- **One group for each placeholder.** Exactly if no optional placeholder comes right after a
required one, the source has no brace and consists of the groups of the placeholders, in their
order, and of characters among them. -/
theorem groups_iff_apart {ps : List Part} (hps : ∀ p ∈ ps, p.isRegular = true) :
    (∃ cs, source (String.ofList (textOf ps)) = "^" ++ String.ofList cs ++ "$" ∧
      braceOpen ∉ cs ∧ braceClose ∉ cs ∧ Grouped ps cs) ↔
    ps.IsChain fun p q => p.mayPrecede q = true := by
  rw [source_eq, String.toList_ofList]
  constructor
  · rintro ⟨cs, hcs, hopen, -, hgrouped⟩
    have hcs : cs = expandRequired (halves ps) := by
      rw [← expandOptional_textOf hps]
      simpa [String.ofList_inj, expand] using hcs.symm
    rw [hcs] at hopen hgrouped
    exact (apart_or_shorter hps hopen).resolve_right (Nat.not_lt.2 hgrouped.length_le)
  · intro happart
    exact ⟨sourceOf (piecesOf ps), by rw [expand_textOf hps happart],
      notMem_sourceOf (.inl rfl) hps, notMem_sourceOf (.inr rfl) hps, grouped_sourceOf ps⟩

/-- `{a} {:b?}{c}` -/
def spaced : List Part := [.required ['a'], .char ' ', .optional ['b'], .required ['c']]

theorem three_groups :
    (∀ p ∈ spaced, p.isRegular = true) ∧
    ∃ cs, source "\x7ba\x7d \x7b:b?\x7d\x7bc\x7d" = "^" ++ String.ofList cs ++ "$" ∧
      braceOpen ∉ cs ∧ braceClose ∉ cs ∧ Grouped spaced cs := by
  have hregular : ∀ p ∈ spaced, p.isRegular = true := by decide
  have htext : String.ofList (textOf spaced) = "\x7ba\x7d \x7b:b?\x7d\x7bc\x7d" := by decide
  exact ⟨hregular, htext ▸ (groups_iff_apart hregular).2 (by decide)⟩

/-- The optional placeholder takes the closing brace of the required one, which then is none. -/
theorem closing_brace_taken :
    (∀ p ∈ touching, p.isRegular = true) ∧
    String.ofList (textOf touching) = "\x7ba\x7d\x7b:b?\x7d" ∧
    ¬ ∃ cs, source "\x7ba\x7d\x7b:b?\x7d" = "^" ++ String.ofList cs ++ "$" ∧
      braceOpen ∉ cs ∧ braceClose ∉ cs ∧ Grouped touching cs := by
  refine ⟨by decide, by decide, ?_⟩
  have hsource : source "\x7ba\x7d\x7b:b?\x7d" = "^\x7ba(?: (.*?))?$" := by cbv
  rintro ⟨cs, hcs, hopen, -⟩
  have hmem : braceOpen ∈ ("^" ++ String.ofList cs ++ "$").toList := by
    rw [← hcs, hsource]
    decide
  exact hopen (by simpa [braceOpen] using hmem)

end Switchboard.Template
