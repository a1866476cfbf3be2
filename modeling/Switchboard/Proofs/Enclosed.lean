import Switchboard.Proofs.Continued

/-!
# Reading enclosed texts

A text is read the same in a group and alone, not only if it can be read alone (`local_parse?`), but
also if it can be read in a group: if the parenthesis behind it is the one that closes the group,
nothing in the text has needed it.

    Enclosed cs cs'        `cs'` is `cs` with a parenthesis behind it, or both are empty
    Retracts read          what `read` takes before the parenthesis, it takes from the text alone

Since the text alone is shorter, it is read with less fuel: as much as it has characters is enough.
-/

namespace Switchboard.Regex.Parser

/-- A text and the same text in front of a parenthesis, or what a comment leaves of both. -/
abbrev Enclosed (cs cs' : List Char) : Prop := Continues [')'] cs cs'

/-- Whether a result that leaves a text is the result of another text, unless it leaves nothing. -/
def Retracted {α : Type} (read : Option (α × List Char)) (cs : List Char) (a : α)
    (rest' : List Char) : Prop :=
  rest' = [] ∨ ∃ rest, read = some (a, rest) ∧ Enclosed rest rest' ∧ rest.length ≤ cs.length

/-- Whether the same is read from an enclosed text and from the text alone, unless the parenthesis
is taken as well. -/
def Retracts {α : Type} (read : List Char → Option (α × List Char)) : Prop :=
  ∀ ⦃cs cs' a rest'⦄, Enclosed cs cs' → read cs' = some (a, rest') →
    Retracted (read cs) cs a rest'

theorem closing_parenthesis : Closing [')'] := ⟨rfl, by decide, by decide⟩

section Enclosed
variable {α β : Type} {cs cs' l : List Char} {c : Char} {f : Flags}

theorem Retracted.mono {read : Option (α × List Char)} {a : α} {rest' : List Char}
    (h : Retracted read cs a rest') (hl : cs.length ≤ l.length) : Retracted read l a rest' :=
  h.imp_right fun ⟨rest, hread, hrest, hlength⟩ =>
    ⟨rest, hread, hrest, Nat.le_trans hlength hl⟩

theorem Retracts.map {read : List Char → Option (α × List Char)} (h : Retracts read) (g : α → β) :
    Retracts fun cs => (read cs).map fun (a, cs) => (g a, cs) := by
  intro cs cs' b rest' hcs hread
  obtain ⟨⟨a, rest'⟩, hread, heq⟩ := Option.map_eq_some_iff.1 hread
  cases heq
  refine (h hcs hread).imp_right ?_
  rintro ⟨rest, hread, hrest⟩
  exact ⟨rest, by simp [hread], hrest⟩

/-- What is read from nothing leaves everything. -/
theorem retracts_const (o : Option α) (g : α → β) :
    Retracts fun cs => o.map fun a => (g a, cs) := by
  intro cs cs' b rest' hcs hread
  obtain ⟨a, ha, heq⟩ := Option.map_eq_some_iff.1 hread
  cases heq
  exact .inr ⟨cs, by simp [ha], hcs, Nat.le_refl _⟩

/-- An enclosed text starts as the text does, or with its parenthesis. -/
theorem Enclosed.cons (h : Enclosed cs (c :: cs')) :
    (∃ l, cs = c :: l ∧ Enclosed l cs') ∨ cs = [] ∧ c = ')' ∧ cs' = [] := by
  generalize heq : c :: cs' = enclosed at h
  cases h with
  | followed =>
    cases cs with
    | nil =>
      obtain ⟨rfl, rfl⟩ := List.cons.inj heq
      exact .inr ⟨rfl, rfl, rfl⟩
    | cons d l =>
      obtain ⟨rfl, rfl⟩ := List.cons.inj heq
      exact .inl ⟨l, rfl, .followed l⟩
  | swallowed => cases heq

theorem Enclosed.cons_of_ne (h : Enclosed cs (c :: cs')) (hc : c ≠ ')') :
    ∃ l, cs = c :: l ∧ Enclosed l cs' :=
  (Enclosed.cons h).resolve_right fun h => hc h.2.1

/-- What an enclosed text does not start with, the text does not start with. -/
theorem Enclosed.ne_append (h : Enclosed cs cs') {p : List Char}
    (hne : ∀ l, cs' = p ++ l → False) : ∀ l, cs = p ++ l → False := by
  rintro l hl
  cases h with
  | followed => exact hne (l ++ [')']) (by rw [hl, List.append_assoc])
  | swallowed => exact hne l hl

theorem skip_nil (f : Flags) : skip f [] = [] := by
  unfold skip
  split <;> rfl

theorem Enclosed.skip (f : Flags) (h : Enclosed cs cs') : Enclosed (skip f cs) (skip f cs') :=
  Continues.skip closing_parenthesis f h

end Enclosed

/-! ## Escapes -/

section Escapes
variable {f : Flags} {cs cs' : List Char}

theorem untilBrace_nil (n : Nat) (seen : List Char) : untilBrace f n seen [] = none := by
  cases n with
  | zero => rfl
  | succ n => rw [untilBrace, skip_nil]

theorem retracted_untilBrace {n n' : Nat} (hn : cs.length < n) (h : Enclosed cs cs')
    {seen a rest' : List Char} (hread : untilBrace f n' seen cs' = some (a, rest')) :
    Retracted (untilBrace f n seen cs) cs a rest' := by
  induction n' generalizing n seen cs cs' with
  | zero => cases hread
  | succ n' ih =>
    obtain ⟨n, rfl⟩ : ∃ k, n = k + 1 := ⟨n - 1, by omega⟩
    have hskip := h.skip f
    have hlength := length_skip_le f cs
    rw [untilBrace] at hread ⊢
    generalize skip f cs = l at hskip hlength ⊢
    generalize skip f cs' = l' at hread hskip
    split at hread
    · cases hread
    · obtain ⟨l, rfl, hl⟩ := Enclosed.cons_of_ne hskip (by decide)
      cases hread
      exact .inr ⟨l, rfl, hl, by simp only [List.length_cons] at hlength; omega⟩
    · next c l' hc =>
      rcases Enclosed.cons hskip with ⟨l, rfl, hl⟩ | ⟨-, -, rfl⟩
      · simp only [List.length_cons] at hlength
        have hread : Retracted (untilBrace f n (c :: seen) l) cs a rest' :=
          (ih (by omega : l.length < n) hl hread).mono (by omega)
        simpa [hc] using hread
      · rw [untilBrace_nil] at hread
        cases hread

theorem retracts_hexDigits (n : Nat) (seen : List Char) : Retracts (hexDigits f n seen) := by
  induction n generalizing seen with
  | zero =>
    intro cs cs' a rest' h hread
    cases hread
    exact .inr ⟨cs, rfl, h, Nat.le_refl _⟩
  | succ n ih =>
    intro cs cs' a rest' h hread
    have hskip := h.skip f
    have hlength := length_skip_le f cs
    rw [hexDigits] at hread ⊢
    generalize skip f cs = l at hskip hlength ⊢
    generalize skip f cs' = l' at hread hskip
    split at hread
    · next c l' =>
      split at hread
      · next hc =>
        obtain ⟨l, rfl, hl⟩ := Enclosed.cons_of_ne hskip fun heq => by
          rw [heq] at hc
          exact absurd hc (by decide)
        dsimp only
        rw [if_pos hc]
        simp only [List.length_cons] at hlength
        exact (ih (c :: seen) hl hread).mono (by omega)
      · cases hread
    · cases hread

theorem retracts_hexEscape (width : Nat) : Retracts (hexEscape f width) := by
  intro cs cs' a rest' h hread
  have hskip := h.skip f
  have hlength := length_skip_le f cs
  rw [hexEscape] at hread ⊢
  generalize skip f cs = l at hskip hlength ⊢
  generalize skip f cs' = l' at hread hskip
  split at hread
  · next l' =>
    obtain ⟨l, rfl, hl⟩ := Enclosed.cons_of_ne hskip (by decide)
    obtain ⟨⟨digits, rest₁'⟩, hdigits, hread⟩ := Option.bind_eq_some_iff.1 hread
    dsimp only at hread
    split at hread
    · next hhex =>
      obtain ⟨c, hc, hread⟩ := Option.bind_eq_some_iff.1 hread
      cases hread
      rcases retracted_untilBrace (Nat.lt_succ_self _) hl hdigits with rfl | hdigits
      · exact .inl (skip_nil f)
      · obtain ⟨rest₁, hdigits, hrest₁, hlength₁⟩ := hdigits
        refine .inr ⟨skip f rest₁, ?_, hrest₁.skip f, ?_⟩
        · simp only [hdigits, hhex, hc, Option.bind_eq_bind, Option.bind_some, if_true]
        · have := length_skip_le f rest₁
          simp only [List.length_cons] at hlength
          omega
    · cases hread
  · next hl =>
    obtain ⟨⟨digits, rest₁'⟩, hdigits, hread⟩ := Option.bind_eq_some_iff.1 hread
    obtain ⟨c, hc, hread⟩ := Option.bind_eq_some_iff.1 hread
    split at hread
    · cases hread
    · next hbyte =>
      cases hread
      rcases retracts_hexDigits width [] hskip hdigits with rfl | hdigits
      · exact .inl (skip_nil f)
      · obtain ⟨rest₁, hdigits, hrest₁, hlength₁⟩ := hdigits
        refine .inr ⟨skip f rest₁, ?_, hrest₁.skip f, ?_⟩
        · split
          · next heq => exact (Enclosed.ne_append hskip (p := ['\x7b']) hl _ rfl).elim
          · simp only [hdigits, hc, Option.bind_eq_bind, Option.bind_some]
            rw [if_neg hbyte]
        · have := length_skip_le f rest₁
          omega

theorem retracts_propertyEscape (negated : Bool) : Retracts (propertyEscape f negated) := by
  intro cs cs' a rest' h hread
  have hskip := h.skip f
  have hlength := length_skip_le f cs
  rw [propertyEscape] at hread ⊢
  generalize skip f cs = l at hskip hlength ⊢
  generalize skip f cs' = l' at hread hskip
  split at hread
  · cases hread
  · next hunicode =>
    rw [if_neg hunicode]
    split at hread
    · cases hread
    · next l' =>
      obtain ⟨l, rfl, hl⟩ := Enclosed.cons_of_ne hskip (by decide)
      obtain ⟨⟨name, rest₁'⟩, hname, hread⟩ := Option.bind_eq_some_iff.1 hread
      obtain ⟨⟨s, not⟩, hs, hread⟩ := Option.bind_eq_some_iff.1 hread
      obtain ⟨s', hs', hread⟩ := Option.bind_eq_some_iff.1 hread
      cases hread
      refine (retracted_untilBrace (Nat.lt_succ_self _) hl hname).imp_right ?_
      rintro ⟨rest, hname, hrest, hlength₁⟩
      refine ⟨rest, ?_, hrest, ?_⟩
      · simp only [hname, hs, hs', Option.bind_eq_bind, Option.bind_some]
      · simp only [List.length_cons] at hlength
        omega
    · next c l' hc =>
      split at hread
      · cases hread
      · next hc' =>
        obtain ⟨s, hs, hread⟩ := Option.bind_eq_some_iff.1 hread
        obtain ⟨s', hs', hread⟩ := Option.bind_eq_some_iff.1 hread
        cases hread
        rcases Enclosed.cons hskip with ⟨l, rfl, hl⟩ | ⟨-, -, rfl⟩
        · refine .inr ⟨skip f l, ?_, hl.skip f, ?_⟩
          · simp only [hc', hs, hs', Option.bind_eq_bind, Option.bind_some, if_false]
          · have := length_skip_le f l
            simp only [List.length_cons] at hlength
            omega
        · exact .inl (skip_nil f)

/-- A brace behind the sign of a word boundary that is not the name of one and not a repetition
either, as the parenthesis follows it. -/
def LoneBrace (f : Flags) (rest' : List Char) : Prop :=
  ∃ l, rest' = '\x7b' :: l ∧ skip f l = [')']

/-- A scan takes the same from an enclosed text as from the text alone, whatever it leaves. -/
theorem enclosed_scan {σ : Type} {p : Char → Bool} (hp : p ')' = false) (take : σ → Char → σ)
    {n n' : Nat} (s : σ) (h : Enclosed cs cs') (hn : cs.length ≤ n) (hn' : cs'.length ≤ n') :
    (scan f p take n' s cs').1 = (scan f p take n s cs).1 ∧
      Enclosed (scan f p take n s cs).2 (scan f p take n' s cs').2 := by
  obtain ⟨rest, hscan, hrest⟩ := local_scan (f := f) closing_parenthesis hp take s h hn hn'
  rw [hscan]
  exact ⟨rfl, hrest⟩

theorem length_scan_le {σ : Type} (p : Char → Bool) (take : σ → Char → σ) (n : Nat) (s : σ)
    (cs : List Char) : (scan f p take n s cs).2.length ≤ cs.length := by
  induction n generalizing s cs with
  | zero => exact Nat.le_refl _
  | succ n ih =>
    cases cs with
    | nil => exact Nat.le_refl _
    | cons c cs =>
      rw [scan]
      split
      · have := ih (take s c) (skip f cs)
        have := length_skip_le f cs
        simp only [List.length_cons]
        omega
      · exact Nat.le_refl _

/-- The name of a word boundary, up to its closing brace. -/
def namedBoundary? (f : Flags) (cs : List Char) : Option (Look × List Char) :=
  match boundaryName f (cs.length + 1) [] cs with
  | (name, '\x7d' :: cs) =>
    match String.ofList name with
    | "start" => some (.wordStart f.unicode, cs)
    | "end" => some (.wordEnd f.unicode, cs)
    | "start-half" => some (.wordStartHalf f.unicode, cs)
    | "end-half" => some (.wordEndHalf f.unicode, cs)
    | _ => none
  | _ => none

/-- What follows the brace behind the sign of a word boundary. -/
def bracedBoundary? (f : Flags) (inner : List Char) : Option (Look × List Char) :=
  match skip f inner with
  | [] => none
  | c :: cs =>
    if isBoundaryLetter c then namedBoundary? f (c :: cs)
    else some (.wordBoundary f.unicode, '\x7b' :: inner)

theorem boundary_brace (inner : List Char) :
    boundary f ('\x7b' :: inner) = bracedBoundary? f inner := rfl

theorem boundary_of_ne (h : ∀ l, cs = '\x7b' :: l → False) :
    boundary f cs = some (.wordBoundary f.unicode, cs) := by
  unfold boundary
  split
  · exact (h _ rfl).elim
  · rfl

theorem retracts_namedBoundary? : Retracts (namedBoundary? f) := by
  intro cs cs' look rest' h hread
  obtain ⟨hname, hrest₁⟩ := enclosed_scan (f := f) (p := isBoundaryLetter) (by decide)
    (fun seen c => c :: seen) [] h (Nat.le_succ _) (Nat.le_succ _)
  have hlength := length_scan_le (f := f) isBoundaryLetter (fun seen c => c :: seen)
    (cs.length + 1) [] cs
  unfold namedBoundary? at hread ⊢
  rw [boundaryName_eq, hname] at hread
  rw [boundaryName_eq]
  generalize scan f isBoundaryLetter _ (cs.length + 1) [] cs = read at hread hrest₁ hlength ⊢
  generalize (scan f isBoundaryLetter _ (cs'.length + 1) [] cs').2 = rest₁' at hread hrest₁
  obtain ⟨name, rest₁⟩ := read
  split at hread
  · next heq =>
    cases heq
    obtain ⟨rest, rfl, hrest⟩ := Enclosed.cons_of_ne hrest₁ (by decide)
    simp only [List.length_cons] at hlength
    dsimp only at hread ⊢
    split at hread
    iterate 4
      next hword =>
        cases hread
        exact .inr ⟨rest, by simp only [hword], hrest, Nat.le_of_succ_le hlength⟩
    cases hread
  · cases hread

theorem retracted_boundary (h : Enclosed cs cs') {look : Look} {rest' : List Char}
    (hread : boundary f cs' = some (look, rest')) :
    Retracted (boundary f cs) cs look rest' ∨ LoneBrace f rest' := by
  by_cases hbrace : ∃ inner', cs' = '\x7b' :: inner'
  · obtain ⟨inner', rfl⟩ := hbrace
    obtain ⟨inner, rfl, hinner⟩ := Enclosed.cons_of_ne h (by decide)
    have hskip := hinner.skip f
    have hlength := length_skip_le f inner
    rw [boundary_brace, bracedBoundary?] at hread ⊢
    generalize skip f inner = l at hskip hlength ⊢
    generalize hl' : skip f inner' = l' at hread hskip
    split at hread
    · cases hread
    · next c l' =>
      rcases Enclosed.cons hskip with ⟨l, rfl, hl⟩ | ⟨-, rfl, rfl⟩
      · dsimp only
        split at hread
        · next hletter =>
          rw [if_pos hletter]
          exact .inl ((retracts_namedBoundary? hskip hread).mono (Nat.le_succ_of_le hlength))
        · next hletter =>
          rw [if_neg hletter]
          cases hread
          exact .inl (.inr ⟨'\x7b' :: inner, rfl, h, Nat.le_refl _⟩)
      · rw [if_neg (by decide)] at hread
        cases hread
        exact .inr ⟨inner', rfl, hl'⟩
  · have hbrace' : ∀ l, cs' = '\x7b' :: l → False := fun l hl => hbrace ⟨l, hl⟩
    rw [boundary_of_ne hbrace'] at hread
    cases hread
    rw [boundary_of_ne (Enclosed.ne_append h (p := ['\x7b']) hbrace')]
    exact .inl (.inr ⟨cs, rfl, h, Nat.le_refl _⟩)

theorem retracted_escape (h : Enclosed cs cs') {a : Primitive} {rest' : List Char}
    (hread : escape f cs' = some (a, rest')) :
    Retracted (escape f cs) cs a rest' ∨ ∃ look, a = .look look ∧ LoneBrace f rest' := by
  cases cs' with
  | nil => cases hread
  | cons c cs' =>
    rcases Enclosed.cons h with ⟨cs, rfl, hcs⟩ | ⟨-, rfl, rfl⟩
    · have hlater : ∀ {read : Option (Primitive × List Char)}, Retracted read cs a rest' →
          Retracted read (c :: cs) a rest' := fun h => h.mono (Nat.le_succ _)
      unfold escape at hread ⊢
      dsimp only at hread ⊢
      split at hread
      · next hesc =>
        rw [if_pos hesc]
        cases hread
        exact .inl (.inr ⟨cs, rfl, hcs, Nat.le_succ _⟩)
      · next hesc =>
        rw [if_neg hesc]
        split at hread
        · exact .inl (hlater ((retracts_hexEscape 2).map Primitive.char hcs hread))
        · exact .inl (hlater ((retracts_hexEscape 4).map Primitive.char hcs hread))
        · exact .inl (hlater ((retracts_hexEscape 8).map Primitive.char hcs hread))
        · exact .inl (hlater ((retracts_propertyEscape false).map Primitive.set hcs hread))
        · exact .inl (hlater ((retracts_propertyEscape true).map Primitive.set hcs hread))
        iterate 6 exact .inl (hlater (retracts_const _ Primitive.set hcs hread))
        iterate 8 exact .inl (hlater (retracts_const (some _) id hcs hread))
        · obtain ⟨⟨look, rest'⟩, hlook, heq⟩ := Option.map_eq_some_iff.1 hread
          cases heq
          rcases retracted_boundary hcs hlook with hlook | hbrace
          · refine .inl (hlater (hlook.imp_right ?_))
            rintro ⟨rest, hlook, hrest⟩
            exact ⟨rest, by simp [hlook], hrest⟩
          · exact .inr ⟨look, rfl, hbrace⟩
        iterate 3 exact .inl (hlater (retracts_const (some _) id hcs hread))
        · cases hread
    · have hescape : escape f [')'] = some (.char ')', []) := rfl
      rw [hescape] at hread
      cases hread
      exact .inl (.inl rfl)

end Escapes

/-! ## Classes -/

section Classes
variable {f : Flags} {cs cs' : List Char}

theorem length_asciiName?_le {negated not : Bool} {s : CodePoints} {rest : List Char}
    (h : asciiName? negated cs = some (s, not, rest)) : rest.length ≤ cs.length := by
  unfold asciiName? at h
  split at h
  · next l heq =>
    obtain ⟨s, -, hrest⟩ := Option.map_eq_some_iff.1 h
    cases hrest
    have hsuffix := (List.dropWhile_suffix (l := cs) (· ≠ ':')).length_le
    rw [heq] at hsuffix
    simp only [List.length_cons] at hsuffix
    omega
  · cases h

theorem length_asciiClass?_le {not : Bool} {s : CodePoints} {rest : List Char}
    (h : asciiClass? cs = some (s, not, rest)) : rest.length ≤ cs.length := by
  match cs with
  | [] => cases h
  | c :: cs =>
    by_cases hc : c = ':'
    · subst hc
      match cs with
      | [] => cases h
      | d :: cs =>
        by_cases hd : d = '^'
        · subst hd
          have hlength := length_asciiName?_le (h : asciiName? true cs = _)
          exact Nat.le_succ_of_le (Nat.le_succ_of_le hlength)
        · rw [asciiClass?_of_ne (by simp [hd])] at h
          exact Nat.le_succ_of_le (length_asciiName?_le h)
    · simp [asciiClass?, hc] at h

/-- An ASCII class has no parenthesis to take. -/
theorem enclosed_asciiClass? (h : Enclosed cs cs') :
    (asciiClass? cs' = none → asciiClass? cs = none) ∧
      ∀ {s : CodePoints} {not : Bool} {rest' : List Char}, asciiClass? cs' = some (s, not, rest') →
        ∃ rest, asciiClass? cs = some (s, not, rest) ∧ Enclosed rest rest' ∧
          rest.length ≤ cs.length := by
  cases h with
  | swallowed => exact ⟨id, fun hread => by cases hread⟩
  | followed =>
    rw [asciiClass?_append closing_parenthesis]
    refine ⟨Option.map_eq_none_iff.1, fun {s not rest'} hread => ?_⟩
    obtain ⟨⟨s, not, rest⟩, hascii, heq⟩ := Option.map_eq_some_iff.1 hread
    cases heq
    exact ⟨rest, hascii, .followed rest, length_asciiClass?_le hascii⟩

theorem enclosed_openSign (h : Enclosed cs cs') :
    (openSign f cs').1 = (openSign f cs).1 ∧
      Enclosed (openSign f cs).2 (openSign f cs').2 := by
  obtain ⟨rest', hsign, hrest⟩ := local_openSign (f := f) closing_parenthesis h
  rw [hsign]
  exact ⟨rfl, hrest⟩

theorem length_openSign_le (cs : List Char) : (openSign f cs).2.length ≤ cs.length := by
  unfold openSign
  split
  · exact Nat.le_succ_of_le (length_skip_le f _)
  · exact Nat.le_refl _

/-- A class that is open before the parenthesis needs it as a member. -/
theorem retracted_openMembers? (h : Enclosed cs cs') {negated negated' : Bool} {k : ClassState}
    {rest' : List Char} (hread : openMembers? f negated cs' = some (negated', k, rest')) :
    rest' = [')'] ∨ ∃ rest, openMembers? f negated cs = some (negated', k, rest) ∧
      Enclosed rest rest' ∧ rest.length ≤ cs.length := by
  obtain ⟨hcount, hrest₁⟩ := enclosed_scan (f := f) (p := (· == '-')) (by decide)
    (fun (k : ClassState) _ => k.push (.single '-'.toNat) 0) .start h (Nat.le_succ _)
    (Nat.le_succ _)
  have hlength := length_scan_le (f := f) (· == '-')
    (fun (k : ClassState) _ => k.push (.single '-'.toNat) 0) (cs.length + 1) .start cs
  unfold openMembers? at hread ⊢
  rw [leadingHyphens_eq] at hread ⊢
  dsimp only at hread ⊢
  rw [hcount] at hread
  generalize scan f _ _ (cs.length + 1) ClassState.start cs = read at hread hrest₁ hlength ⊢
  generalize (scan f _ _ (cs'.length + 1) ClassState.start cs').2 = rest₁' at hread hrest₁
  obtain ⟨k₁, rest₁⟩ := read
  dsimp only at hread hrest₁ hlength ⊢
  split at hread
  · cases hread
  · next rest₂' =>
    obtain ⟨rest₂, rfl, hrest₂⟩ := Enclosed.cons_of_ne hrest₁ (by decide)
    simp only [List.length_cons] at hlength
    split at hread
    · next hcount =>
      have hskip := hrest₂.skip f
      have hlength₂ := length_skip_le f rest₂
      generalize skip f rest₂' = l' at hread hskip
      split at hread
      · cases hread
      · next hempty =>
        cases hread
        cases rest' with
        | nil => exact (hempty rfl).elim
        | cons c rest' =>
          rcases Enclosed.cons hskip with ⟨l, hl, -⟩ | ⟨-, rfl, rfl⟩
          · refine .inr ⟨skip f rest₂, ?_, hskip, by omega⟩
            simp [hcount, hl]
          · exact .inl rfl
    · next hcount =>
      cases hread
      refine .inr ⟨']' :: rest₂, by simp [hcount], hrest₁, ?_⟩
      simp only [List.length_cons]
      omega
  · next hnil hbracket =>
    cases hread
    cases rest' with
    | nil => exact (hnil rfl).elim
    | cons c rest' =>
      rcases Enclosed.cons hrest₁ with ⟨l, rfl, hl⟩ | ⟨-, rfl, rfl⟩
      · refine .inr ⟨c :: l, ?_, hrest₁, hlength⟩
        split
        · next heq => cases heq
        · next heq =>
          cases heq
          exact (hbracket _ rfl).elim
        · rfl
      · exact .inl rfl

theorem retracted_openClass (h : Enclosed cs cs') {negated : Bool} {k : ClassState}
    {rest' : List Char} (hread : openClass f cs' = some (negated, k, rest')) :
    rest' = [')'] ∨ ∃ rest, openClass f cs = some (negated, k, rest) ∧
      Enclosed rest rest' ∧ rest.length ≤ cs.length := by
  obtain ⟨hsign, hl⟩ := enclosed_openSign (f := f) (h.skip f)
  have hlength := length_skip_le f cs
  have hlength₁ := length_openSign_le (f := f) (skip f cs)
  rw [openClass_eq] at hread ⊢
  rw [hsign] at hread
  refine (retracted_openMembers? hl hread).imp_right ?_
  rintro ⟨rest, hread, hrest, hlength₂⟩
  exact ⟨rest, hread, hrest, by omega⟩

/-- A member takes at least one character; a test of a place is no member. -/
theorem retracted_classPrimitive (h : Enclosed cs cs') {a : Primitive} {rest' : List Char}
    (hread : classPrimitive f cs' = some (a, rest')) :
    Retracted (classPrimitive f cs) cs.tail a rest' ∨ ∃ look, a = .look look := by
  cases cs' with
  | nil => cases hread
  | cons c cs' =>
    by_cases hc : c = '\\'
    · subst hc
      obtain ⟨cs, rfl, hcs⟩ := Enclosed.cons_of_ne h (by decide)
      rcases retracted_escape (f := f) hcs hread with hescape | ⟨look, hlook, -⟩
      · exact .inl hescape
      · exact .inr ⟨look, hlook⟩
    · have hchar : ∀ cs, classPrimitive f (c :: cs) = some (.char c, cs) := fun cs => by
        simp [classPrimitive]
      rw [hchar] at hread
      cases hread
      rcases Enclosed.cons h with ⟨cs, rfl, hcs⟩ | ⟨-, -, rfl⟩
      · exact .inl (.inr ⟨cs, hchar cs, hcs, Nat.le_refl _⟩)
      · exact .inl (.inl rfl)

/-- The parenthesis may be what decides on a hyphen, if nothing before it does. -/
theorem decisive?_of_none (h : Enclosed cs cs') (hnone : decisive? f cs = none) :
    decisive? f cs' = none ∨ decisive? f cs' = some ')' := by
  have hhead : ∀ {l l' : List Char}, Enclosed l l' → l.head? = none →
      l'.head? = none ∨ l'.head? = some ')' := fun {l l'} hl hnone => by
    rw [List.head?_eq_none_iff.1 hnone] at hl
    rcases hl.nil closing_parenthesis with ⟨_, rfl⟩ | rfl
    · exact .inr rfl
    · exact .inl rfl
  unfold decisive? at hnone ⊢
  split at hnone
  · next hverbose =>
    rw [if_pos hverbose]
    have hdrop := h.dropWhile (p := isBlank) (by decide) closing_parenthesis
    generalize cs.dropWhile isBlank = l at hnone hdrop
    generalize cs'.dropWhile isBlank = l' at hdrop ⊢
    split at hnone
    · next l =>
      obtain ⟨l'', rfl, hl⟩ := hdrop.cons
      show l''.find? _ = none ∨ l''.find? _ = some ')'
      cases hl with
      | swallowed => exact .inl rfl
      | followed =>
        rw [List.find?_append, hnone]
        exact .inr rfl
    · next hcomment =>
      split
      · exact (hdrop.ne_cons closing_parenthesis (by decide) hcomment _ rfl).elim
      · exact hhead hdrop hnone
  · next hverbose =>
    rw [if_neg hverbose]
    exact hhead h hnone

theorem enclosed_endsAtHyphen (h : Enclosed cs cs') : endsAtHyphen f cs' = endsAtHyphen f cs := by
  by_cases hnone : decisive? f cs = none
  · rcases decisive?_of_none h hnone with hnone' | hparenthesis
    · rw [endsAtHyphen, endsAtHyphen, hnone, hnone']
    · rw [endsAtHyphen, endsAtHyphen, hnone, hparenthesis]
      rfl
  · exact endsAtHyphen_eq closing_parenthesis h hnone

/-- A member of a class that comes right before the parenthesis needs it to be told from a range. -/
theorem retracted_classRange (h : Enclosed cs cs') {s : CodePoints} {rest' : List Char}
    (hread : classRange f cs' = some (s, rest')) :
    rest' = [')'] ∨ Retracted (classRange f cs) cs.tail s rest' := by
  obtain ⟨⟨first, rest₁'⟩, hfirst, hread⟩ := Option.bind_eq_some_iff.1 hread
  dsimp only at hread
  rcases retracted_classPrimitive h hfirst with (rfl | ⟨rest₁, hfirst, hrest₁, hlength⟩) |
    ⟨look, rfl⟩
  · rw [skip_nil] at hread
    cases hread
  · have hskip := hrest₁.skip f
    have hlength₁ := length_skip_le f rest₁
    unfold classRange
    rw [hfirst]
    dsimp only [Option.bind_eq_bind, Option.bind_some]
    generalize skip f rest₁ = l at hskip hlength₁ ⊢
    generalize skip f rest₁' = l' at hread hskip
    split at hread
    · cases hread
    · next l' =>
      obtain ⟨l, rfl, hl⟩ := Enclosed.cons_of_ne hskip (by decide)
      rw [enclosed_endsAtHyphen hl] at hread
      simp only [List.length_cons] at hlength₁
      split at hread
      · next hends =>
        obtain ⟨s, hs, hread⟩ := Option.bind_eq_some_iff.1 hread
        cases hread
        refine .inr (.inr ⟨'-' :: l, by simp [hends, hs], hskip, ?_⟩)
        simp only [List.length_cons]
        omega
      · next hends =>
        obtain ⟨⟨second, rest₂'⟩, hsecond, hread⟩ := Option.bind_eq_some_iff.1 hread
        dsimp only at hread
        split at hread
        · next c d =>
          split at hread
          · next hcd =>
            cases hread
            rcases retracted_classPrimitive (hl.skip f) hsecond with (rfl | hsecond) |
              ⟨look, hlook⟩
            · exact .inr (.inl rfl)
            · obtain ⟨rest₂, hsecond, hrest₂, hlength₂⟩ := hsecond
              have hlength₃ := length_skip_le f l
              rw [List.length_tail] at hlength₂
              refine .inr (.inr ⟨rest₂, ?_, hrest₂, by omega⟩)
              simp [hends, hsecond, hcd]
            · cases hlook
          · cases hread
        · cases hread
    · next hnil hhyphen =>
      obtain ⟨s, hs, hread⟩ := Option.bind_eq_some_iff.1 hread
      cases hread
      cases rest' with
      | nil => exact (hnil rfl).elim
      | cons c rest' =>
        rcases Enclosed.cons hskip with ⟨l, rfl, hl⟩ | ⟨-, rfl, rfl⟩
        · refine .inr (.inr ⟨c :: l, ?_, hskip, Nat.le_trans hlength₁ hlength⟩)
          split
          · next heq => cases heq
          · next heq =>
            cases heq
            exact (hhyphen _ rfl).elim
          · simp [hs]
        · exact .inl rfl
  · split at hread
    · cases hread
    · split at hread
      · cases hread
      · obtain ⟨⟨second, rest₂'⟩, -, hread⟩ := Option.bind_eq_some_iff.1 hread
        cases hread
    · cases hread

theorem classBody_nil (n : Nat) (negated : Bool) (k : ClassState) :
    classBody f n negated k [] = none := by
  cases n with
  | zero => rfl
  | succ n =>
    unfold classBody
    rw [skip_nil]

theorem classBody_parenthesis (n : Nat) (negated : Bool) (k : ClassState) :
    classBody f n negated k [')'] = none := by
  cases n with
  | zero => rfl
  | succ n =>
    unfold classBody
    rw [closing_parenthesis.skip]
    have hrange : classRange f [')'] = none := by
      simp [classRange, classPrimitive, skip_nil]
    simp [hrange]

theorem retracted_classBody {n n' : Nat} (hn : cs.length < n) {negated : Bool} {k : ClassState}
    (h : Enclosed cs cs') {s : CodePoints} {depth : Nat} {rest' : List Char}
    (hread : classBody f n' negated k cs' = some (s, depth, rest')) :
    rest' = [] ∨ ∃ rest, classBody f n negated k cs = some (s, depth, rest) ∧
      Enclosed rest rest' ∧ rest.length ≤ cs.length := by
  induction n' generalizing n negated k cs cs' s depth rest' with
  | zero => cases hread
  | succ n' ih =>
    obtain ⟨n, rfl⟩ : ∃ k, n = k + 1 := ⟨n - 1, by omega⟩
    have hskip := h.skip f
    have hlength := length_skip_le f cs
    -- what follows a member, which leaves no more than the text
    have hmore : ∀ {k : ClassState} {l l' : List Char}, Enclosed l l' → l.length < n →
        l.length ≤ cs.length → classBody f n' negated k l' = some (s, depth, rest') →
        rest' = [] ∨ ∃ rest, classBody f n negated k l = some (s, depth, rest) ∧
          Enclosed rest rest' ∧ rest.length ≤ cs.length := by
      intro k l l' hl hn hlength hread
      refine (ih hn hl hread).imp_right ?_
      rintro ⟨rest, hread, hrest, hlength'⟩
      exact ⟨rest, hread, hrest, Nat.le_trans hlength' hlength⟩
    unfold classBody at hread ⊢
    dsimp only at hread ⊢
    generalize skip f cs = l at hskip hlength ⊢
    generalize skip f cs' = l' at hread hskip
    split at hread
    · cases hread
    · obtain ⟨l, rfl, hl⟩ := Enclosed.cons_of_ne hskip (by decide)
      obtain ⟨s', hs', heq⟩ := Option.map_eq_some_iff.1 hread
      cases heq
      exact .inr ⟨l, by simp [hs'], hl, Nat.le_of_succ_le hlength⟩
    · next l' =>
      obtain ⟨l, rfl, hl⟩ := Enclosed.cons_of_ne hskip (by decide)
      obtain ⟨hnone, hsome⟩ := enclosed_asciiClass? hl
      simp only [List.length_cons] at hlength
      split at hread
      · next s₁ not rest₁' hascii =>
        obtain ⟨rest₁, hascii, hrest₁, hlength₁⟩ := hsome hascii
        split at hread
        · next s₂ hs₂ =>
          simp only [hascii, hs₂]
          exact hmore hrest₁ (by omega) (by omega) hread
        · cases hread
      · next hascii =>
        simp only [hnone hascii]
        split at hread
        · cases hread
        · next not inner rest₁' hopen =>
          split at hread
          · cases hread
          · next s₂ depth₂ rest₂' hbody =>
            rcases retracted_openClass hl hopen with rfl | ⟨rest₁, hopen, hrest₁, hlength₁⟩
            · rw [classBody_parenthesis] at hbody
              cases hbody
            · rcases ih (by omega : rest₁.length < n) hrest₁ hbody with rfl | hbody
              · rw [classBody_nil] at hread
                cases hread
              · obtain ⟨rest₂, hbody, hrest₂, hlength₂⟩ := hbody
                simp only [hopen, hbody]
                exact hmore hrest₂ (by omega) (by omega) hread
    iterate 3
      next l' =>
        obtain ⟨l₁, rfl, hl₁⟩ := Enclosed.cons_of_ne hskip (by decide)
        obtain ⟨l, rfl, hl⟩ := Enclosed.cons_of_ne hl₁ (by decide)
        simp only [List.length_cons] at hlength
        exact hmore hl (by omega) (by omega) hread
    · next hnil hclose hopen hand hminus htilde =>
      split at hread
      · cases hread
      · next s₁ rest₁' hrange =>
        rcases retracted_classRange hskip hrange with rfl | rfl | ⟨rest₁, hrange, hrest₁, hlength₁⟩
        · rw [classBody_parenthesis] at hread
          cases hread
        · rw [classBody_nil] at hread
          cases hread
        · have hl : l ≠ [] := by
            rintro rfl
            cases hrange
          have hlength₂ := List.length_pos_iff.2 hl
          rw [List.length_tail] at hlength₁
          split
          · exact (hl rfl).elim
          · exact (Enclosed.ne_append hskip (p := [']']) hclose _ rfl).elim
          · exact (Enclosed.ne_append hskip (p := ['[']) hopen _ rfl).elim
          · exact (Enclosed.ne_append hskip (p := ['&', '&']) hand _ rfl).elim
          · exact (Enclosed.ne_append hskip (p := ['-', '-']) hminus _ rfl).elim
          · exact (Enclosed.ne_append hskip (p := ['~', '~']) htilde _ rfl).elim
          · rw [hrange]
            exact hmore hrest₁ (by omega) (by omega) hread

theorem retracts_classItem : Retracts (classItem f) := by
  intro cs cs' a rest' h hread
  obtain ⟨⟨negated, k, rest₁'⟩, hopen, hread⟩ := Option.bind_eq_some_iff.1 hread
  obtain ⟨⟨s, depth, rest₂'⟩, hbody, hread⟩ := Option.bind_eq_some_iff.1 hread
  cases hread
  rcases retracted_openClass h hopen with rfl | ⟨rest₁, hopen, hrest₁, hlength₁⟩
  · rw [classBody_parenthesis] at hbody
    cases hbody
  · refine (retracted_classBody (Nat.lt_succ_self _) hrest₁ hbody).imp_right ?_
    rintro ⟨rest, hbody, hrest, hlength⟩
    refine ⟨rest, ?_, hrest, Nat.le_trans hlength hlength₁⟩
    unfold classItem
    rw [hopen]
    simp [hbody]

end Classes

/-! ## Repetitions -/

section Repetitions
variable {f : Flags} {cs cs' : List Char}

theorem retracts_count : Retracts (count f) := by
  intro cs cs' a rest' h hread
  have hblank : isBlank ')' = false := by decide
  have hlength : ∀ l : List Char, (l.dropWhile isBlank).length ≤ l.length :=
    fun l => (List.dropWhile_suffix _).length_le
  obtain ⟨hdigits, hrest₁⟩ := enclosed_scan (f := f) (p := isAsciiDigit) (by decide)
    (fun seen c => c :: seen) [] (h.dropWhile hblank closing_parenthesis)
    (Nat.le_succ_of_le (hlength cs)) (Nat.le_succ_of_le (hlength cs'))
  have hlength₁ := length_scan_le (f := f) isAsciiDigit (fun seen c => c :: seen) (cs.length + 1) []
    (cs.dropWhile isBlank)
  unfold count at hread ⊢
  rw [countDigits_eq] at hread ⊢
  dsimp only at hread ⊢
  rw [hdigits] at hread
  generalize scan f isAsciiDigit _ (cs.length + 1) [] (cs.dropWhile isBlank) = read
    at hread hrest₁ hlength₁ ⊢
  generalize (scan f isAsciiDigit _ (cs'.length + 1) [] (cs'.dropWhile isBlank)).2 = rest₁'
    at hread hrest₁
  have hrest := Enclosed.skip f (hrest₁.dropWhile hblank closing_parenthesis)
  have hlength₂ := length_skip_le f (read.2.dropWhile isBlank)
  have hlength₃ := hlength read.2
  have hlength₄ := hlength cs
  split at hread
  · next hempty =>
    rw [if_pos hempty]
    cases hread
    exact .inr ⟨_, rfl, hrest, by omega⟩
  · next hempty =>
    rw [if_neg hempty]
    split at hread
    · next hmax =>
      rw [if_pos hmax]
      cases hread
      exact .inr ⟨_, rfl, hrest, by omega⟩
    · cases hread

theorem retracts_bounds : Retracts (bounds f) := by
  intro cs cs' a rest' h hread
  have hlength := length_skip_le f cs
  obtain ⟨⟨_, rest₁'⟩, hmin, hmore⟩ := Option.bind_eq_some_iff.1 hread
  obtain ⟨min, rfl, hclose⟩ := Option.bind_eq_some_iff.1 hmore
  rcases retracts_count (h.skip f) hmin with rfl | ⟨rest₁, hmin, hrest₁, hlength₁⟩
  · cases hclose
  · unfold bounds
    rw [hmin]
    simp only [Option.bind_eq_bind, Option.bind_some]
    split at hclose
    · obtain ⟨l, rfl, hl⟩ := Enclosed.cons_of_ne hrest₁ (by decide)
      cases hclose
      exact .inr ⟨l, rfl, hl, by simp only [List.length_cons] at hlength₁; omega⟩
    · next rest₂' =>
      obtain ⟨rest₂, rfl, hrest₂⟩ := Enclosed.cons_of_ne hrest₁ (by decide)
      simp only [List.length_cons] at hlength₁
      have hskip := hrest₂.skip f
      have hlength₂ := length_skip_le f rest₂
      generalize hl : skip f rest₂ = l at hskip hlength₂
      generalize skip f rest₂' = l' at hclose hskip
      split at hclose
      · obtain ⟨l, rfl, hl'⟩ := Enclosed.cons_of_ne hskip (by decide)
        cases hclose
        simp only [List.length_cons] at hlength₂
        exact .inr ⟨l, by simp [hl], hl', by omega⟩
      · next hbrace =>
        obtain ⟨⟨_, rest₃'⟩, hmax, hmore⟩ := Option.bind_eq_some_iff.1 hclose
        obtain ⟨max, rfl, hclose⟩ := Option.bind_eq_some_iff.1 hmore
        have hbrace' : ∀ l₁, l = '\x7d' :: l₁ → False :=
          Enclosed.ne_append hskip (p := ['\x7d']) hbrace
        rcases retracts_count hskip hmax with rfl | ⟨rest₃, halone, hrest₃, hlength₃⟩
        · cases hclose
        · split at hclose
          · obtain ⟨l₃, rfl, hl₃⟩ := Enclosed.cons_of_ne hrest₃ (by decide)
            simp only [List.length_cons] at hlength₃
            split at hclose
            · next hle =>
              cases hclose
              exact .inr ⟨l₃, by simp [hl, halone, hle], hl₃, by omega⟩
            · cases hclose
          · cases hclose
    · cases hclose

/-- A parenthesis is no count. -/
theorem bounds_of_parenthesis (h : skip f cs = [')']) : bounds f cs = none := by
  have hcount : count f [')'] = some (none, [')']) := by
    have hskip : skip f [')'] = [')'] := closing_parenthesis.skip f
    have hdrop : [')'].dropWhile isBlank = [')'] := by decide
    have hdigits : countDigits f ([')'].length + 1) [] [')'] = ([], [')']) := by
      rw [countDigits, if_neg (by decide)]
      rfl
    rw [count, hdrop, hdigits]
    simp [hskip, hdrop]
  simp [bounds, h, hcount]

theorem retracts_repeatLast (min : Nat) (max : Option Nat) (items : List Item) :
    Retracts (repeatLast f min max items) := by
  intro cs cs' a rest' h hread
  unfold repeatLast at hread ⊢
  split at hread
  · cases hread
  · next item items =>
    split at hread
    · cases hread
    · next hflags =>
      dsimp only
      rw [if_neg hflags]
      by_cases hlazy : ∃ l', cs' = '?' :: l'
      · obtain ⟨l', rfl⟩ := hlazy
        obtain ⟨l, rfl, hl⟩ := Enclosed.cons_of_ne h (by decide)
        cases hread
        exact .inr ⟨l, rfl, hl, Nat.le_succ _⟩
      · have hlazy' : ∀ l, cs' = '?' :: l → False := fun l hl => hlazy ⟨l, hl⟩
        have hlazy₁ : ∀ l, cs = '?' :: l → False := Enclosed.ne_append h (p := ['?']) hlazy'
        simp only at hread
        cases hread
        refine .inr ⟨cs, ?_, h, Nat.le_refl _⟩
        simp only

end Repetitions

/-! ## Groups -/

section Groups
variable {f : Flags} {cs cs' : List Char}

/-- Flag letters end before the parenthesis, or with it. -/
theorem retracted_flagLetters (seen cs : List Char) {f' : Flags} {some? : Bool} {rest' : List Char}
    (h : flagLetters f seen (cs ++ [')']) = some (f', some?, rest')) :
    rest' = [')'] ∨ ∃ rest, flagLetters f seen cs = some (f', some?, rest) ∧
      rest' = rest ++ [')'] ∧ rest.length ≤ cs.length := by
  induction cs generalizing f seen with
  | nil =>
    rw [List.nil_append, flagLetters, if_pos (.inr rfl)] at h
    split at h
    · cases h
    · cases h
      exact .inl rfl
  | cons c cs ih =>
    rw [List.cons_append] at h
    unfold flagLetters at h ⊢
    have hlater : ∀ {f : Flags}, flagLetters f (c :: seen) (cs ++ [')']) = some (f', some?, rest') →
        rest' = [')'] ∨ ∃ rest, flagLetters f (c :: seen) cs = some (f', some?, rest) ∧
          rest' = rest ++ [')'] ∧ rest.length ≤ (c :: cs).length := by
      intro f h
      refine (ih _ h).imp_right ?_
      rintro ⟨rest, h, hrest, hlength⟩
      exact ⟨rest, h, hrest, Nat.le_succ_of_le hlength⟩
    split at h
    · next hend =>
      rw [if_pos hend]
      split at h
      · cases h
      · next hseen =>
        rw [if_neg hseen]
        cases h
        exact .inr ⟨c :: cs, rfl, rfl, Nat.le_refl _⟩
    · next hend =>
      rw [if_neg hend]
      split at h
      · cases h
      · next hseen =>
        rw [if_neg hseen]
        split at h
        · next hc =>
          rw [if_pos hc]
          exact hlater h
        · next hc =>
          rw [if_neg hc]
          split at h
          · exact hlater h
          · cases h

theorem retracts_groupName? : Retracts groupName? := by
  intro cs cs' name rest' h hread
  cases h with
  | swallowed => cases hread
  | followed =>
    by_cases hclose : '>' ∈ cs
    · obtain ⟨u, v, rfl, hu⟩ := List.eq_append_cons_of_mem hclose
      unfold groupName? at hread ⊢
      rw [List.append_assoc, List.cons_append, (span_ne hu _).1, (span_ne hu _).2] at hread
      rw [(span_ne hu _).1, (span_ne hu _).2]
      cases u with
      | nil => cases hread
      | cons c u =>
        have hname : (if isNameChar true c ∧ u.all (isNameChar false) then
          some (c :: u, v ++ [')']) else none) = some (name, rest') := hread
        show Retracted (if isNameChar true c ∧ u.all (isNameChar false) then some (c :: u, v)
          else none) _ name rest'
        split at hname
        · next hchars =>
          rw [if_pos hchars]
          cases hname
          refine .inr ⟨v, rfl, .followed v, ?_⟩
          simp only [List.length_append, List.length_cons]
          omega
        · cases hname
    · have hclose' : '>' ∉ cs ++ [')'] := by simp [hclose]
      unfold groupName? at hread
      rw [dropWhile_ne_eq_nil hclose'] at hread
      dsimp only at hread
      split at hread
      · next heq => cases heq
      · cases hread

theorem retracts_flagGroup? : Retracts (flagGroup? f) := by
  intro cs cs' a rest' h hread
  cases h with
  | swallowed => cases hread
  | followed =>
    unfold flagGroup? at hread ⊢
    split at hread
    · next hletters =>
      split at hread
      · next hsome =>
        cases hread
        rcases retracted_flagLetters [] cs hletters with heq | ⟨rest, halone, heq, hlength⟩
        · exact .inl (List.cons.inj heq).2
        · cases rest with
          | nil => exact .inl (List.cons.inj heq).2
          | cons c rest =>
            obtain ⟨rfl, rfl⟩ := List.cons.inj heq
            exact .inr ⟨rest, by simp [halone, hsome], .followed rest, Nat.le_of_succ_le hlength⟩
      · cases hread
    · next hletters =>
      cases hread
      rcases retracted_flagLetters [] cs hletters with heq | ⟨rest, halone, heq, hlength⟩
      · cases heq
      · cases rest with
        | nil => cases heq
        | cons c rest =>
          obtain ⟨rfl, rfl⟩ := List.cons.inj heq
          exact .inr ⟨rest, by simp [halone], .followed rest, Nat.le_of_succ_le hlength⟩
    · cases hread

theorem retracts_opening : Retracts (opening f) := by
  intro cs cs' a rest' h hread
  have hskip := h.skip f
  have hlength := length_skip_le f cs
  unfold opening at hread ⊢
  generalize skip f cs = l at hskip hlength ⊢
  generalize skip f cs' = l' at hread hskip
  split at hread
  · cases hread
  · cases hread
  · cases hread
  · cases hread
  · obtain ⟨l₁, rfl, h₁⟩ := Enclosed.cons_of_ne hskip (by decide)
    obtain ⟨l₂, rfl, h₂⟩ := Enclosed.cons_of_ne h₁ (by decide)
    obtain ⟨l₃, rfl, h₃⟩ := Enclosed.cons_of_ne h₂ (by decide)
    simp only [List.length_cons] at hlength
    exact (retracts_groupName?.map (fun name => Opening.capture (some name)) h₃ hread).mono
      (by omega)
  · next hequal hbang =>
    obtain ⟨l₁, rfl, h₁⟩ := Enclosed.cons_of_ne hskip (by decide)
    obtain ⟨l₂, rfl, h₂⟩ := Enclosed.cons_of_ne h₁ (by decide)
    simp only [List.length_cons] at hlength
    have hname := (retracts_groupName?.map (fun name => Opening.capture (some name)) h₂ hread).mono
      (by omega : l₂.length ≤ cs.length)
    split
    · next heq => cases heq
    · next heq => cases heq
    · next heq =>
      cases heq
      exact (Enclosed.ne_append h₂ (p := ['=']) hequal _ rfl).elim
    · next heq =>
      cases heq
      exact (Enclosed.ne_append h₂ (p := ['!']) hbang _ rfl).elim
    · next heq => cases heq
    · next heq =>
      cases heq
      exact hname
    · next hnot heq =>
      cases heq
      exact (hnot _ rfl).elim
    · next hquestion => exact (hquestion _ rfl).elim
  · next l' hequal hbang hbehind hnotBehind hnamed hname =>
    obtain ⟨l₁, rfl, h₁⟩ := Enclosed.cons_of_ne hskip (by decide)
    simp only [List.length_cons] at hlength
    split
    · next heq =>
      cases heq
      exact (Enclosed.ne_append h₁ (p := ['=']) hequal _ rfl).elim
    · next heq =>
      cases heq
      exact (Enclosed.ne_append h₁ (p := ['!']) hbang _ rfl).elim
    · next heq =>
      cases heq
      exact (Enclosed.ne_append h₁ (p := ['<', '=']) hbehind _ rfl).elim
    · next heq =>
      cases heq
      exact (Enclosed.ne_append h₁ (p := ['<', '!']) hnotBehind _ rfl).elim
    · next heq =>
      cases heq
      exact (Enclosed.ne_append h₁ (p := ['P', '<']) hnamed _ rfl).elim
    · next heq =>
      cases heq
      exact (Enclosed.ne_append h₁ (p := ['<']) hname _ rfl).elim
    · next heq =>
      cases heq
      exact (retracts_flagGroup? h₁ hread).mono (by omega)
    · next hquestion => exact (hquestion _ rfl).elim
  · next hquestion =>
    cases hread
    refine .inr ⟨l, ?_, hskip, hlength⟩
    have hquestion' : ∀ l₁, l = '?' :: l₁ → False :=
      Enclosed.ne_append hskip (p := ['?']) hquestion
    split
    iterate 7 exact (hquestion' _ rfl).elim
    rfl

end Groups

/-! ## Expressions -/

section Expressions

theorem alternatives_end (n : Nat) (done items : List Item) (f : Flags) (groups : Nat)
    (names : List (List Char)) :
    alternatives (n + 1) done items ⟨[], f, groups, names⟩ =
      some (closeItem done items, ⟨[], f, groups, names⟩) := by
  unfold alternatives
  dsimp only
  rw [skip_nil]
  rfl

theorem alternatives_nil {n : Nat} {done items : List Item} {s s₁ : Cursor} {item : Item}
    (hs : s.rest = []) (h : alternatives n done items s = some (item, s₁)) : s₁.rest = [] := by
  obtain ⟨rest, f, groups, names⟩ := s
  obtain rfl : rest = [] := hs
  cases n with
  | zero => cases h
  | succ n =>
    rw [alternatives_end] at h
    cases h
    rfl

theorem alternatives_repeated_nil {n min : Nat} {max : Option Nat} {f : Flags}
    {done items : List Item} {s s₁ : Cursor} {item : Item}
    (h : (match repeatLast f min max items [] with
      | some (items, rest) => alternatives n done items (s.at rest)
      | none => none) = some (item, s₁)) : s₁.rest = [] := by
  unfold repeatLast at h
  cases items with
  | nil => cases h
  | cons item items =>
    dsimp only at h
    split at h
    · next heq =>
      split at heq
      · cases heq
      · cases heq
        exact alternatives_nil rfl h
    · cases h

theorem alternatives_loneBrace {n : Nat} {done items : List Item} {s : Cursor}
    (h : LoneBrace s.flags s.rest) : alternatives n done items s = none := by
  obtain ⟨l, hrest, hl⟩ := h
  have hskip : skip s.flags ('\x7b' :: l) = '\x7b' :: l := by
    unfold skip
    split
    · rw [skipVerbose, if_neg (by decide), if_neg (by decide)]
    · rfl
  cases n with
  | zero => rfl
  | succ n =>
    unfold alternatives
    dsimp only
    rw [hrest, hskip]
    simp [bounds_of_parenthesis hl]

/-- What is read behind a repetition is read without the parenthesis. -/
theorem retracted_repeated (f : Flags) (min : Nat) (max : Option Nat) (items : List Item)
    {l l' : List Char} (hl : Enclosed l l') {length : Nat} (hlength : l.length < length)
    (next next' : List Item → List Char → Option (Item × Cursor)) {item : Item} {s₁ : Cursor}
    (hnil : ∀ {items}, next' items [] = some (item, s₁) → s₁.rest = [])
    (hnext : ∀ {items l l'}, Enclosed l l' → l.length < length →
      next' items l' = some (item, s₁) → s₁.rest = [] ∨ ∃ rest,
        next items l = some (item, s₁.at rest) ∧ Enclosed rest s₁.rest ∧ rest.length ≤ length)
    (hread : (match repeatLast f min max items l' with
      | some (items, rest) => next' items rest
      | none => none) = some (item, s₁)) :
    s₁.rest = [] ∨ ∃ rest, (match repeatLast f min max items l with
      | some (items, rest) => next items rest
      | none => none) = some (item, s₁.at rest) ∧ Enclosed rest s₁.rest ∧
        rest.length ≤ length := by
  split at hread
  · next items' rest' hrepeat =>
    rcases retracts_repeatLast min max items hl hrepeat with rfl | ⟨rest, hrepeat, hrest, hle⟩
    · exact .inl (hnil hread)
    · rw [hrepeat]
      exact hnext hrest (by omega) hread
  · cases hread

/-- What is read in a group and behind it is read without the parenthesis, if both are. -/
theorem retracted_group {n n' length : Nat} (done items : List Item) (f : Flags)
    (close : Item → Item) {s : Cursor} {cs' : List Char} {item : Item} {s₁ : Cursor}
    (hlength : s.rest.length < length)
    (hinner : ∀ {item s₂}, alternatives n' [] [] (s.at cs') = some (item, s₂) →
      s₂.rest = [] ∨ ∃ rest, alternatives n [] [] s = some (item, s₂.at rest) ∧
        Enclosed rest s₂.rest ∧ rest.length ≤ s.rest.length)
    (hnext : ∀ {done items} (s₂ : Cursor) {l l' : List Char}, Enclosed l l' → l.length < length →
      alternatives n' done items (s₂.at l') = some (item, s₁) →
      s₁.rest = [] ∨ ∃ rest, alternatives n done items (s₂.at l) = some (item, s₁.at rest) ∧
        Enclosed rest s₁.rest ∧ rest.length ≤ length)
    (hread : (match alternatives n' [] [] (s.at cs') with
      | some (item, { rest := ')' :: cs, flags := _, groups := groups, names := names }) =>
        alternatives n' done (close item :: items) ⟨cs, f, groups, names⟩
      | _ => none) = some (item, s₁)) :
    s₁.rest = [] ∨ ∃ rest, (match alternatives n [] [] s with
      | some (item, { rest := ')' :: cs, flags := _, groups := groups, names := names }) =>
        alternatives n done (close item :: items) ⟨cs, f, groups, names⟩
      | _ => none) = some (item, s₁.at rest) ∧ Enclosed rest s₁.rest ∧ rest.length ≤ length := by
  split at hread
  · next item' rest₂' flags groups names hgroup =>
    rcases hinner hgroup with hnil | ⟨rest₂, hgroup, hrest₂, hle₂⟩
    · cases hnil
    · rcases Enclosed.cons hrest₂ with ⟨l₂, rfl, hl₂⟩ | ⟨-, -, rfl⟩
      · simp only [List.length_cons] at hle₂
        rw [hgroup]
        exact hnext ⟨l₂, f, groups, names⟩ hl₂ (by omega) hread
      · exact .inl (alternatives_nil rfl hread)
  · cases hread

/-- What is read in front of the parenthesis that closes a group is read without it. -/
theorem retracted_alternatives {n n' : Nat} {done items : List Item} {s : Cursor}
    (hn : s.rest.length < n) {cs' : List Char} (h : Enclosed s.rest cs') {item : Item} {s₁ : Cursor}
    (hread : alternatives n' done items (s.at cs') = some (item, s₁)) :
    s₁.rest = [] ∨ ∃ rest, alternatives n done items s = some (item, s₁.at rest) ∧
      Enclosed rest s₁.rest ∧ rest.length ≤ s.rest.length := by
  induction n' generalizing n done items s cs' item s₁ with
  | zero => cases hread
  | succ n' ih =>
    obtain ⟨n, rfl⟩ : ∃ k, n = k + 1 := ⟨n - 1, by omega⟩
    have hskip := h.skip s.flags
    have hlength := length_skip_le s.flags s.rest
    -- what is read from a shorter text
    have hgo : ∀ {done items : List Item} (s₂ : Cursor) {l l' : List Char}, Enclosed l l' →
        l.length < s.rest.length → alternatives n' done items (s₂.at l') = some (item, s₁) →
        s₁.rest = [] ∨ ∃ rest, alternatives n done items (s₂.at l) = some (item, s₁.at rest) ∧
          Enclosed rest s₁.rest ∧ rest.length ≤ s.rest.length := by
      intro done items s₂ l l' hl hlt hread
      refine (ih (s := s₂.at l) (by show l.length < n; omega) hl hread).imp_right ?_
      rintro ⟨rest, hread, hrest, hle⟩
      exact ⟨rest, hread, hrest, Nat.le_trans hle (Nat.le_of_lt hlt)⟩
    have hagain (min : Nat) (max : Option Nat) {l l' : List Char} (hl : Enclosed l l')
        (hlt : l.length < s.rest.length) :=
      retracted_repeated s.flags min max items hl hlt
        (fun items rest => alternatives n done items (s.at rest))
        (fun items rest => alternatives n' done items (s.at rest)) (alternatives_nil rfl) (hgo s)
    have hgroup (s₂ : Cursor) (close : Item → Item) {l l' : List Char} (hl : Enclosed l l')
        (hlt : l.length < s.rest.length) :=
      retracted_group done items s.flags close (s := s₂.at l) hlt
        (fun h => ih (s := s₂.at l) (by show l.length < n; omega) hl h) hgo
    unfold alternatives at hread ⊢
    dsimp only [Cursor.at] at hread ⊢
    generalize skip s.flags s.rest = l at hskip hlength ⊢
    generalize skip s.flags cs' = l' at hread hskip
    split at hread
    · cases hread
      exact .inl rfl
    · cases hread
      rcases Enclosed.cons hskip with ⟨l, rfl, hl⟩ | ⟨rfl, -, rfl⟩
      · exact .inr ⟨_, rfl, hskip, hlength⟩
      · exact .inr ⟨[], rfl, hskip, Nat.zero_le _⟩
    · obtain ⟨l, rfl, hl⟩ := Enclosed.cons_of_ne hskip (by decide)
      exact hgo s hl hlength hread
    · obtain ⟨l, rfl, hl⟩ := Enclosed.cons_of_ne hskip (by decide)
      exact hagain _ _ hl hlength hread
    · obtain ⟨l, rfl, hl⟩ := Enclosed.cons_of_ne hskip (by decide)
      exact hagain _ _ hl hlength hread
    · obtain ⟨l, rfl, hl⟩ := Enclosed.cons_of_ne hskip (by decide)
      exact hagain _ _ hl hlength hread
    · obtain ⟨l, rfl, hl⟩ := Enclosed.cons_of_ne hskip (by decide)
      simp only [List.length_cons] at hlength
      split at hread
      · next min max rest' hbounds =>
        rcases retracts_bounds hl hbounds with rfl | ⟨rest, hbounds, hrest, hle⟩
        · rw [skip_nil] at hread
          exact .inl (alternatives_repeated_nil hread)
        · simp only [hbounds]
          have hle' := length_skip_le s.flags rest
          exact hagain _ _ (hrest.skip s.flags) (by omega) hread
      · cases hread
    · obtain ⟨l, rfl, hl⟩ := Enclosed.cons_of_ne hskip (by decide)
      simp only [List.length_cons] at hlength
      split at hread
      · next item' rest' hclass =>
        rcases retracts_classItem hl hclass with rfl | ⟨rest, hclass, hrest, hle⟩
        · exact .inl (alternatives_nil rfl hread)
        · simp only [hclass]
          exact hgo s hrest (by omega) hread
      · cases hread
    · obtain ⟨l, rfl, hl⟩ := Enclosed.cons_of_ne hskip (by decide)
      split at hread
      · next set hdot =>
        simp only
        exact hgo s hl hlength hread
      · cases hread
    · obtain ⟨l, rfl, hl⟩ := Enclosed.cons_of_ne hskip (by decide)
      exact hgo s hl hlength hread
    · obtain ⟨l, rfl, hl⟩ := Enclosed.cons_of_ne hskip (by decide)
      exact hgo s hl hlength hread
    · obtain ⟨l, rfl, hl⟩ := Enclosed.cons_of_ne hskip (by decide)
      simp only [List.length_cons] at hlength
      split at hread
      · next primitive rest' hescape =>
        rcases retracted_escape hl hescape with (rfl | ⟨rest, hescape, hrest, hle⟩) | ⟨-, -, hbrace⟩
        · exact .inl (alternatives_nil rfl hread)
        · simp only [hescape]
          exact hgo s hrest (by omega) hread
        · rw [alternatives_loneBrace hbrace] at hread
          cases hread
      · cases hread
    · obtain ⟨l, rfl, hl⟩ := Enclosed.cons_of_ne hskip (by decide)
      simp only [List.length_cons] at hlength
      split at hread
      · cases hread
      · next f rest' hopening =>
        rcases retracts_opening hl hopening with rfl | ⟨rest, hopening, hrest, hle⟩
        · exact .inl (alternatives_nil rfl hread)
        · simp only [hopening]
          exact hgo { s with flags := f } hrest (by omega) hread
      · next inner rest' hopening =>
        rcases retracts_opening hl hopening with rfl | ⟨rest, hopening, hrest, hle⟩
        · split at hread
          · next hinner => cases alternatives_nil rfl hinner
          · cases hread
        · simp only [hopening]
          exact hgroup ⟨rest', inner, s.groups, s.names⟩
            (fun item => ⟨item.regex, item.depth + 1, false⟩) hrest (by omega) hread
      · next name rest' hopening =>
        cases hname : (name.map s.names.contains).getD false with
        | true =>
          simp only [hname, if_true] at hread
          cases hread
        | false =>
          simp only [hname, Bool.false_eq_true, if_false] at hread
          rcases retracts_opening hl hopening with rfl | ⟨rest, hopening, hrest, hle⟩
          · split at hread
            · next hinner => cases alternatives_nil rfl hinner
            · cases hread
          · simp only [hopening, hname, Bool.false_eq_true, if_false]
            exact hgroup ⟨rest', s.flags, s.groups + 1, name.toList ++ s.names⟩
              (fun item => ⟨group (s.groups + 1) item.regex, item.depth + 1, false⟩) hrest
              (by omega) hread
    · rcases Enclosed.cons hskip with ⟨l, rfl, hl⟩ | ⟨-, rfl, rfl⟩
      · simp only
        exact hgo s hl hlength hread
      · exact .inl (alternatives_nil rfl hread)

/-- More fuel makes no difference to what has been read. -/
theorem alternatives_mono {n n' : Nat} (hn : n ≤ n') {done items : List Item} {s : Cursor}
    {read : Item × Cursor} (h : alternatives n done items s = some read) :
    alternatives n' done items s = some read := by
  induction n generalizing n' done items s read with
  | zero => cases h
  | succ n ih =>
    obtain ⟨n', rfl⟩ : ∃ k, n' = k + 1 := ⟨n' - 1, by omega⟩
    have hgo : ∀ {done items : List Item} {s : Cursor} {read : Item × Cursor},
        alternatives n done items s = some read → alternatives n' done items s = some read :=
      fun h => ih (Nat.le_of_succ_le_succ hn) h
    have hagain : ∀ (min : Nat) (max : Option Nat) {l : List Char},
        (match repeatLast s.flags min max items l with
          | some (items, rest) => alternatives n done items (s.at rest)
          | none => none) = some read →
        (match repeatLast s.flags min max items l with
          | some (items, rest) => alternatives n' done items (s.at rest)
          | none => none) = some read := by
      intro min max l h
      split at h
      · exact hgo h
      · cases h
    unfold alternatives at h ⊢
    dsimp only at h ⊢
    generalize skip s.flags s.rest = l at h ⊢
    split at h
    · exact h
    · exact h
    · exact hgo h
    · exact hagain _ _ h
    · exact hagain _ _ h
    · exact hagain _ _ h
    · split at h
      · exact hagain _ _ h
      · cases h
    · split at h
      · exact hgo h
      · cases h
    · split at h
      · exact hgo h
      · cases h
    · exact hgo h
    · exact hgo h
    · split at h
      · exact hgo h
      · cases h
    · split at h
      · cases h
      · exact hgo h
      · split at h
        · next hinner =>
          rw [hgo hinner]
          exact hgo h
        · cases h
      · split at h
        · cases h
        · next hname =>
          rw [if_neg hname]
          split at h
          · next hinner =>
            rw [hgo hinner]
            exact hgo h
          · cases h
    · exact hgo h

/-- What is read does not depend on the fuel. -/
theorem alternatives_unique {n n' : Nat} {done items : List Item} {s : Cursor}
    {read read' : Item × Cursor} (h : alternatives n done items s = some read)
    (h' : alternatives n' done items s = some read') : read = read' := by
  have hread := alternatives_mono (Nat.le_max_left n n') h
  rw [alternatives_mono (Nat.le_max_right n n') h'] at hread
  exact (Option.some.inj hread).symm

end Expressions

end Switchboard.Regex.Parser
