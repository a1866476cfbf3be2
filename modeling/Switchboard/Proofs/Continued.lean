import Mathlib.Data.List.Basic
import Switchboard.Regex.Parser

/-!
# Reading continued texts

What a part of an expression is read as does not depend on what follows the part. So an expression
is read the same if it ends at the end of the text and if it is closed by a parenthesis:

    Continues t cs cs'     `cs'` is `cs` with `t` behind it, or both are empty
    Local t read           `read` takes the same from a text and from a continued one

The second case of `Continues` is that of a comment that is open at the end: it swallows whatever
follows.
-/

namespace Switchboard.Regex.Parser

/-! ## Continued texts -/

/-- What may close an expression: a parenthesis, and nothing behind it that is looked for further
back. -/
structure Closing (t : List Char) : Prop where
  head : t.head? = some ')'
  newline : '\n' ∉ t
  colon : ':' ∉ t

/-- How what is left of a text is continued. -/
inductive Continues (t : List Char) : List Char → List Char → Prop where
  | followed (cs : List Char) : Continues t cs (cs ++ t)
  /-- A comment has taken the rest of both texts. -/
  | swallowed : Continues t [] []

/-- Whether the same is read from a text and from a continued one. -/
def Local {α : Type} (t : List Char) (read : List Char → Option (α × List Char)) : Prop :=
  ∀ ⦃cs cs' a rest⦄, Continues t cs cs' → read cs = some (a, rest) →
    ∃ rest', read cs' = some (a, rest') ∧ Continues t rest rest'

section Continues
variable {t cs cs' : List Char} {c : Char}

theorem Closing.exists_cons (ht : Closing t) : ∃ t', t = ')' :: t' := by
  cases t with
  | nil => cases ht.head
  | cons c t' =>
    cases ht.head
    exact ⟨t', rfl⟩

theorem Local.map {α β : Type} {read : List Char → Option (α × List Char)} (h : Local t read)
    (g : α → β) : Local t fun cs => (read cs).map fun (a, cs) => (g a, cs) := by
  intro cs cs' b rest hcs hread
  obtain ⟨⟨a, rest⟩, hread, heq⟩ := Option.map_eq_some_iff.1 hread
  cases heq
  obtain ⟨rest', hread', hrest⟩ := h hcs hread
  exact ⟨rest', by simp [hread'], hrest⟩

/-- What is read from nothing leaves everything. -/
theorem local_const {α β : Type} (o : Option α) (g : α → β) :
    Local t fun cs => o.map fun a => (g a, cs) := by
  intro cs cs' b rest hcs hread
  obtain ⟨a, ha, heq⟩ := Option.map_eq_some_iff.1 hread
  cases heq
  exact ⟨cs', by simp [ha], hcs⟩

theorem Continues.cons (h : Continues t (c :: cs) cs') :
    ∃ cs'', cs' = c :: cs'' ∧ Continues t cs cs'' := by
  cases h
  exact ⟨cs ++ t, rfl, .followed cs⟩

/-- At the end there is what closes the expression, or nothing in either text. -/
theorem Continues.nil (ht : Closing t) (h : Continues t [] cs') :
    (∃ t', cs' = ')' :: t') ∨ cs' = [] := by
  cases h with
  | followed => exact .inl ht.exists_cons
  | swallowed => exact .inr rfl

theorem Continues.eq_nil (h : Continues t cs []) : cs = [] := by
  cases cs with
  | nil => rfl
  | cons c cs =>
    obtain ⟨cs'', heq, -⟩ := h.cons
    cases heq

theorem Continues.length_le (h : Continues t cs cs') : cs.length ≤ cs'.length := by
  cases h <;> simp

theorem Continues.isEmpty (h : Continues t cs cs') (hcs : cs.isEmpty = false) :
    cs'.isEmpty = false := by
  cases cs with
  | nil => cases hcs
  | cons c cs =>
    obtain ⟨cs'', rfl, -⟩ := h.cons
    rfl

/-- What does not start with a text without parentheses does not do so continued. -/
theorem Continues.ne_append (ht : Closing t) (h : Continues t cs cs') {p : List Char}
    (hp : ')' ∉ p) (hne : ∀ l, cs = p ++ l → False) : ∀ l, cs' = p ++ l → False := by
  induction p generalizing cs cs' with
  | nil => exact (hne cs rfl).elim
  | cons c p ih =>
    rw [List.mem_cons, not_or] at hp
    rintro l rfl
    cases cs with
    | nil =>
      rcases h.nil ht with ⟨t', heq⟩ | heq
      · exact hp.1 (List.cons.inj heq).1.symm
      · cases heq
    | cons d cs =>
      obtain ⟨cs'', heq, hcs⟩ := h.cons
      obtain ⟨rfl, rfl⟩ := List.cons.inj heq
      exact ih hcs hp.2 (fun l heq => hne l (heq ▸ rfl)) l rfl

theorem Continues.ne_cons (ht : Closing t) (h : Continues t cs cs') (hc : ')' ≠ c)
    (hne : ∀ l, cs = c :: l → False) : ∀ l, cs' = c :: l → False :=
  h.ne_append ht (p := [c]) (by simpa using hc) hne

/-! ## Blanks -/

theorem skipVerbose_of_comment (h : '\n' ∉ t) : skipVerbose true t = [] := by
  induction t with
  | nil => rfl
  | cons c t ih =>
    rw [List.mem_cons, not_or] at h
    rw [skipVerbose, decide_eq_true (Ne.symm h.1), ih h.2]

theorem Closing.skip (ht : Closing t) (f : Flags) : skip f t = t := by
  obtain ⟨t', rfl⟩ := ht.exists_cons
  unfold Parser.skip
  split
  · rw [skipVerbose, if_neg (by decide), if_neg (by decide)]
  · rfl

theorem Continues.skipVerbose (ht : Closing t) (comment : Bool) (cs : List Char) :
    Continues t (skipVerbose comment cs) (skipVerbose comment (cs ++ t)) := by
  induction cs generalizing comment with
  | nil =>
    have hskip : Parser.skipVerbose false t = t := ht.skip { verbose := true }
    cases comment with
    | true =>
      rw [List.nil_append, skipVerbose_of_comment ht.newline]
      exact .swallowed
    | false =>
      rw [List.nil_append, hskip]
      exact .followed []
  | cons c cs ih =>
    cases comment with
    | true => exact ih _
    | false =>
      simp only [List.cons_append, Parser.skipVerbose]
      split
      · exact ih _
      · split
        · exact ih _
        · exact .followed (c :: cs)

theorem Continues.skip (ht : Closing t) (f : Flags) (h : Continues t cs cs') :
    Continues t (skip f cs) (skip f cs') := by
  cases h with
  | followed =>
    unfold Parser.skip
    split
    · exact .skipVerbose ht false cs
    · exact .followed cs
  | swallowed =>
    unfold Parser.skip
    split <;> exact .swallowed

theorem length_skip_le (f : Flags) (cs : List Char) : (skip f cs).length ≤ cs.length := by
  have hverbose : ∀ comment, (skipVerbose comment cs).length ≤ cs.length := by
    induction cs with
    | nil =>
      intro comment
      cases comment <;> exact Nat.le_refl _
    | cons c cs ih =>
      intro comment
      cases comment with
      | true => exact Nat.le_succ_of_le (ih _)
      | false =>
        rw [skipVerbose]
        split
        · exact Nat.le_succ_of_le (ih _)
        · split
          · exact Nat.le_succ_of_le (ih _)
          · exact Nat.le_refl _
  unfold skip
  split
  · exact hverbose false
  · exact Nat.le_refl _

/-- Takes the characters that pass a test, up to the first one that does not. -/
def scan {σ : Type} (f : Flags) (p : Char → Bool) (take : σ → Char → σ) :
    Nat → σ → List Char → σ × List Char
  | 0, s, cs => (s, cs)
  | _ + 1, s, [] => (s, [])
  | n + 1, s, c :: cs =>
    if p c then scan f p take n (take s c) (Parser.skip f cs) else (s, c :: cs)

theorem scan_nil {σ : Type} (f : Flags) (p : Char → Bool) (take : σ → Char → σ) (n : Nat) (s : σ) :
    scan f p take n s [] = (s, []) := by
  cases n <;> rfl

theorem scan_of_closing {σ : Type} {p : Char → Bool} (ht : Closing t) (hp : p ')' = false)
    (f : Flags) (take : σ → Char → σ) (n : Nat) (s : σ) (h : Continues t [] cs') :
    scan f p take n s cs' = (s, cs') := by
  rcases h.nil ht with ⟨t', rfl⟩ | rfl
  · cases n with
    | zero => rfl
    | succ n => rw [scan, hp, if_neg Bool.false_ne_true]
  · exact scan_nil f p take n s

/-- The same characters are taken in front of what closes an expression, if that fails the test. -/
theorem local_scan {σ : Type} {f : Flags} {p : Char → Bool} (ht : Closing t) (hp : p ')' = false)
    (take : σ → Char → σ) {n n' : Nat} (s : σ) (h : Continues t cs cs') (hn : cs.length ≤ n)
    (hn' : cs'.length ≤ n') :
    ∃ rest', scan f p take n' s cs' = ((scan f p take n s cs).1, rest') ∧
      Continues t (scan f p take n s cs).2 rest' := by
  induction n generalizing n' s cs cs' with
  | zero =>
    obtain rfl := List.length_eq_zero_iff.1 (Nat.le_zero.1 hn)
    rw [scan_nil]
    exact ⟨cs', scan_of_closing ht hp f take n' s h, h⟩
  | succ n ih =>
    cases cs with
    | nil => exact ⟨cs', scan_of_closing ht hp f take n' s h, h⟩
    | cons c cs =>
      obtain ⟨cs'', rfl, hcs⟩ := h.cons
      simp only [List.length_cons] at hn hn'
      obtain ⟨n', rfl⟩ : ∃ k, n' = k + 1 := ⟨n' - 1, by omega⟩
      have hle := length_skip_le f cs
      have hle' := length_skip_le f cs''
      rw [scan, scan]
      split
      · exact ih (take s c) (hcs.skip ht f) (by omega) (by omega)
      · exact ⟨c :: cs'', rfl, h⟩

theorem Continues.dropWhile {p : Char → Bool} (hp : p ')' = false) (ht : Closing t)
    (h : Continues t cs cs') : Continues t (cs.dropWhile p) (cs'.dropWhile p) := by
  cases h with
  | swallowed => exact .swallowed
  | followed =>
    induction cs with
    | nil =>
      obtain ⟨t', rfl⟩ := ht.exists_cons
      rw [List.nil_append, List.dropWhile_cons_of_neg (by simp [hp])]
      exact .followed []
    | cons c cs ih =>
      rw [List.cons_append, List.dropWhile_cons, List.dropWhile_cons]
      split
      · exact ih
      · exact .followed (c :: cs)

end Continues

/-! ## Escapes -/

section Escapes
variable {t : List Char} {f : Flags}

theorem local_untilBrace (ht : Closing t) {n n' : Nat} (hn : n ≤ n') (seen : List Char)
    {cs cs' a rest : List Char} (h : Continues t cs cs')
    (hread : untilBrace f n seen cs = some (a, rest)) :
    ∃ rest', untilBrace f n' seen cs' = some (a, rest') ∧ Continues t rest rest' := by
  induction n generalizing n' seen cs cs' with
  | zero => cases hread
  | succ n ih =>
    obtain ⟨n', rfl⟩ : ∃ k, n' = k + 1 := ⟨n' - 1, by omega⟩
    have hskip := h.skip ht f
    rw [untilBrace] at hread ⊢
    generalize skip f cs = l at hread hskip
    generalize skip f cs' = l' at hskip ⊢
    split at hread
    · cases hread
    · obtain ⟨l'', rfl, hl⟩ := hskip.cons
      cases hread
      exact ⟨l'', rfl, hl⟩
    · next c l hc =>
      obtain ⟨l'', rfl, hl⟩ := hskip.cons
      obtain ⟨rest', hread', hrest⟩ := ih (Nat.le_of_succ_le_succ hn) (c :: seen) hl hread
      refine ⟨rest', ?_, hrest⟩
      simpa [hc] using hread'

theorem local_hexDigits (ht : Closing t) (n : Nat) (seen : List Char) :
    Local t (hexDigits f n seen) := by
  induction n generalizing seen with
  | zero =>
    intro cs cs' a rest h hread
    cases hread
    exact ⟨cs', rfl, h⟩
  | succ n ih =>
    intro cs cs' a rest h hread
    have hskip := h.skip ht f
    rw [hexDigits] at hread ⊢
    generalize skip f cs = l at hread hskip
    generalize skip f cs' = l' at hskip ⊢
    split at hread
    · next c l =>
      obtain ⟨l'', rfl, hl⟩ := hskip.cons
      split at hread
      · next hc =>
        dsimp only
        rw [if_pos hc]
        exact ih (c :: seen) hl hread
      · cases hread
    · cases hread

theorem local_hexEscape (ht : Closing t) (width : Nat) : Local t (hexEscape f width) := by
  intro cs cs' a rest h hread
  have hskip := h.skip ht f
  rw [hexEscape] at hread ⊢
  generalize skip f cs = l at hread hskip
  generalize skip f cs' = l' at hskip ⊢
  split at hread
  · obtain ⟨l'', rfl, hl⟩ := hskip.cons
    obtain ⟨⟨digits, cs₁⟩, hdigits, hread⟩ := Option.bind_eq_some_iff.1 hread
    have hlength := Nat.add_le_add_right hl.length_le 1
    obtain ⟨cs₁', hdigits', h₁⟩ := local_untilBrace ht hlength [] hl hdigits
    dsimp only at hread
    split at hread
    · next hhex =>
      obtain ⟨c, hc, hread⟩ := Option.bind_eq_some_iff.1 hread
      cases hread
      refine ⟨skip f cs₁', ?_, h₁.skip ht f⟩
      simp only [hdigits', hhex, hc, Option.bind_eq_bind, Option.bind_some, if_true]
    · cases hread
  · next hl =>
    obtain ⟨⟨digits, cs₁⟩, hdigits, hread⟩ := Option.bind_eq_some_iff.1 hread
    obtain ⟨cs₁', hdigits', h₁⟩ := local_hexDigits ht width [] hskip hdigits
    obtain ⟨c, hc, hread⟩ := Option.bind_eq_some_iff.1 hread
    split at hread
    · cases hread
    · next hbyte =>
      cases hread
      refine ⟨skip f cs₁', ?_, h₁.skip ht f⟩
      split
      · next heq => exact (hskip.ne_cons ht (by decide) hl _ rfl).elim
      · simp only [hdigits', hc, Option.bind_eq_bind, Option.bind_some]
        rw [if_neg hbyte]

theorem local_propertyEscape (ht : Closing t) (negated : Bool) :
    Local t (propertyEscape f negated) := by
  intro cs cs' a rest h hread
  have hskip := h.skip ht f
  rw [propertyEscape] at hread ⊢
  generalize skip f cs = l at hread hskip
  generalize skip f cs' = l' at hskip ⊢
  split at hread
  · cases hread
  · next hunicode =>
    rw [if_neg hunicode]
    split at hread
    · cases hread
    · obtain ⟨l'', rfl, hl⟩ := hskip.cons
      obtain ⟨⟨name, cs₁⟩, hname, hread⟩ := Option.bind_eq_some_iff.1 hread
      have hlength := Nat.add_le_add_right hl.length_le 1
      obtain ⟨cs₁', hname', h₁⟩ := local_untilBrace ht hlength [] hl hname
      obtain ⟨⟨s, not⟩, hs, hread⟩ := Option.bind_eq_some_iff.1 hread
      obtain ⟨s', hs', hread⟩ := Option.bind_eq_some_iff.1 hread
      cases hread
      refine ⟨cs₁', ?_, h₁⟩
      simp only [hname', hs, hs', Option.bind_eq_bind, Option.bind_some]
    · next c l hc =>
      obtain ⟨l'', rfl, hl⟩ := hskip.cons
      split at hread
      · cases hread
      · next hc' =>
        obtain ⟨s, hs, hread⟩ := Option.bind_eq_some_iff.1 hread
        obtain ⟨s', hs', hread⟩ := Option.bind_eq_some_iff.1 hread
        cases hread
        refine ⟨skip f l'', ?_, hl.skip ht f⟩
        simp only [hc', hs, hs', Option.bind_eq_bind, Option.bind_some, if_false]

theorem boundaryName_eq (n : Nat) (seen cs : List Char) :
    boundaryName f n seen cs =
      ((scan f isBoundaryLetter (fun seen c => c :: seen) n seen cs).1.reverse,
        (scan f isBoundaryLetter (fun seen c => c :: seen) n seen cs).2) := by
  induction n generalizing seen cs with
  | zero => rfl
  | succ n ih =>
    cases cs with
    | nil => rfl
    | cons c cs =>
      rw [boundaryName, scan]
      split
      · exact ih (c :: seen) (skip f cs)
      · rfl

theorem local_boundary (ht : Closing t) : Local t (boundary f) := by
  intro cs cs' a rest h hread
  unfold boundary at hread ⊢
  split at hread
  · next inner =>
    obtain ⟨inner', rfl, hinner⟩ := h.cons
    split
    · next inner'' heq =>
      cases heq
      have hskip := hinner.skip ht f
      generalize skip f inner = l at hread hskip
      generalize skip f inner' = l' at hskip ⊢
      split at hread
      · cases hread
      · next c l =>
        obtain ⟨l'', rfl, hl⟩ := hskip.cons
        split at hread
        · next hletter =>
          obtain ⟨rest₁, hname, hrest₁⟩ :=
            local_scan (f := f) (p := isBoundaryLetter) ht (by decide) (fun seen c => c :: seen) []
              hskip (by simp : (c :: l).length ≤ l.length + 2)
              (by simp : (c :: l'').length ≤ l''.length + 2)
          dsimp only
          rw [boundaryName_eq] at hread
          rw [if_pos hletter, boundaryName_eq, hname]
          generalize scan f isBoundaryLetter _ (l.length + 2) [] (c :: l) = read at hread hrest₁
          obtain ⟨name, rest₀⟩ := read
          split at hread
          · next heq =>
            cases heq
            obtain ⟨rest₂, rfl, hrest₂⟩ := hrest₁.cons
            dsimp only at hread ⊢
            split at hread
            iterate 4
              next hword =>
                cases hread
                exact ⟨rest₂, by simp only [hword], hrest₂⟩
            cases hread
          · cases hread
        · next hletter =>
          dsimp only
          rw [if_neg hletter]
          cases hread
          exact ⟨'\x7b' :: inner', rfl, h⟩
    · next hne => exact (hne _ rfl).elim
  · next hbrace =>
    cases hread
    refine ⟨cs', ?_, h⟩
    split
    · exact (h.ne_cons ht (by decide) hbrace _ rfl).elim
    · rfl

theorem local_escape (ht : Closing t) : Local t (escape f) := by
  intro cs cs' a rest h hread
  cases cs with
  | nil => cases hread
  | cons c cs =>
    obtain ⟨cs'', rfl, hcs⟩ := h.cons
    unfold escape at hread ⊢
    dsimp only at hread ⊢
    split at hread
    · next hesc =>
      rw [if_pos hesc]
      cases hread
      exact ⟨cs'', rfl, hcs⟩
    · next hesc =>
      rw [if_neg hesc]
      split at hread
      · exact (local_hexEscape ht 2).map Primitive.char hcs hread
      · exact (local_hexEscape ht 4).map Primitive.char hcs hread
      · exact (local_hexEscape ht 8).map Primitive.char hcs hread
      · exact (local_propertyEscape ht false).map Primitive.set hcs hread
      · exact (local_propertyEscape ht true).map Primitive.set hcs hread
      iterate 6 exact local_const _ Primitive.set hcs hread
      iterate 8 exact local_const (some _) id hcs hread
      · exact (local_boundary ht).map Primitive.look hcs hread
      iterate 3 exact local_const (some _) id hcs hread
      · cases hread

end Escapes

/-! ## Classes -/

section Classes
variable {t : List Char} {f : Flags}

/-- The name of an ASCII class, up to its colon and bracket. -/
def asciiName? (negated : Bool) (cs : List Char) : Option (CodePoints × Bool × List Char) :=
  match cs.dropWhile (· ≠ ':') with
  | ':' :: ']' :: rest =>
    (Class.ascii? (String.ofList (cs.takeWhile (· ≠ ':')))).map fun s => (s, negated, rest)
  | _ => none

theorem asciiClass?_of_ne {cs : List Char} (h : ∀ l, cs = '^' :: l → False) :
    asciiClass? (':' :: cs) = asciiName? false cs := by
  unfold asciiClass? asciiName?
  split
  · next heq =>
    cases heq
    split
    · next cs' negated' l heq =>
      split at heq
      · exact (h _ rfl).elim
      · cases heq
        rfl
  · next hne => exact (hne _ rfl).elim

/-- The text before the first occurrence of a character, and the text from there on. -/
theorem span_ne {c : Char} {u : List Char} (h : c ∉ u) (v : List Char) :
    (u ++ c :: v).takeWhile (· ≠ c) = u ∧ (u ++ c :: v).dropWhile (· ≠ c) = c :: v := by
  have hpass : ∀ d ∈ u, decide (d ≠ c) = true := fun d hd => decide_eq_true fun heq => h (heq ▸ hd)
  rw [List.takeWhile_append_of_pos hpass, List.dropWhile_append_of_pos hpass]
  simp

theorem dropWhile_ne_eq_nil {c : Char} {cs : List Char} (h : c ∉ cs) :
    cs.dropWhile (· ≠ c) = [] := by
  have hpass : ∀ d ∈ cs, decide (d ≠ c) = true :=
    fun d hd => decide_eq_true fun heq => h (heq ▸ hd)
  have hdrop : (cs ++ []).dropWhile (· ≠ c) = [] := List.dropWhile_append_of_pos hpass
  rwa [List.append_nil] at hdrop

theorem asciiName?_append (ht : Closing t) (negated : Bool) (cs : List Char) :
    asciiName? negated (cs ++ t) =
      (asciiName? negated cs).map fun (s, not, rest) => (s, not, rest ++ t) := by
  obtain ⟨t', rfl⟩ := ht.exists_cons
  unfold asciiName?
  by_cases hcolon : ':' ∈ cs
  · obtain ⟨u, v, rfl, hu⟩ := List.eq_append_cons_of_mem hcolon
    rw [List.append_assoc, List.cons_append, (span_ne hu _).1, (span_ne hu _).2, (span_ne hu _).1,
      (span_ne hu _).2]
    cases v with
    | nil => rfl
    | cons d v =>
      by_cases hd : d = ']'
      · subst hd
        show Option.map _ _ = (Option.map _ _).map _
        rw [Option.map_map]
        rfl
      · simp [hd]
  · have hcolon' : ':' ∉ cs ++ ')' :: t' := by simp [hcolon, ht.colon]
    rw [dropWhile_ne_eq_nil hcolon, dropWhile_ne_eq_nil hcolon']
    rfl

theorem asciiClass?_append (ht : Closing t) (cs : List Char) :
    asciiClass? (cs ++ t) = (asciiClass? cs).map fun (s, not, rest) => (s, not, rest ++ t) := by
  obtain ⟨t', rfl⟩ := ht.exists_cons
  have hother : ∀ {c : Char} (cs : List Char), c ≠ ':' → asciiClass? (c :: cs) = none :=
    fun cs hc => by simp [asciiClass?, hc]
  match cs with
  | [] => rfl
  | c :: cs =>
    by_cases hc : c = ':'
    · subst hc
      match cs with
      | [] =>
        rw [List.cons_append, asciiClass?_of_ne (by simp), asciiClass?_of_ne (by simp)]
        exact asciiName?_append ht false []
      | d :: cs =>
        by_cases hd : d = '^'
        · subst hd
          exact asciiName?_append ht true cs
        · rw [List.cons_append, asciiClass?_of_ne (by simp [hd]), asciiClass?_of_ne (by simp [hd])]
          exact asciiName?_append ht false (d :: cs)
    · rw [List.cons_append, hother _ hc, hother _ hc]
      rfl

theorem local_asciiClass? (ht : Closing t) {cs cs' : List Char} (h : Continues t cs cs') :
    (asciiClass? cs = none → asciiClass? cs' = none) ∧
      ∀ {s : CodePoints} {not : Bool} {rest : List Char}, asciiClass? cs = some (s, not, rest) →
        ∃ rest', asciiClass? cs' = some (s, not, rest') ∧ Continues t rest rest' := by
  cases h with
  | swallowed => exact ⟨id, fun hread => by cases hread⟩
  | followed =>
    rw [asciiClass?_append ht]
    refine ⟨fun hnone => by rw [hnone]; rfl, fun {s not rest} hread => ?_⟩
    exact ⟨rest ++ t, by rw [hread]; rfl, .followed rest⟩

theorem leadingHyphens_eq (n : Nat) (k : ClassState) (cs : List Char) :
    leadingHyphens f n k cs =
      scan f (· == '-') (fun k _ => k.push (.single '-'.toNat) 0) n k cs := by
  induction n generalizing k cs with
  | zero => rfl
  | succ n ih =>
    cases cs with
    | nil => rfl
    | cons c cs =>
      rw [scan]
      split
      · next hc =>
        obtain rfl := eq_of_beq hc
        exact ih _ _
      · next hc =>
        unfold leadingHyphens
        split
        · next heq => exact (hc (beq_iff_eq.2 (List.cons.inj heq).1)).elim
        · rfl

/-- The start of a class behind its sign. -/
def openMembers? (f : Flags) (negated : Bool) (cs : List Char) :
    Option (Bool × ClassState × List Char) :=
  let (k, cs) := leadingHyphens f (cs.length + 1) .start cs
  match cs with
  | [] => none
  | ']' :: cs =>
    if k.count = 0 then
      let cs := skip f cs
      if cs.isEmpty then none else some (negated, k.push (.single ']'.toNat) 0, cs)
    else some (negated, k, ']' :: cs)
  | cs => some (negated, k, cs)

/-- Whether a class is negated, and what is behind its sign. -/
def openSign (f : Flags) : List Char → Bool × List Char
  | '^' :: cs => (true, skip f cs)
  | cs => (false, cs)

theorem openClass_eq (cs : List Char) :
    openClass f cs = openMembers? f (openSign f (skip f cs)).1 (openSign f (skip f cs)).2 := rfl

theorem local_openSign (ht : Closing t) {cs cs' : List Char} (h : Continues t cs cs') :
    ∃ rest, openSign f cs' = ((openSign f cs).1, rest) ∧ Continues t (openSign f cs).2 rest := by
  by_cases hsign : ∃ l, cs = '^' :: l
  · obtain ⟨l, rfl⟩ := hsign
    obtain ⟨l', rfl, hl⟩ := h.cons
    exact ⟨skip f l', rfl, hl.skip ht f⟩
  · have hplain : ∀ cs, (∀ l, cs = '^' :: l → False) → openSign f cs = (false, cs) := by
      intro cs hne
      unfold openSign
      split
      · exact (hne _ rfl).elim
      · rfl
    have hne : ∀ l, cs = '^' :: l → False := fun l hl => hsign ⟨l, hl⟩
    rw [hplain cs hne, hplain cs' (h.ne_cons ht (by decide) hne)]
    exact ⟨cs', rfl, h⟩

theorem local_openMembers? (ht : Closing t) {cs cs' : List Char} (h : Continues t cs cs')
    {negated negated' : Bool} {k : ClassState} {rest : List Char}
    (hread : openMembers? f negated cs = some (negated', k, rest)) :
    ∃ rest', openMembers? f negated cs' = some (negated', k, rest') ∧ Continues t rest rest' := by
  obtain ⟨rest₁, hhyphens, hrest₁⟩ := local_scan (f := f) (p := (· == '-')) ht (by decide)
    (fun (k : ClassState) _ => k.push (.single '-'.toNat) 0) .start h
    (Nat.le_add_right cs.length 1) (Nat.le_add_right cs'.length 1)
  unfold openMembers? at hread ⊢
  rw [leadingHyphens_eq] at hread ⊢
  rw [hhyphens]
  generalize scan f _ _ (cs.length + 1) ClassState.start cs = read at hread hrest₁
  obtain ⟨k₁, cs₁⟩ := read
  dsimp only at hrest₁ hread ⊢
  split at hread
  · cases hread
  · obtain ⟨rest₂, rfl, hrest₂⟩ := hrest₁.cons
    split at hread
    · next hcount =>
      split at hread
      · cases hread
      · next hempty =>
        cases hread
        have hrest := hrest₂.skip ht f
        have hempty' := hrest.isEmpty (Bool.eq_false_iff.2 hempty)
        exact ⟨skip f rest₂, by simp [hcount, hempty'], hrest⟩
    · next hcount =>
      cases hread
      exact ⟨']' :: rest₂, by simp [hcount], hrest₁⟩
  · next hnil hbracket =>
    cases hread
    refine ⟨rest₁, ?_, hrest₁⟩
    split
    · exact (hnil hrest₁.eq_nil).elim
    · exact (hrest₁.ne_cons ht (by decide) hbracket _ rfl).elim
    · rfl

theorem local_openClass (ht : Closing t) {cs cs' : List Char} (h : Continues t cs cs')
    {negated : Bool} {k : ClassState} {rest : List Char}
    (hread : openClass f cs = some (negated, k, rest)) :
    ∃ rest', openClass f cs' = some (negated, k, rest') ∧ Continues t rest rest' := by
  obtain ⟨l', hsign, hl⟩ := local_openSign (f := f) ht (h.skip ht f)
  rw [openClass_eq] at hread ⊢
  rw [hsign]
  exact local_openMembers? ht hl hread

theorem local_classPrimitive (ht : Closing t) : Local t (classPrimitive f) := by
  intro cs cs' a rest h hread
  cases cs with
  | nil => cases hread
  | cons c cs =>
    obtain ⟨cs'', rfl, hcs⟩ := h.cons
    unfold classPrimitive at hread ⊢
    split at hread
    · cases hread
    · next heq =>
      cases heq
      exact local_escape ht hcs hread
    · next hc heq =>
      cases heq
      cases hread
      refine ⟨cs'', ?_, hcs⟩
      split
      · next heq => cases heq
      · next heq =>
        cases heq
        exact (hc rfl).elim
      · next heq =>
        cases heq
        rfl

theorem skipVerbose_dropWhile (cs : List Char) :
    skipVerbose false (cs.dropWhile isBlank) = skipVerbose false cs := by
  induction cs with
  | nil => rfl
  | cons c cs ih =>
    rw [List.dropWhile_cons]
    split
    · next hc => rw [ih, skipVerbose, if_pos hc]
    · rfl

theorem skipVerbose_of_blank {cs : List Char} (h : ∀ c ∈ cs, isBlank c = true) (comment : Bool) :
    skipVerbose comment cs = [] := by
  induction cs generalizing comment with
  | nil => cases comment <;> rfl
  | cons c cs ih =>
    obtain ⟨hc, hcs⟩ := List.forall_mem_cons.1 h
    cases comment with
    | true => exact ih hcs _
    | false => rw [skipVerbose, if_pos hc, ih hcs]

theorem skip_eq_nil_of_decisive? {cs : List Char} (h : decisive? f cs = none) :
    skip f cs = [] := by
  unfold decisive? at h
  unfold skip
  split at h
  · next hverbose =>
    rw [if_pos hverbose, ← skipVerbose_dropWhile]
    split at h
    · next l heq =>
      have hblank : ∀ c ∈ l, isBlank c = true := by simpa using h
      rw [heq, skipVerbose, if_neg (by decide), if_pos rfl]
      exact skipVerbose_of_blank hblank true
    · rw [List.head?_eq_none_iff.1 h]
      rfl
  · next hverbose =>
    rw [if_neg hverbose]
    exact List.head?_eq_none_iff.1 h

/-- What decides on a hyphen stays where it is. -/
theorem decisive?_eq (ht : Closing t) {cs cs' : List Char} (h : Continues t cs cs') {c : Char}
    (hc : decisive? f cs = some c) : decisive? f cs' = some c := by
  have hhead : ∀ {l l' : List Char}, Continues t l l' → l.head? = some c → l'.head? = some c :=
    fun {l l'} hl hhead => by
      obtain ⟨l, rfl⟩ := List.head?_eq_some_iff.1 hhead
      obtain ⟨l'', rfl, -⟩ := hl.cons
      rfl
  unfold decisive? at hc ⊢
  split at hc
  · next hverbose =>
    rw [if_pos hverbose]
    have hdrop := h.dropWhile (p := isBlank) (by decide) ht
    generalize cs.dropWhile isBlank = l at hc hdrop
    generalize cs'.dropWhile isBlank = l' at hdrop ⊢
    split at hc
    · next l =>
      obtain ⟨l'', rfl, hl⟩ := hdrop.cons
      show l''.find? _ = some c
      cases hl with
      | swallowed => exact hc
      | followed => rw [List.find?_append, hc, Option.some_or]
    · next hcomment =>
      split
      · exact (hdrop.ne_cons ht (by decide) hcomment _ rfl).elim
      · exact hhead hdrop hc
  · next hverbose =>
    rw [if_neg hverbose]
    exact hhead h hc

theorem endsAtHyphen_eq (ht : Closing t) {cs cs' : List Char} (h : Continues t cs cs')
    (hsome : decisive? f cs ≠ none) : endsAtHyphen f cs' = endsAtHyphen f cs := by
  obtain ⟨c, hc⟩ := Option.ne_none_iff_exists'.1 hsome
  rw [endsAtHyphen, endsAtHyphen, hc, decisive?_eq ht h hc]

theorem local_classRange (ht : Closing t) : Local t (classRange f) := by
  intro cs cs' a rest h hread
  obtain ⟨⟨first, cs₁⟩, hfirst, hread⟩ := Option.bind_eq_some_iff.1 hread
  obtain ⟨cs₁', hfirst', h₁⟩ := local_classPrimitive ht h hfirst
  have hskip := h₁.skip ht f
  unfold classRange
  rw [hfirst']
  dsimp only [Option.bind_eq_bind, Option.bind_some] at hread ⊢
  generalize skip f cs₁ = l at hread hskip
  generalize skip f cs₁' = l' at hskip ⊢
  split at hread
  · cases hread
  · next l =>
    obtain ⟨l', rfl, hl⟩ := hskip.cons
    have hrange := hl.skip ht f
    split at hread
    · next hends =>
      have hsome : decisive? f l ≠ none := fun hnone => by simp [endsAtHyphen, hnone] at hends
      obtain ⟨s, hs, hread⟩ := Option.bind_eq_some_iff.1 hread
      cases hread
      exact ⟨'-' :: l', by simp [endsAtHyphen_eq ht hl hsome, hends, hs], hskip⟩
    · next hends =>
      obtain ⟨⟨second, cs₂⟩, hsecond, hread⟩ := Option.bind_eq_some_iff.1 hread
      have hsome : decisive? f l ≠ none := fun hnone => by
        rw [skip_eq_nil_of_decisive? hnone] at hsecond
        cases hsecond
      obtain ⟨cs₂', hsecond', h₂⟩ := local_classPrimitive ht hrange hsecond
      dsimp only at hread
      split at hread
      · next c d =>
        split at hread
        · next hcd =>
          cases hread
          refine ⟨cs₂', ?_, h₂⟩
          simp [endsAtHyphen_eq ht hl hsome, hends, hsecond', hcd]
        · cases hread
      · cases hread
  · next hnil hhyphen =>
    obtain ⟨s, hs, hread⟩ := Option.bind_eq_some_iff.1 hread
    cases hread
    refine ⟨l', ?_, hskip⟩
    split
    · exact (hnil hskip.eq_nil).elim
    · exact (hskip.ne_cons ht (by decide) hhyphen _ rfl).elim
    · simp [hs]

theorem local_classBody (ht : Closing t) {n n' : Nat} (hn : n ≤ n') {negated : Bool}
    {k : ClassState} {cs cs' : List Char} (h : Continues t cs cs') {s : CodePoints} {depth : Nat}
    {rest : List Char} (hread : classBody f n negated k cs = some (s, depth, rest)) :
    ∃ rest', classBody f n' negated k cs' = some (s, depth, rest') ∧ Continues t rest rest' := by
  induction n generalizing n' negated k cs cs' s depth rest with
  | zero => cases hread
  | succ n ih =>
    obtain ⟨n', rfl⟩ : ∃ k, n' = k + 1 := ⟨n' - 1, by omega⟩
    have hn := Nat.le_of_succ_le_succ hn
    have hskip := h.skip ht f
    unfold classBody at hread ⊢
    dsimp only at hread ⊢
    generalize skip f cs = l at hread hskip
    generalize skip f cs' = l' at hskip ⊢
    split at hread
    · cases hread
    · obtain ⟨l'', rfl, hl⟩ := hskip.cons
      obtain ⟨s', hs', heq⟩ := Option.map_eq_some_iff.1 hread
      cases heq
      exact ⟨l'', by simp [hs'], hl⟩
    · obtain ⟨l'', rfl, hl⟩ := hskip.cons
      obtain ⟨hnone, hsome⟩ := local_asciiClass? ht hl
      split at hread
      · next s₁ not cs₁ hascii =>
        obtain ⟨cs₁', hascii', h₁⟩ := hsome hascii
        split at hread
        · next s₂ hs₂ =>
          obtain ⟨rest', hread', hrest⟩ := ih hn h₁ hread
          refine ⟨rest', ?_, hrest⟩
          simp only [hascii', hs₂]
          exact hread'
        · cases hread
      · next hascii =>
        split at hread
        · cases hread
        · next not inner cs₁ hopen =>
          obtain ⟨cs₁', hopen', h₁⟩ := local_openClass ht hl hopen
          split at hread
          · cases hread
          · next s₂ depth₂ cs₂ hbody =>
            obtain ⟨cs₂', hbody', h₂⟩ := ih hn h₁ hbody
            obtain ⟨rest', hread', hrest⟩ := ih hn h₂ hread
            refine ⟨rest', ?_, hrest⟩
            simp only [hnone hascii, hopen', hbody']
            exact hread'
    · obtain ⟨l'', rfl, hl⟩ := hskip.cons
      obtain ⟨l₂, rfl, hl₂⟩ := hl.cons
      exact ih hn hl₂ hread
    · obtain ⟨l'', rfl, hl⟩ := hskip.cons
      obtain ⟨l₂, rfl, hl₂⟩ := hl.cons
      exact ih hn hl₂ hread
    · obtain ⟨l'', rfl, hl⟩ := hskip.cons
      obtain ⟨l₂, rfl, hl₂⟩ := hl.cons
      exact ih hn hl₂ hread
    · next hnil hclose hopen hand hminus htilde =>
      split at hread
      · cases hread
      · next s₁ cs₁ hrange =>
        obtain ⟨cs₁', hrange', h₁⟩ := local_classRange ht hskip hrange
        obtain ⟨rest', hread', hrest⟩ := ih hn h₁ hread
        refine ⟨rest', ?_, hrest⟩
        split
        · exact (hnil hskip.eq_nil).elim
        · exact (hskip.ne_cons ht (by decide) hclose _ rfl).elim
        · exact (hskip.ne_cons ht (by decide) hopen _ rfl).elim
        · exact (hskip.ne_append ht (p := ['&', '&']) (by decide) hand _ rfl).elim
        · exact (hskip.ne_append ht (p := ['-', '-']) (by decide) hminus _ rfl).elim
        · exact (hskip.ne_append ht (p := ['~', '~']) (by decide) htilde _ rfl).elim
        · rw [hrange']
          exact hread'

theorem local_classItem (ht : Closing t) : Local t (classItem f) := by
  intro cs cs' a rest h hread
  obtain ⟨⟨negated, k, cs₁⟩, hopen, hread⟩ := Option.bind_eq_some_iff.1 hread
  obtain ⟨⟨s, depth, cs₂⟩, hbody, hread⟩ := Option.bind_eq_some_iff.1 hread
  cases hread
  obtain ⟨cs₁', hopen', h₁⟩ := local_openClass ht h hopen
  obtain ⟨cs₂', hbody', h₂⟩ := local_classBody ht (Nat.succ_le_succ h₁.length_le) h₁ hbody
  refine ⟨cs₂', ?_, h₂⟩
  unfold classItem
  rw [hopen']
  simp [hbody']

end Classes

/-! ## Repetitions -/

section Repetitions
variable {t : List Char} {f : Flags}

theorem countDigits_eq (n : Nat) (seen cs : List Char) :
    countDigits f n seen cs =
      ((scan f isAsciiDigit (fun seen c => c :: seen) n seen cs).1.reverse,
        (scan f isAsciiDigit (fun seen c => c :: seen) n seen cs).2) := by
  induction n generalizing seen cs with
  | zero => rfl
  | succ n ih =>
    cases cs with
    | nil => rfl
    | cons c cs =>
      rw [countDigits, scan]
      split
      · exact ih (c :: seen) (skip f cs)
      · rfl

theorem local_count (ht : Closing t) : Local t (count f) := by
  intro cs cs' a rest h hread
  have hblank : isBlank ')' = false := by decide
  have hdrop := h.dropWhile hblank ht
  have hlength : ∀ l : List Char, (l.dropWhile isBlank).length ≤ l.length + 1 :=
    fun l => Nat.le_succ_of_le (List.dropWhile_suffix _).length_le
  obtain ⟨rest₁, hdigits, hrest₁⟩ := local_scan (f := f) (p := isAsciiDigit) ht (by decide)
    (fun seen c => c :: seen) [] hdrop (hlength cs) (hlength cs')
  unfold count at hread ⊢
  rw [countDigits_eq] at hread ⊢
  rw [hdigits]
  generalize scan f isAsciiDigit _ (cs.length + 1) [] (cs.dropWhile isBlank) = read
    at hread hrest₁
  obtain ⟨digits, cs₁⟩ := read
  have hskip := (hrest₁.dropWhile hblank ht).skip ht f
  dsimp only at hread ⊢
  split at hread
  · next hempty =>
    rw [if_pos hempty]
    cases hread
    exact ⟨_, rfl, hskip⟩
  · next hempty =>
    rw [if_neg hempty]
    split at hread
    · next hmax =>
      rw [if_pos hmax]
      cases hread
      exact ⟨_, rfl, hskip⟩
    · cases hread

theorem local_bounds (ht : Closing t) : Local t (bounds f) := by
  intro cs cs' a rest h hread
  obtain ⟨⟨_, cs₁⟩, hmin, hmore⟩ := Option.bind_eq_some_iff.1 hread
  obtain ⟨cs₁', hmin', h₁⟩ := local_count ht (h.skip ht f) hmin
  obtain ⟨min, rfl, hclose⟩ := Option.bind_eq_some_iff.1 hmore
  unfold bounds
  rw [hmin']
  simp only [Option.bind_eq_bind, Option.bind_some]
  split at hclose
  · obtain ⟨l, rfl, hl⟩ := h₁.cons
    cases hclose
    exact ⟨l, rfl, hl⟩
  · next cs₂ =>
    obtain ⟨l, rfl, hl⟩ := h₁.cons
    have hskip := hl.skip ht f
    generalize skip f cs₂ = l₂ at hclose hskip
    split at hclose
    · obtain ⟨l', hl', hrest⟩ := hskip.cons
      cases hclose
      exact ⟨l', by simp [hl'], hrest⟩
    · next hbrace =>
      obtain ⟨⟨_, cs₃⟩, hmax, hmore₃⟩ := Option.bind_eq_some_iff.1 hclose
      obtain ⟨cs₃', hmax', h₃⟩ := local_count ht hskip hmax
      obtain ⟨max, rfl, hclose₃⟩ := Option.bind_eq_some_iff.1 hmore₃
      have hbrace' := hskip.ne_cons ht (by decide) hbrace
      split at hclose₃
      · obtain ⟨l', rfl, hrest⟩ := h₃.cons
        split at hclose₃
        · next hle =>
          cases hclose₃
          exact ⟨l', by simp [hmax', hle], hrest⟩
        · cases hclose₃
      · cases hclose₃
  · cases hclose

theorem local_repeatLast (ht : Closing t) (min : Nat) (max : Option Nat) (items : List Item) :
    Local t (repeatLast f min max items) := by
  intro cs cs' a rest h hread
  unfold repeatLast at hread ⊢
  split at hread
  · cases hread
  · next item items =>
    split at hread
    · cases hread
    · next hflags =>
      rw [if_neg hflags]
      by_cases hlazy : ∀ l, cs = '?' :: l → False
      · have hlazy' := h.ne_cons ht (by decide) hlazy
        simp only at hread
        simp only
        cases hread
        exact ⟨cs', rfl, h⟩
      · obtain ⟨l, rfl⟩ : ∃ l, cs = '?' :: l := by simpa using hlazy
        obtain ⟨l', rfl, hl⟩ := h.cons
        cases hread
        exact ⟨l', rfl, hl⟩

end Repetitions

/-! ## Groups -/

section Groups
variable {t : List Char} {f : Flags}

theorem flagLetters_append (seen cs : List Char) {read : Flags × Bool × List Char}
    (h : flagLetters f seen cs = some read) :
    flagLetters f seen (cs ++ t) = some (read.1, read.2.1, read.2.2 ++ t) := by
  induction cs generalizing f seen with
  | nil => cases h
  | cons c cs ih =>
    rw [List.cons_append]
    unfold flagLetters at h ⊢
    split at h
    · next hend =>
      rw [if_pos hend]
      split at h
      · cases h
      · next hseen =>
        rw [if_neg hseen]
        cases h
        rfl
    · next hend =>
      rw [if_neg hend]
      split at h
      · cases h
      · next hseen =>
        rw [if_neg hseen]
        split at h
        · next hc =>
          rw [if_pos hc]
          exact ih _ h
        · next hc =>
          rw [if_neg hc]
          split at h
          · exact ih _ h
          · cases h

theorem groupName?_append {cs name rest : List Char} (h : groupName? cs = some (name, rest)) :
    groupName? (cs ++ t) = some (name, rest ++ t) := by
  unfold groupName? at h ⊢
  by_cases hclose : '>' ∈ cs
  · obtain ⟨u, v, rfl, hu⟩ := List.eq_append_cons_of_mem hclose
    rw [(span_ne hu _).1, (span_ne hu _).2] at h
    rw [List.append_assoc, List.cons_append, (span_ne hu _).1, (span_ne hu _).2]
    cases u with
    | nil => cases h
    | cons c u =>
      have hname : (if isNameChar true c ∧ u.all (isNameChar false) then some (c :: u, v)
          else none) = some (name, rest) := h
      show (if isNameChar true c ∧ u.all (isNameChar false) then some (c :: u, v ++ t)
          else none) = some (name, rest ++ t)
      split at hname
      · next hchars =>
        rw [if_pos hchars]
        cases hname
        rfl
      · cases hname
  · rw [dropWhile_ne_eq_nil hclose] at h
    dsimp only at h
    split at h
    · next heq => cases heq
    · cases h

theorem local_groupName? : Local t groupName? := by
  intro cs cs' name rest h hread
  cases h with
  | followed => exact ⟨rest ++ t, groupName?_append hread, .followed rest⟩
  | swallowed => cases hread

/-- How a group opens behind its question mark, if it has no name. -/
def flagGroup? (f : Flags) (cs : List Char) : Option (Opening × List Char) :=
  match flagLetters f [] cs with
  | some (f, some?, ')' :: cs) => if some? then some (.flags f, cs) else none
  | some (f, _, ':' :: cs) => some (.plain f, cs)
  | _ => none

theorem local_flagGroup : Local t (flagGroup? f) := by
  intro cs cs' a rest h hread
  cases h with
  | swallowed => cases hread
  | followed =>
    unfold flagGroup? at hread ⊢
    split at hread
    · next hletters =>
      rw [flagLetters_append [] cs hletters]
      split at hread
      · next hsome =>
        cases hread
        exact ⟨rest ++ t, by simp [hsome], .followed rest⟩
      · cases hread
    · next hletters =>
      rw [flagLetters_append [] cs hletters]
      cases hread
      exact ⟨rest ++ t, rfl, .followed rest⟩
    · cases hread

theorem local_opening (ht : Closing t) : Local t (opening f) := by
  intro cs cs' a rest h hread
  have hskip := h.skip ht f
  unfold opening at hread ⊢
  generalize skip f cs = l at hread hskip
  generalize skip f cs' = l' at hskip ⊢
  split at hread
  · cases hread
  · cases hread
  · cases hread
  · cases hread
  · obtain ⟨l₁, rfl, h₁⟩ := hskip.cons
    obtain ⟨l₂, rfl, h₂⟩ := h₁.cons
    obtain ⟨l₃, rfl, h₃⟩ := h₂.cons
    exact local_groupName?.map (fun name => Opening.capture (some name)) h₃ hread
  · next hequal hbang =>
    obtain ⟨l₁, rfl, h₁⟩ := hskip.cons
    obtain ⟨l₂, rfl, h₂⟩ := h₁.cons
    obtain ⟨rest', hread', hrest⟩ :=
      local_groupName?.map (fun name => Opening.capture (some name)) h₂ hread
    refine ⟨rest', ?_, hrest⟩
    split
    · next heq => cases heq
    · next heq => cases heq
    · next heq =>
      cases heq
      exact (h₂.ne_cons ht (by decide) hequal _ rfl).elim
    · next heq =>
      cases heq
      exact (h₂.ne_cons ht (by decide) hbang _ rfl).elim
    · next heq => cases heq
    · next heq =>
      cases heq
      exact hread'
    · next hname heq =>
      cases heq
      exact (hname _ rfl).elim
    · next hquestion => exact (hquestion _ rfl).elim
  · next l hequal hbang hbehind hnotBehind hnamed hname =>
    obtain ⟨l₁, rfl, h₁⟩ := hskip.cons
    split
    · next heq =>
      cases heq
      exact (h₁.ne_cons ht (by decide) hequal _ rfl).elim
    · next heq =>
      cases heq
      exact (h₁.ne_cons ht (by decide) hbang _ rfl).elim
    · next heq =>
      cases heq
      exact (h₁.ne_append ht (p := ['<', '=']) (by decide) hbehind _ rfl).elim
    · next heq =>
      cases heq
      exact (h₁.ne_append ht (p := ['<', '!']) (by decide) hnotBehind _ rfl).elim
    · next heq =>
      cases heq
      exact (h₁.ne_append ht (p := ['P', '<']) (by decide) hnamed _ rfl).elim
    · next heq =>
      cases heq
      exact (h₁.ne_cons ht (by decide) hname _ rfl).elim
    · next heq =>
      cases heq
      exact local_flagGroup h₁ hread
    · next hquestion => exact (hquestion _ rfl).elim
  · next hquestion =>
    cases hread
    refine ⟨l', ?_, hskip⟩
    have hquestion' := hskip.ne_cons ht (by decide) hquestion
    split
    iterate 7 exact (hquestion' _ rfl).elim
    rfl

end Groups

/-! ## Expressions -/

section Expressions
variable {t : List Char}

/-- A repetition is read the same, if all that follows is. -/
theorem local_repeated (ht : Closing t) (f : Flags) (min : Nat) (max : Option Nat)
    (items : List Item) (read read' : List Item → List Char → Option (Item × Cursor))
    {item : Item} {s₁ : Cursor}
    (hnext : ∀ {items l l'}, Continues t l l' → read items l = some (item, s₁) →
      ∃ rest₁', read' items l' = some (item, s₁.at rest₁') ∧ Continues t s₁.rest rest₁')
    {l l' : List Char} (hl : Continues t l l')
    (hread : (match repeatLast f min max items l with
      | some (items, rest) => read items rest
      | none => none) = some (item, s₁)) :
    ∃ rest₁', (match repeatLast f min max items l' with
        | some (items, rest) => read' items rest
        | none => none) = some (item, s₁.at rest₁') ∧ Continues t s₁.rest rest₁' := by
  split at hread
  · next items' rest hrepeat =>
    obtain ⟨rest', hrepeat', hrest⟩ := local_repeatLast ht min max items hl hrepeat
    rw [hrepeat']
    exact hnext hrest hread
  · cases hread

/-- Alternatives are read the same if a parenthesis closes them. -/
theorem local_alternatives (ht : Closing t) {n n' : Nat} (hn : n ≤ n') {done items : List Item}
    {s : Cursor} {rest' : List Char} (h : Continues t s.rest rest') {item : Item} {s₁ : Cursor}
    (hread : alternatives n done items s = some (item, s₁)) :
    ∃ rest₁', alternatives n' done items (s.at rest') = some (item, s₁.at rest₁') ∧
      Continues t s₁.rest rest₁' := by
  induction n generalizing n' done items s rest' item s₁ with
  | zero => cases hread
  | succ n ih =>
    obtain ⟨n', rfl⟩ : ∃ k, n' = k + 1 := ⟨n' - 1, by omega⟩
    have hn := Nat.le_of_succ_le_succ hn
    have hskip := h.skip ht s.flags
    have hgo : ∀ {done items : List Item} (s : Cursor) {l l' : List Char}, Continues t l l' →
        alternatives n done items (s.at l) = some (item, s₁) →
        ∃ rest₁', alternatives n' done items (s.at l') = some (item, s₁.at rest₁') ∧
          Continues t s₁.rest rest₁' := fun s l l' hl hread => ih (s := s.at l) hn hl hread
    have hagain (min : Nat) (max : Option Nat) {l l' : List Char} (hl : Continues t l l') :=
      local_repeated ht s.flags min max items
        (fun items rest => alternatives n done items (s.at rest))
        (fun items rest => alternatives n' done items (s.at rest)) (hgo s) hl
    unfold alternatives at hread ⊢
    dsimp only [Cursor.at] at hread ⊢
    generalize skip s.flags s.rest = l at hread hskip
    generalize skip s.flags rest' = l' at hskip ⊢
    split at hread
    · cases hread
      rcases hskip.nil ht with ⟨t', rfl⟩ | rfl <;> exact ⟨_, rfl, hskip⟩
    · obtain ⟨l'', rfl, hl⟩ := hskip.cons
      cases hread
      exact ⟨_, rfl, hskip⟩
    · obtain ⟨l'', rfl, hl⟩ := hskip.cons
      exact hgo s hl hread
    · obtain ⟨l'', rfl, hl⟩ := hskip.cons
      exact hagain _ _ hl hread
    · obtain ⟨l'', rfl, hl⟩ := hskip.cons
      exact hagain _ _ hl hread
    · obtain ⟨l'', rfl, hl⟩ := hskip.cons
      exact hagain _ _ hl hread
    · obtain ⟨l'', rfl, hl⟩ := hskip.cons
      split at hread
      · next min max rest hbounds =>
        obtain ⟨rest', hbounds', hrest⟩ := local_bounds ht hl hbounds
        simp only [hbounds']
        exact hagain _ _ (hrest.skip ht s.flags) hread
      · cases hread
    · obtain ⟨l'', rfl, hl⟩ := hskip.cons
      split at hread
      · next item' rest hclass =>
        obtain ⟨rest', hclass', hrest⟩ := local_classItem ht hl hclass
        simp only [hclass']
        exact hgo s hrest hread
      · cases hread
    · obtain ⟨l'', rfl, hl⟩ := hskip.cons
      split at hread
      · next set hdot =>
        simp only
        exact hgo s hl hread
      · cases hread
    · obtain ⟨l'', rfl, hl⟩ := hskip.cons
      exact hgo s hl hread
    · obtain ⟨l'', rfl, hl⟩ := hskip.cons
      exact hgo s hl hread
    · obtain ⟨l'', rfl, hl⟩ := hskip.cons
      split at hread
      · next primitive rest hescape =>
        obtain ⟨rest', hescape', hrest⟩ := local_escape ht hl hescape
        simp only [hescape']
        exact hgo s hrest hread
      · cases hread
    · obtain ⟨l'', rfl, hl⟩ := hskip.cons
      split at hread
      · cases hread
      · next f rest hopening =>
        obtain ⟨rest', hopening', hrest⟩ := local_opening ht hl hopening
        simp only [hopening']
        exact hgo { s with flags := f } hrest hread
      · next inner rest hopening =>
        obtain ⟨rest', hopening', hrest⟩ := local_opening ht hl hopening
        simp only [hopening']
        split at hread
        · next item' rest₂ flags groups names hinner =>
          obtain ⟨rest₂', hinner', hrest₂⟩ :=
            ih (s := ⟨rest, inner, s.groups, s.names⟩) hn hrest hinner
          obtain ⟨l₂, rfl, hl₂⟩ := hrest₂.cons
          dsimp only [Cursor.at] at hinner'
          rw [hinner']
          exact hgo ⟨rest₂, s.flags, groups, names⟩ hl₂ hread
        · cases hread
      · next name rest hopening =>
        obtain ⟨rest', hopening', hrest⟩ := local_opening ht hl hopening
        simp only [hopening']
        split at hread
        · cases hread
        · next hname =>
          simp only [hname, Bool.false_eq_true, if_false]
          split at hread
          · next item' rest₂ flags groups names hinner =>
            obtain ⟨rest₂', hinner', hrest₂⟩ :=
              ih (s := ⟨rest, s.flags, s.groups + 1, name.toList ++ s.names⟩) hn hrest hinner
            obtain ⟨l₂, rfl, hl₂⟩ := hrest₂.cons
            dsimp only [Cursor.at] at hinner'
            rw [hinner']
            exact hgo ⟨rest₂, s.flags, groups, names⟩ hl₂ hread
          · cases hread
    · obtain ⟨l'', rfl, hl⟩ := hskip.cons
      simp only
      exact hgo s hl hread

/-- An expression is read the same if a parenthesis closes it. -/
theorem local_parse? (ht : Closing t) {text : List Char} {r : Regex} (h : parse? text = some r)
    {n : Nat} (hn : text.length < n) :
    ∃ (item : Item) (s : Cursor) (rest : List Char), item.regex = r ∧
      alternatives n [] [] (.start (text ++ t)) = some (item, s.at rest) ∧
      Continues t [] rest := by
  unfold parse? at h
  split at h
  · next item flags groups names hread =>
    split at h
    · cases h
      obtain ⟨rest, hread', hrest⟩ := local_alternatives ht hn (.followed text) hread
      exact ⟨item, _, rest, rfl, hread', hrest⟩
    · cases h
  · cases h

end Expressions

end Switchboard.Regex.Parser
