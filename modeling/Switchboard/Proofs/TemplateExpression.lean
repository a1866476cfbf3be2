import Switchboard.Proofs.Ways
import Switchboard.Proofs.TemplateSource

/-!
# Expressions of outlines

The source of an outline reads as the expressions of its pieces, between tests of both ends:

    parse? (source t.text) = some (regexOf t.pieces)    (parse?_source)

An outline is never nested too deep, so it is compiled exactly if the engine has room for its
expression (`compile_text`).
-/

namespace Switchboard.Template

open Regex (ofParts mark)
open Regex.Parser

/-! ## Expressions of pieces -/

/-- Any character but a line end. -/
def lineChar : CodePoints := (CodePoints.single 10).complement

/-- As little as possible of a line. -/
def lazyLine : Regex := .loop (.one lineChar) 0 none false

/-- The parts of a capture group of as little as possible. -/
def capture (index : Nat) : List Regex := [mark (2 * index), lazyLine, mark (2 * index + 1)]

def blank : Regex := .one (.single ' '.toNat)

namespace Piece

/-- The parts of the expression of a piece whose placeholder is the group of this number. -/
def regexes (index : Nat) : Piece → List Regex
  | char c => [.one (.single c.toNat)]
  | text => capture index
  | option => [.loop (ofParts (blank :: capture index)) 0 (some 1) true]

/-- How many groups a piece has. -/
def groups : Piece → Nat
  | char _ => 0
  | text | option => 1

end Piece

/-- The parts of the expression of pieces that follow so many groups. -/
def regexesOf (groups : Nat) : List Piece → List Regex
  | [] => []
  | p :: ps => p.regexes (groups + 1) ++ regexesOf (groups + p.groups) ps

def regexOf (ps : List Piece) : Regex :=
  ofParts (.look .textStart :: (regexesOf 0 ps ++ [.look .textEnd]))

/-! ## Reading pieces -/

/-- A place in an expression without names and flags. -/
def cursor (cs : List Char) (groups : Nat) : Cursor := ⟨cs, {}, groups, []⟩

/-- How a piece is read. -/
def Piece.item (index : Nat) : Piece → Item
  | char c => ⟨.one (.single c.toNat), 0, false⟩
  | text => ⟨.group index lazyLine, 2, false⟩
  | option => ⟨.loop (ofParts (blank :: capture index)) 0 (some 1) true, 5, false⟩

/-- How much of the fuel that a piece is given is left after it. -/
def Piece.spare : Piece → Nat
  | char _ => 0
  | text => 4
  | option => 9

theorem alternatives_char {c : Char} (hc : Part.isPlain c = true ∨ c = '\n') (fuel : Nat)
    (items : List Item) (cs : List Char) (g : Nat) :
    alternatives (fuel + 1) [] items (cursor (c :: cs) g) =
      alternatives fuel [] (⟨.one (.single c.toNat), 0, false⟩ :: items) (cursor cs g) := by
  simp only [Part.isPlain, braceOpen, braceClose] at hc
  simp only [alternatives, cursor, skip]
  simp only [Bool.false_eq_true, if_false]
  split
  all_goals simp_all [Primitive.item, charSet, Cursor.at]

theorem alternatives_text (fuel : Nat) (items : List Item) (cs : List Char) (g : Nat) :
    alternatives (fuel + 5) [] items (cursor (requiredGroup ++ cs) g) =
      alternatives (fuel + 4) [] (Piece.text.item (g + 1) :: items) (cursor cs (g + 1)) := by
  rfl

/-- A repetition that no question mark follows is greedy. -/
theorem repeatLast_cons {item : Item} (hi : item.isFlags = false) (low : Nat) (high : Option Nat)
    (items : List Item) {d : Char} (hd : d ≠ '?') (cs : List Char) :
    repeatLast {} low high (item :: items) (d :: cs) =
      some (⟨.repeated item.regex low high true, item.depth + 1, false⟩ :: items, d :: cs) := by
  simp only [repeatLast, hi, Bool.false_eq_true, if_false]
  split
  · rename_i heq
    exact absurd (List.cons.inj heq).1 hd
  · rfl

/-- A question mark that no other one follows makes the last part optional. -/
theorem alternatives_questionMark (fuel : Nat) {item : Item} (hi : item.isFlags = false)
    (items : List Item) {d : Char} (hd : d ≠ '?') (cs : List Char) (g : Nat) :
    alternatives (fuel + 1) [] (item :: items) (cursor ('?' :: d :: cs) g) =
      alternatives fuel [] (⟨.repeated item.regex 0 (some 1) true, item.depth + 1, false⟩ :: items)
        (cursor (d :: cs) g) := by
  have hrepeat := repeatLast_cons hi 0 (some 1) items hd cs
  simp only [alternatives, cursor, skip, Bool.false_eq_true, if_false, hrepeat]
  rfl

theorem alternatives_option (fuel : Nat) (items : List Item) {d : Char} (hd : d ≠ '?')
    (cs : List Char) (g : Nat) :
    alternatives (fuel + 11) [] items (cursor (optionalGroup ++ d :: cs) g) =
      alternatives (fuel + 9) [] (Piece.option.item (g + 1) :: items)
        (cursor (d :: cs) (g + 1)) := by
  have hgroup : alternatives (fuel + 11) [] items (cursor (optionalGroup ++ d :: cs) g) =
      alternatives (fuel + 10) [] (⟨ofParts (blank :: capture (g + 1)), 4, false⟩ :: items)
        (cursor ('?' :: d :: cs) (g + 1)) := by
    rfl
  rw [hgroup, alternatives_questionMark _ rfl _ hd]
  rfl

/-- Pieces whose characters stand for themselves: they are plain or end a line. -/
def Literal (ps : List Piece) : Prop := ∀ c, .char c ∈ ps → Part.isPlain c = true ∨ c = '\n'

/-- The step lemma of reading: one piece, in front of what cannot be part of it. -/
theorem alternatives_piece {p : Piece} {ps : List Piece} (hp : Literal (p :: ps)) (fuel : Nat)
    (items : List Item) {d : Char} (hd : d ≠ '?') (cs : List Char) (g : Nat) :
    alternatives (fuel + p.source.length) [] items (cursor (p.source ++ d :: cs) g) =
      alternatives (fuel + p.spare) [] (p.item (g + 1) :: items)
        (cursor (d :: cs) (g + p.groups)) := by
  cases p with
  | char c => exact alternatives_char (hp c List.mem_cons_self) fuel items (d :: cs) g
  | text => exact alternatives_text fuel items (d :: cs) g
  | option => exact alternatives_option fuel items hd cs g

/-- How pieces are read that follow so many groups. -/
def itemsOf (groups : Nat) : List Piece → List Item
  | [] => []
  | p :: ps => p.item (groups + 1) :: itemsOf (groups + p.groups) ps

/-- No source of pieces starts with a question mark. -/
theorem exists_source_cons {ps : List Piece} (hps : Literal ps) :
    ∃ d cs, sourceOf ps ++ ['$'] = d :: cs ∧ d ≠ '?' := by
  cases ps with
  | nil => exact ⟨'$', [], rfl, by decide⟩
  | cons p ps =>
    cases p with
    | char c =>
      refine ⟨c, _, rfl, ?_⟩
      rintro rfl
      exact absurd (hps '?' List.mem_cons_self) (by decide)
    | text => exact ⟨'(', _, rfl, by decide⟩
    | option => exact ⟨'(', _, rfl, by decide⟩

/-- The run lemma of reading: all pieces, up to the end. -/
theorem alternatives_source {ps : List Piece} (hps : Literal ps) :
    ∀ (fuel : Nat) (items : List Item) (g : Nat), ∃ g',
      alternatives (fuel + (sourceOf ps).length + 2) [] items (cursor (sourceOf ps ++ ['$']) g) =
        some (closeItem [] (⟨.look .textEnd, 0, false⟩ :: ((itemsOf g ps).reverse ++ items)),
          cursor [] g') := by
  induction ps with
  | nil => exact fun fuel items g => ⟨g, rfl⟩
  | cons p ps ih =>
    intro fuel items g
    have hps' : Literal ps := fun c hc => hps c (List.mem_cons_of_mem _ hc)
    obtain ⟨d, cs, hcons, hd⟩ := exists_source_cons hps'
    obtain ⟨g', hrest⟩ := ih hps' (fuel + p.spare) (p.item (g + 1) :: items) (g + p.groups)
    -- a piece is given as much fuel as it has characters; what it spares goes to the others
    have hfuel : fuel + (sourceOf (p :: ps)).length + 2 =
        fuel + (sourceOf ps).length + 2 + p.source.length := by
      simp only [sourceOf, List.flatMap_cons, List.length_append]
      omega
    have hspare : fuel + (sourceOf ps).length + 2 + p.spare =
        fuel + p.spare + (sourceOf ps).length + 2 := by omega
    have hsource : sourceOf (p :: ps) ++ ['$'] = p.source ++ d :: cs := by
      rw [← hcons, sourceOf, List.flatMap_cons, List.append_assoc]
      rfl
    refine ⟨g', ?_⟩
    rw [hfuel, hsource, alternatives_piece hps _ _ hd, hspare, ← hcons, hrest]
    simp [itemsOf]

/-! ## The whole -/

theorem parts_item (p : Piece) (index : Nat) : (p.item index).regex.parts = p.regexes index := by
  cases p <;> rfl

theorem parts_itemsOf (ps : List Piece) (g : Nat) :
    ((itemsOf g ps).map (·.regex)).flatMap Regex.parts = regexesOf g ps := by
  induction ps generalizing g with
  | nil => rfl
  | cons p ps ih =>
    rw [itemsOf, List.map_cons, List.flatMap_cons, parts_item, ih, regexesOf]

theorem depth_itemsOf {ps : List Piece} {g : Nat} : ∀ i ∈ itemsOf g ps, i.depth ≤ 5 := by
  induction ps generalizing g with
  | nil => exact fun i hi => absurd hi List.not_mem_nil
  | cons p ps ih =>
    refine List.forall_mem_cons.2 ⟨?_, ih⟩
    cases p <;> simp [Piece.item]

/-- A maximum over a list is bounded by what bounds all of it. -/
theorem foldl_max_le_iff {α : Type} (f : α → Nat) {l : List α} {n b : Nat} :
    l.foldl (fun n a => Nat.max n (f a)) n ≤ b ↔ n ≤ b ∧ ∀ a ∈ l, f a ≤ b := by
  induction l generalizing n with
  | nil => simp
  | cons a l ih =>
    rw [List.foldl_cons, ih, List.forall_mem_cons, ← and_assoc]
    exact and_congr_left' Nat.max_le

/-- The item of a whole source, and how it is nested. -/
theorem closeItem_source (ps : List Piece) :
    ∃ depth, depth ≤ 6 ∧
      closeItem [] (⟨.look .textEnd, 0, false⟩ ::
        ((itemsOf 0 ps).reverse ++ [⟨.look .textStart, 0, false⟩])) =
      ⟨regexOf ps, depth, false⟩ := by
  have hparts := parts_itemsOf ps 0
  have hdepth : ∀ i ∈ (⟨.look .textEnd, 0, false⟩ ::
      ((itemsOf 0 ps).reverse ++ [⟨.look .textStart, 0, false⟩]) : List Item), i.depth ≤ 5 := by
    intro i hi
    rcases List.mem_cons.1 hi with rfl | hi
    · exact Nat.zero_le _
    · rcases List.mem_append.1 hi with hi | hi
      · exact depth_itemsOf i (List.mem_reverse.1 hi)
      · rw [List.mem_singleton.1 hi]
        exact Nat.zero_le _
  refine ⟨_, Nat.succ_le_succ ((foldl_max_le_iff _).2 ⟨Nat.zero_le 5, hdepth⟩), ?_⟩
  have hregex : Regex.sequence (((⟨.look .textEnd, 0, false⟩ ::
      ((itemsOf 0 ps).reverse ++ [⟨.look .textStart, 0, false⟩]) : List Item).reverse).map
        (·.regex)) = regexOf ps := by
    rw [Regex.sequence, regexOf, ← hparts]
    simp [Regex.parts]
  have hseq : ∀ (a b : Item) (l : List Item), sequenceItem (a :: (l ++ [b])) =
      ⟨Regex.sequence ((a :: (l ++ [b])).reverse.map (·.regex)),
        (a :: (l ++ [b])).foldl (fun d i => Nat.max d i.depth) 0 + 1, false⟩ := by
    intro a b l
    cases l <;> rfl
  rw [closeItem, hseq, hregex]
  rfl

theorem parse?_source {ps : List Piece} (hps : Literal ps) :
    Regex.parse? ('^' :: sourceOf ps ++ ['$']) =
      some (regexOf ps) := by
  obtain ⟨g, hread⟩ := alternatives_source hps 0 [⟨.look .textStart, 0, false⟩] 0
  obtain ⟨depth, hdepth, hitem⟩ := closeItem_source ps
  have hlength : ('^' :: sourceOf ps ++ ['$']).length + 1 = 0 + (sourceOf ps).length + 2 + 1 := by
    simp
  have hstart : alternatives (0 + (sourceOf ps).length + 2 + 1) [] []
      (.start ('^' :: sourceOf ps ++ ['$'])) =
        alternatives (0 + (sourceOf ps).length + 2) [] [⟨.look .textStart, 0, false⟩]
          (cursor (sourceOf ps ++ ['$']) 0) := rfl
  have hmax : depth ≤ maxDepth := Nat.le_trans hdepth (by decide)
  rw [Regex.parse?, hlength, hstart, hread, hitem]
  simp [cursor, hmax]

/-! ## Parts -/

/-- Whether a part is regular and, if it is a character, has no meaning in expressions. -/
def Part.isOrdinary : Part → Bool
  | char c => isPlain c || c == '\n'
  | p => p.isRegular

theorem Part.isRegular_of_isOrdinary {p : Part} (h : p.isOrdinary = true) :
    p.isRegular = true := by
  cases p with
  | char c =>
    rcases Bool.or_eq_true_iff.1 h with h | h
    · exact Part.isRegular_of_isWellFormed h
    · rw [beq_iff_eq.1 h]
      decide
  | required name => exact h
  | optional name => exact h

theorem Part.isOrdinary_of_isWellFormed {p : Part} (h : p.isWellFormed = true) :
    p.isOrdinary = true := by
  cases p with
  | char c => exact Bool.or_eq_true_iff.2 (.inl h)
  | required name => exact h
  | optional name => exact h

theorem literal_piecesOf {ps : List Part} (hps : ∀ p ∈ ps, p.isOrdinary = true) :
    Literal (piecesOf ps) := by
  induction ps with
  | nil => exact fun c hc => absurd hc List.not_mem_nil
  | cons p ps ih =>
    obtain ⟨hp, hps⟩ := List.forall_mem_cons.1 hps
    intro c hc
    rcases List.mem_append.1 hc with hc | hc
    · cases p with
      | char d =>
        rw [Part.pieces] at hc
        split at hc
        · cases hc
        · cases List.mem_singleton.1 hc
          simpa [Part.isOrdinary] using hp
      | required name => cases List.mem_singleton.1 hc
      | optional name => cases List.mem_singleton.1 hc
    · exact ih hps c hc

section Compiling
variable [Regex.Capacity]

/-- Parts that are taken as a template give an expression exactly if the engine has room for it. -/
theorem ofTemplate_textOf {ps : List Part} (hps : ∀ p ∈ ps, p.isOrdinary = true)
    (happart : ps.IsChain fun p q => p.mayPrecede q = true) :
    Expression.ofTemplate (String.ofList (textOf ps)) =
      if Regex.Capacity.fits (regexOf (piecesOf ps)) then
        .ok ⟨source (String.ofList (textOf ps)), regexOf (piecesOf ps)⟩
      else .error (.invalid (source (String.ofList (textOf ps)))) := by
  have hregular : ∀ p ∈ ps, p.isRegular = true := fun p hp =>
    Part.isRegular_of_isOrdinary (hps p hp)
  have hsource : (source (String.ofList (textOf ps))).toList =
      '^' :: sourceOf (piecesOf ps) ++ ['$'] := by
    rw [source_textOf hregular happart, String.toList_ofList]
  rw [Expression.ofTemplate, Expression.ofSource, Regex.compile?, hsource,
    parse?_source (literal_piecesOf hps)]
  by_cases hfits : Regex.Capacity.fits (regexOf (piecesOf ps)) = true
  · rw [Option.filter_some, if_pos hfits, if_pos hfits]
  · rw [Option.filter_some, if_neg hfits, if_neg hfits]

/-- So do parts with a placeholder: it tells them from a delimited text. -/
theorem compile_textOf {ps : List Part} (hps : ∀ p ∈ ps, p.isOrdinary = true)
    (happart : ps.IsChain fun p q => p.mayPrecede q = true)
    (h : ∃ p ∈ ps, p.isPlaceholder = true) :
    Expression.compile (String.ofList (textOf ps)) =
      if Regex.Capacity.fits (regexOf (piecesOf ps)) then
        .ok ⟨source (String.ofList (textOf ps)), regexOf (piecesOf ps)⟩
      else .error (.invalid (source (String.ofList (textOf ps)))) := by
  have hregular : ∀ p ∈ ps, p.isRegular = true := fun p hp =>
    Part.isRegular_of_isOrdinary (hps p hp)
  have htemplate : Expression.compile (String.ofList (textOf ps)) =
      Expression.ofTemplate (String.ofList (textOf ps)) := by
    simp [Expression.compile, hasPlaceholders_textOf hregular h]
  rw [htemplate, ofTemplate_textOf hps happart]

/-- An outline gives an expression exactly if the engine has room for it. -/
theorem compile_text (t : Outline) :
    Expression.compile t.text =
      if Regex.Capacity.fits (regexOf t.pieces) then .ok ⟨source t.text, regexOf t.pieces⟩
      else .error (.invalid (source t.text)) := by
  rw [Outline.pieces, pieces_eq_piecesOf t.isWellFormed]
  exact compile_textOf (fun p hp => Part.isOrdinary_of_isWellFormed (t.isWellFormed p hp))
    t.isApart t.hasPlaceholder

end Compiling

end Switchboard.Template
