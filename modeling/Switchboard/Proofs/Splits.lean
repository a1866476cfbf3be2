import Mathlib.Data.List.Chain
import Switchboard.Template.Expansion

/-!
# What templates stand for

An outline is a template in parts: plain characters and placeholders. Its pieces say which texts it
stands for, and which way to split a text into them is preferred.

    pieces "/ban {user} {:time?}"  =  '/' 'b' 'a' 'n' ' ' text option

The pieces decide from left to right (`Before`): a text prefers to be shorter, and an option prefers
to be there and then to be shorter. The splits of a text are listed in that order (`splits`), so the
first of the list is the preferred one (`head?_splits`).
-/

namespace Switchboard.Template

/-! ## Outlines -/

/-- A part of a template: a character that stands for itself, or a placeholder with its name. -/
inductive Part where
  | char (c : Char)
  | required (name : List Char)
  | optional (name : List Char)
deriving DecidableEq

namespace Part

def text : Part → List Char
  | char c => [c]
  | required name => braceOpen :: (name ++ [braceClose])
  | optional name => braceOpen :: ':' :: (name ++ ['?', braceClose])

/-- Characters that end no line and have no meaning in expressions. -/
def isPlain (c : Char) : Bool :=
  !(['\n', '\\', '.', '+', '*', '?', '(', ')', '|', '[', ']', braceOpen, braceClose, '^',
    '$'].contains c)

def isInName (c : Char) : Bool := c ≠ braceOpen ∧ c ≠ braceClose ∧ c ≠ '\n'

def isWellFormed : Part → Bool
  | char c => isPlain c
  | required name => name.all isInName && name.head? != some ':'
  | optional name => name.all isInName

def isPlaceholder : Part → Bool
  | char _ => false
  | required _ | optional _ => true

/-- Whether two parts may follow each other: no optional placeholder comes right after a required
one, whose closing brace it would take with it. -/
def mayPrecede : Part → Part → Bool
  | required _, optional _ => false
  | _, _ => true

end Part

/-- A template in parts. -/
structure Outline where
  parts : List Part
  isWellFormed : ∀ p ∈ parts, p.isWellFormed = true
  isApart : parts.IsChain fun p q => p.mayPrecede q = true
  hasPlaceholder : ∃ p ∈ parts, p.isPlaceholder = true

/-- The text of parts. -/
def textOf (ps : List Part) : List Char := ps.flatMap Part.text

def Outline.text (t : Outline) : String := String.ofList (textOf t.parts)

/-! ## Pieces -/

/-- What a part stands for. -/
inductive Piece where
  /-- The character itself. -/
  | char (c : Char)
  /-- Any text without a line end. -/
  | text
  /-- Nothing, or a blank and any text without a line end. -/
  | option

/-- The pieces of parts. An optional placeholder takes the character in front of it with it. -/
def pieces : List Part → List Piece
  | [] => []
  | .char _ :: .optional _ :: ps => .option :: pieces ps
  | .char c :: ps => .char c :: pieces ps
  | .required _ :: ps => .text :: pieces ps
  | .optional _ :: ps => .option :: pieces ps

def Outline.pieces (t : Outline) : List Piece := Template.pieces t.parts

/-! ## Splits -/

/-- The texts of placeholders, in order; an option that is not there has none. -/
abbrev Texts := List (Option (List Char))

/-- Whether a text is made of pieces, with these texts for the placeholders. -/
inductive Split : List Piece → List Char → Texts → Prop where
  | nil : Split [] [] []
  | char {c ps s ts} : Split ps s ts → Split (.char c :: ps) (c :: s) ts
  | text {t ps s ts} : '\n' ∉ t → Split ps s ts → Split (.text :: ps) (t ++ s) (some t :: ts)
  | present {t ps s ts} :
    '\n' ∉ t → Split ps s ts → Split (.option :: ps) (' ' :: (t ++ s)) (some t :: ts)
  | absent {ps s ts} : Split ps s ts → Split (.option :: ps) s (none :: ts)

/-- Whether a text for a placeholder is preferred to another one: it is there and the other is not,
or it is shorter. -/
def Nearer : Option (List Char) → Option (List Char) → Prop
  | some t, some u => t.length < u.length
  | some _, none => True
  | none, _ => False

/-- Whether texts for placeholders are preferred: the first one in which they differ decides. -/
abbrev Before : Texts → Texts → Prop := List.Lex Nearer

/-- Whether a split is preferred to all others. -/
def Preferred (ps : List Piece) (s : List Char) (ts : Texts) : Prop :=
  Split ps s ts ∧ ∀ us, Split ps s us → us = ts ∨ Before ts us

/-- The texts of placeholders that are there and not empty. -/
def taken (ts : Texts) : List String := (ts.filterMap (·.map String.ofList)).filter (· != "")

/-! ## The list of splits -/

/-- The ways to take a text without a line end from the front, the shortest first, each with what
is left. -/
def fronts : List Char → List (List Char × List Char)
  | [] => [([], [])]
  | c :: s =>
    ([], c :: s) :: if c = '\n' then [] else (fronts s).map fun (t, rest) => (c :: t, rest)

/-- A front that is the text of a placeholder. -/
def asText (front : List Char × List Char) : Texts × List Char := ([some front.1], front.2)

/-- The ways to take a piece from the front of a text: the texts of its placeholder, if it has one,
and what is left. -/
def Piece.readings : Piece → List Char → List (Texts × List Char)
  | char c, s => if s.head? = some c then [([], s.tail)] else []
  | text, s => (fronts s).map asText
  | option, s =>
    (if s.head? = some ' ' then (fronts s.tail).map asText else []) ++ [([none], s)]

/-- The splits of a text, those first that are preferred. -/
def splits : List Piece → List Char → List Texts
  | [], s => if s.isEmpty then [[]] else []
  | p :: ps, s => (p.readings s).flatMap fun (ts, rest) => (splits ps rest).map (ts ++ ·)

/-! ## Fronts -/

theorem mem_fronts {s t rest : List Char} : (t, rest) ∈ fronts s ↔ '\n' ∉ t ∧ t ++ rest = s := by
  induction s generalizing t with
  | nil =>
    constructor
    · intro h
      obtain ⟨rfl, rfl⟩ := Prod.mk.inj (List.mem_singleton.1 h)
      exact ⟨List.not_mem_nil, rfl⟩
    · rintro ⟨-, h⟩
      obtain ⟨rfl, rfl⟩ := List.append_eq_nil_iff.1 h
      exact List.mem_singleton_self _
  | cons c s ih =>
    unfold fronts
    cases t with
    | nil =>
      have hnil : ([], rest) ∉
          (if c = '\n' then [] else (fronts s).map fun (t, rest) => (c :: t, rest)) := by
        split <;> simp
      simp [hnil]
    | cons d t =>
      by_cases hc : c = '\n'
      · simp only [hc, if_true, List.mem_singleton, Prod.mk.injEq, reduceCtorEq, false_and,
          false_iff, not_and, List.cons_append, List.cons.injEq]
        rintro hd rfl
        exact absurd List.mem_cons_self hd
      · have hmap : (d :: t, rest) ∈ (fronts s).map (fun (t, rest) => (c :: t, rest)) ↔
            c = d ∧ (t, rest) ∈ fronts s := by
          simp [and_left_comm]
        rw [if_neg hc, List.mem_cons, hmap, ih]
        simp only [Prod.mk.injEq, reduceCtorEq, false_and, false_or, List.mem_cons, not_or,
          List.cons_append, List.cons.injEq]
        constructor
        · rintro ⟨rfl, ht, rfl⟩
          exact ⟨⟨Ne.symm hc, ht⟩, rfl, rfl⟩
        · rintro ⟨⟨-, ht⟩, rfl, rfl⟩
          exact ⟨rfl, ht, rfl⟩

theorem pairwise_fronts (s : List Char) :
    (fronts s).Pairwise fun a b => a.1.length < b.1.length := by
  induction s with
  | nil => exact List.pairwise_singleton _ _
  | cons c s ih =>
    unfold fronts
    split
    · exact List.pairwise_singleton _ _
    · refine List.pairwise_cons.2 ⟨fun a ha => ?_, List.pairwise_map.2 (ih.imp Nat.succ_lt_succ)⟩
      obtain ⟨b, -, rfl⟩ := List.mem_map.1 ha
      exact Nat.succ_pos _

/-! ## All splits are listed -/

theorem split_cons_iff {p : Piece} {ps : List Piece} {s : List Char} {ts : Texts} :
    Split (p :: ps) s ts ↔ ∃ r ∈ p.readings s, ∃ us, Split ps r.2 us ∧ ts = r.1 ++ us := by
  constructor
  · intro h
    cases h with
    | char h => exact ⟨([], _), by simp [Piece.readings], _, h, rfl⟩
    | text ht h =>
      exact ⟨([some _], _), List.mem_map.2 ⟨_, mem_fronts.2 ⟨ht, rfl⟩, rfl⟩, _, h, rfl⟩
    | present ht h =>
      exact ⟨([some _], _),
        List.mem_append_left _ (List.mem_map.2 ⟨_, mem_fronts.2 ⟨ht, rfl⟩, rfl⟩), _, h, rfl⟩
    | absent h => exact ⟨([none], _), List.mem_append_right _ List.mem_cons_self, _, h, rfl⟩
  · rintro ⟨⟨r, rest⟩, hr, us, h, rfl⟩
    cases p with
    | char c =>
      simp only [Piece.readings] at hr
      split at hr
      · rename_i hs
        obtain ⟨rfl, rfl⟩ := Prod.mk.inj (List.mem_singleton.1 hr)
        obtain ⟨s, rfl⟩ := List.head?_eq_some_iff.1 hs
        exact .char h
      · simp at hr
    | text =>
      obtain ⟨⟨t, rest⟩, ht, heq⟩ := List.mem_map.1 hr
      obtain ⟨rfl, rfl⟩ := Prod.mk.inj heq
      obtain ⟨hn, rfl⟩ := mem_fronts.1 ht
      exact .text hn h
    | option =>
      rcases List.mem_append.1 hr with hr | hr
      · split at hr
        · rename_i hs
          obtain ⟨s, rfl⟩ := List.head?_eq_some_iff.1 hs
          obtain ⟨⟨t, rest⟩, ht, heq⟩ := List.mem_map.1 hr
          obtain ⟨rfl, rfl⟩ := Prod.mk.inj heq
          obtain ⟨hn, rfl⟩ := mem_fronts.1 ht
          exact .present hn h
        · simp at hr
      · obtain ⟨rfl, rfl⟩ := Prod.mk.inj (List.mem_singleton.1 hr)
        exact .absent h

theorem mem_splits {ps : List Piece} {s : List Char} {ts : Texts} :
    ts ∈ splits ps s ↔ Split ps s ts := by
  induction ps generalizing s ts with
  | nil =>
    cases s with
    | nil =>
      constructor
      · intro h
        rw [List.mem_singleton.1 h]
        exact .nil
      · intro h
        cases h
        exact List.mem_singleton_self _
    | cons c s =>
      constructor
      · intro h
        exact absurd h List.not_mem_nil
      · intro h
        cases h
  | cons p ps ih =>
    simp only [split_cons_iff, splits, List.mem_flatMap, List.mem_map, ih]
    simp only [eq_comm]

/-! ## They are listed in order -/

theorem pairwise_readings (p : Piece) (s : List Char) :
    (p.readings s).Pairwise fun a b => ∀ us vs, Before (a.1 ++ us) (b.1 ++ vs) := by
  have hfronts : ∀ s, ((fronts s).map asText).Pairwise
      fun a b => ∀ us vs, Before (a.1 ++ us) (b.1 ++ vs) := fun s =>
    List.pairwise_map.2 ((pairwise_fronts s).imp fun h _ _ => .rel h)
  cases p with
  | char c =>
    simp only [Piece.readings]
    split
    · exact List.pairwise_singleton _ _
    · exact .nil
  | text => exact hfronts s
  | option =>
    refine List.pairwise_append.2 ⟨?_, List.pairwise_singleton _ _, ?_⟩
    · split
      · exact hfronts s.tail
      · exact .nil
    · intro a ha b hb us vs
      rw [List.mem_singleton.1 hb]
      split at ha
      · obtain ⟨r, -, rfl⟩ := List.mem_map.1 ha
        exact .rel trivial
      · simp at ha

theorem before_append_left {us vs : Texts} (h : Before us vs) (ts : Texts) :
    Before (ts ++ us) (ts ++ vs) := by
  induction ts with
  | nil => exact h
  | cons t ts ih => exact .cons ih

theorem pairwise_splits (ps : List Piece) (s : List Char) : (splits ps s).Pairwise Before := by
  induction ps generalizing s with
  | nil =>
    unfold splits
    split
    · exact List.pairwise_singleton _ _
    · exact .nil
  | cons p ps ih =>
    refine List.pairwise_flatMap.2 ⟨fun r _ => ?_, (pairwise_readings p s).imp ?_⟩
    · exact List.pairwise_map.2 ((ih r.2).imp fun h => before_append_left h r.1)
    · intro a b hab x hx y hy
      obtain ⟨us, -, rfl⟩ := List.mem_map.1 hx
      obtain ⟨vs, -, rfl⟩ := List.mem_map.1 hy
      exact hab us vs

theorem nearer_asymm {t u : Option (List Char)} (h : Nearer t u) : ¬ Nearer u t := by
  cases t with
  | none => exact h.elim
  | some t =>
    cases u with
    | none => exact id
    | some u => exact Nat.lt_asymm h

/-- The first of the list of splits is the preferred one. -/
theorem head?_splits {ps : List Piece} {s : List Char} {ts : Texts} :
    (splits ps s).head? = some ts ↔ Preferred ps s ts := by
  have hlist := pairwise_splits ps s
  have hmem : ∀ us, us ∈ splits ps s ↔ Split ps s us := fun us => mem_splits
  unfold Preferred
  cases h : splits ps s with
  | nil =>
    rw [h] at hmem
    simp [← hmem]
  | cons us l =>
    rw [h] at hmem hlist
    have hfirst := (List.pairwise_cons.1 hlist).1
    rw [List.head?_cons, Option.some.injEq]
    constructor
    · rintro rfl
      refine ⟨(hmem us).1 List.mem_cons_self, fun vs hvs => ?_⟩
      exact (List.mem_cons.1 ((hmem vs).2 hvs)).imp_right (hfirst vs)
    · rintro ⟨hts, hbest⟩
      rcases List.mem_cons.1 ((hmem ts).2 hts) with rfl | hts
      · rfl
      · rcases hbest us ((hmem us).1 List.mem_cons_self) with heq | hb
        · exact heq
        · exact absurd hb (List.lex_asymm (fun h => nearer_asymm h) (hfirst ts hts))

/-- A text that can be split has a preferred split. -/
theorem exists_split_iff {ps : List Piece} {s : List Char} :
    (∃ ts, Split ps s ts) ↔ (splits ps s).head?.isSome := by
  rw [List.isSome_head?, ne_eq, List.eq_nil_iff_forall_not_mem, not_forall_not]
  exact exists_congr fun ts => mem_splits.symm

end Switchboard.Template
