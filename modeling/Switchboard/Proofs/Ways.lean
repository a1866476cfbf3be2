import Mathlib.Data.List.Basic
import Switchboard.Regex.Search

/-!
# Ways to match

What an expression means, without a search: all the ways in which it matches what is left of a
text, those first that are preferred.

    ways r h       the heads to which `r` takes the head `h`
    runs k h       the same for the frames of a thread, one after the other
    first r h      the marks of the preferred one

A way depends on the marks before it in nothing but that it keeps them (`ways_on`), and what cannot
be empty takes at least one character (`length_rest_lt`). So an unbounded loop whose rounds take
something goes no more rounds than there are characters (`many_eq`).
-/

namespace Switchboard

namespace Regex

/-! ## Heads -/

/-- How far a way has come: its place, what is left of the text, and the positions marked so far. -/
structure Head where
  position : Nat
  before : Option Char
  rest : List Char
  marks : Marks

namespace Head

def place (h : Head) : Place := ⟨h.position, h.before, h.rest.head?⟩

/-- The same place with other marks. -/
def withMarks (h : Head) (m : Marks) : Head := { h with marks := m }

/-- Notes the position in a slot. -/
def mark (h : Head) (slot : Nat) : Head := h.withMarks ((slot, h.position) :: h.marks)

/-- Takes a character of a set. -/
def take (h : Head) (s : CodePoints) : List Head :=
  match h.rest with
  | [] => []
  | c :: cs => if s.contains c.toNat then [⟨h.position + 1, some c, cs, h.marks⟩] else []

/-- The marks of a match that ends here. -/
def finish (h : Head) : Marks := (1, h.position) :: h.marks

end Head

/-! ## Rounds -/

section Rounds

variable (round : Head → List Head)

/-- So many rounds. -/
def times : Nat → Head → List Head
  | 0, h => [h]
  | n + 1, h => (round h).flatMap (times n)

/-- At most so many rounds; a greedy loop prefers another one to the way out. -/
def upTo (greedy : Bool) : Nat → Head → List Head
  | 0, h => [h]
  | n + 1, h =>
    if greedy then (round h).flatMap (upTo greedy n) ++ [h]
    else h :: (round h).flatMap (upTo greedy n)

/-- Any number of rounds, if each takes a character. -/
def many (greedy : Bool) (h : Head) : List Head := upTo round greedy h.rest.length h

end Rounds

/-! ## Ways -/

def ways : Regex → Head → List Head
  | empty, h => [h]
  | one s, h => h.take s
  | look l, h => if h.place.satisfies l then [h] else []
  | mark slot, h => [h.mark slot]
  | seq a b, h => (ways a h).flatMap (ways b)
  | alt a b, h => ways a h ++ ways b h
  | loop r min max greedy, h =>
    match max with
    | none => (times (ways r) min h).flatMap (many (ways r) greedy)
    | some max => (times (ways r) min h).flatMap (upTo (ways r) greedy (max - min))

/-- The ways of frames. -/
def runs : List Frame → Head → List Head
  | [], h => [h]
  | f :: k, h => (ways f.regex h).flatMap (runs k)

/-- The marks of the preferred one of the ways of an expression. -/
def first (r : Regex) (h : Head) : Option Marks := (ways r h).head?.map Head.finish

/-- Whether the rounds of every unbounded loop take something. -/
def steady : Regex → Bool
  | empty | one _ | look _ | mark _ => true
  | seq a b | alt a b => steady a && steady b
  | loop r _ max _ => steady r && (max.isSome || !canBeEmpty r)

/-! ## What is left -/

/-- Whether all ways leave no more than there was. -/
def Keeps (round : Head → List Head) : Prop :=
  ∀ h, ∀ h' ∈ round h, h'.rest.length ≤ h.rest.length

/-- Whether all ways take something. -/
def Takes (round : Head → List Head) : Prop :=
  ∀ h, ∀ h' ∈ round h, h'.rest.length < h.rest.length

theorem Takes.keeps {round : Head → List Head} (ht : Takes round) : Keeps round :=
  fun h h' hm => Nat.le_of_lt (ht h h' hm)

section Rounds

variable {round round' : Head → List Head}

theorem Keeps.flatMap (hk : Keeps round) (hk' : Keeps round') :
    Keeps fun h => (round h).flatMap round' := by
  intro h h' hm
  obtain ⟨h₁, hm₁, hm'⟩ := List.mem_flatMap.1 hm
  exact Nat.le_trans (hk' _ _ hm') (hk _ _ hm₁)

theorem Takes.flatMap_left (ht : Takes round) (hk : Keeps round') :
    Takes fun h => (round h).flatMap round' := by
  intro h h' hm
  obtain ⟨h₁, hm₁, hm'⟩ := List.mem_flatMap.1 hm
  exact Nat.lt_of_le_of_lt (hk _ _ hm') (ht _ _ hm₁)

theorem Takes.flatMap_right (hk : Keeps round) (ht : Takes round') :
    Takes fun h => (round h).flatMap round' := by
  intro h h' hm
  obtain ⟨h₁, hm₁, hm'⟩ := List.mem_flatMap.1 hm
  exact Nat.lt_of_lt_of_le (ht _ _ hm') (hk _ _ hm₁)

theorem Keeps.times (hk : Keeps round) (n : Nat) : Keeps (times round n) := by
  induction n with
  | zero =>
    intro h h' hm
    rcases List.mem_singleton.1 hm with rfl
    exact Nat.le_refl _
  | succ n ih => exact hk.flatMap ih

theorem mem_upTo_succ {greedy : Bool} {n : Nat} {h h' : Head} :
    h' ∈ upTo round greedy (n + 1) h ↔ h' = h ∨ h' ∈ (round h).flatMap (upTo round greedy n) := by
  cases greedy with
  | true =>
    simp only [upTo, if_true, List.mem_append, List.mem_singleton]
    exact Or.comm
  | false => simp [upTo]

theorem Keeps.upTo (hk : Keeps round) (greedy : Bool) (n : Nat) : Keeps (upTo round greedy n) := by
  induction n with
  | zero =>
    intro h h' hm
    rcases List.mem_singleton.1 hm with rfl
    exact Nat.le_refl _
  | succ n ih =>
    intro h h' hm
    rcases mem_upTo_succ.1 hm with rfl | hm
    · exact Nat.le_refl _
    · exact hk.flatMap ih h h' hm

theorem Keeps.many (hk : Keeps round) (greedy : Bool) : Keeps (many round greedy) :=
  fun h => hk.upTo greedy h.rest.length h

theorem Takes.times (ht : Takes round) {n : Nat} (hn : n ≠ 0) : Takes (times round n) := by
  cases n with
  | zero => exact absurd rfl hn
  | succ n => exact ht.flatMap_left (ht.keeps.times n)

/-- More rounds than there are characters make no difference. -/
theorem upTo_stable (ht : Takes round) (greedy : Bool) :
    ∀ (n m : Nat) (h : Head), h.rest.length ≤ n → h.rest.length ≤ m →
      upTo round greedy n h = upTo round greedy m h := by
  have hnone : ∀ (m : Nat) (h : Head), h.rest.length = 0 → upTo round greedy m h = [h] := by
    intro m h h0
    have hr : round h = [] := by
      rw [List.eq_nil_iff_forall_not_mem]
      intro h' hm
      have := ht h h' hm
      omega
    cases m with
    | zero => rfl
    | succ m => cases greedy <;> simp [upTo, hr]
  intro n
  induction n with
  | zero =>
    intro m h hn hm
    rw [hnone m h (by omega), hnone 0 h (by omega)]
  | succ n ih =>
    intro m h hn hm
    cases m with
    | zero => rw [hnone (n + 1) h (by omega), hnone 0 h (by omega)]
    | succ m =>
      have hmore : (round h).flatMap (upTo round greedy n) =
          (round h).flatMap (upTo round greedy m) := by
        refine List.flatMap_congr fun h' hm' => ?_
        have := ht h h' hm'
        exact ih m h' (by omega) (by omega)
      simp only [upTo, hmore]

/-- Any number of rounds is another round, or the way out. -/
theorem many_eq (ht : Takes round) (greedy : Bool) (h : Head) :
    many round greedy h =
      if greedy then (round h).flatMap (many round greedy) ++ [h]
      else h :: (round h).flatMap (many round greedy) := by
  have hmore : (round h).flatMap (upTo round greedy h.rest.length) =
      (round h).flatMap (many round greedy) := by
    refine List.flatMap_congr fun h' hm => ?_
    have := ht h h' hm
    exact upTo_stable ht greedy _ _ h' (by omega) (Nat.le_refl _)
  rw [← hmore, many, upTo_stable ht greedy h.rest.length (h.rest.length + 1) h (Nat.le_refl _)
    (Nat.le_succ _)]
  rfl

end Rounds

theorem takes_take (s : CodePoints) : Takes fun h => h.take s := by
  intro h h' hm
  simp only [Head.take] at hm
  split at hm
  · simp at hm
  · rename_i c cs hr
    split at hm
    · rw [List.mem_singleton.1 hm, hr]
      simp
    · simp at hm

theorem keeps_ways (r : Regex) : Keeps (ways r) := by
  induction r with
  | empty =>
    intro h h' hm
    rcases List.mem_singleton.1 hm with rfl
    exact Nat.le_refl _
  | one s => exact (takes_take s).keeps
  | look l =>
    intro h h' hm
    simp only [ways] at hm
    split at hm
    · rcases List.mem_singleton.1 hm with rfl
      exact Nat.le_refl _
    · simp at hm
  | mark slot =>
    intro h h' hm
    rcases List.mem_singleton.1 hm with rfl
    exact Nat.le_refl _
  | seq a b iha ihb => exact iha.flatMap ihb
  | alt a b iha ihb =>
    intro h h' hm
    rcases List.mem_append.1 hm with hm | hm
    · exact iha h h' hm
    · exact ihb h h' hm
  | loop r min max greedy ih =>
    cases max with
    | none => exact (ih.times min).flatMap (ih.many greedy)
    | some max => exact (ih.times min).flatMap (ih.upTo greedy _)

/-- What cannot be empty takes at least one character. -/
theorem takes_ways {r : Regex} (hr : r.canBeEmpty = false) : Takes (ways r) := by
  induction r with
  | empty | look l | mark slot => simp [canBeEmpty] at hr
  | one s => exact takes_take s
  | seq a b iha ihb =>
    simp only [canBeEmpty, Bool.and_eq_false_iff] at hr
    rcases hr with ha | hb
    · exact (iha ha).flatMap_left (keeps_ways b)
    · exact Takes.flatMap_right (keeps_ways a) (ihb hb)
  | alt a b iha ihb =>
    simp only [canBeEmpty, Bool.or_eq_false_iff] at hr
    intro h h' hm
    rcases List.mem_append.1 hm with hm | hm
    · exact iha hr.1 h h' hm
    · exact ihb hr.2 h h' hm
  | loop r min max greedy ih =>
    simp only [canBeEmpty, Bool.or_eq_false_iff, beq_eq_false_iff_ne] at hr
    have htimes := (ih hr.2).times hr.1
    cases max with
    | none => exact htimes.flatMap_left ((keeps_ways r).many greedy)
    | some max => exact htimes.flatMap_left ((keeps_ways r).upTo greedy _)

/-! ## Marks -/

/-- The same place with marks that were made before all others. -/
def Head.on (h : Head) (m : Marks) : Head := h.withMarks (h.marks ++ m)

/-- Whether ways keep the marks before them and depend on them in nothing else. -/
def Carries (round : Head → List Head) : Prop :=
  ∀ h m, round (h.on m) = (round h).map (·.on m)

section Rounds

variable {round round' : Head → List Head}

theorem Carries.flatMap (hc : Carries round) (hc' : Carries round') :
    Carries fun h => (round h).flatMap round' := by
  intro h m
  simp only [hc h m, List.flatMap_map, List.map_flatMap]
  exact List.flatMap_congr fun h' _ => hc' h' m

theorem Carries.times (hc : Carries round) (n : Nat) : Carries (times round n) := by
  induction n with
  | zero =>
    intro h m
    rfl
  | succ n ih => exact hc.flatMap ih

theorem Carries.upTo (hc : Carries round) (greedy : Bool) (n : Nat) :
    Carries (upTo round greedy n) := by
  induction n with
  | zero =>
    intro h m
    rfl
  | succ n ih =>
    intro h m
    have hmore := hc.flatMap ih h m
    cases greedy with
    | true => simp only [Regex.upTo, if_true, hmore, List.map_append, List.map_cons, List.map_nil]
    | false => simp [Regex.upTo, hmore]

end Rounds

theorem carries_ways (r : Regex) : Carries (ways r) := by
  induction r with
  | empty | mark slot =>
    intro h m
    rfl
  | one s =>
    intro h m
    cases hr : h.rest with
    | nil => simp [ways, Head.take, Head.on, Head.withMarks, hr]
    | cons c cs => by_cases hs : s.contains c.toNat <;>
        simp [ways, Head.take, Head.on, Head.withMarks, hr, hs]
  | look l =>
    intro h m
    have hp : (h.on m).place = h.place := rfl
    simp only [ways, hp]
    split <;> rfl
  | seq a b iha ihb => exact iha.flatMap ihb
  | alt a b iha ihb =>
    intro h m
    simp only [ways, iha h m, ihb h m, List.map_append]
  | loop r min max greedy ih =>
    cases max with
    | none => exact (ih.times min).flatMap fun h m => ih.upTo greedy h.rest.length h m
    | some max => exact (ih.times min).flatMap (ih.upTo greedy _)

theorem carries_runs (k : List Frame) : Carries (runs k) := by
  induction k with
  | nil =>
    intro h m
    rfl
  | cons f k ih => exact (carries_ways f.regex).flatMap ih

/-- Whether there is a way does not depend on the marks. -/
theorem runs_eq_nil_iff (k : List Frame) (h : Head) (m : Marks) :
    runs k (h.withMarks m) = [] ↔ runs k h = [] := by
  have hbare : ∀ h : Head, runs k h = [] ↔ runs k (h.withMarks []) = [] := by
    intro h
    have := carries_runs k (h.withMarks []) h.marks
    rw [show (h.withMarks []).on h.marks = h from rfl] at this
    rw [this, List.map_eq_nil_iff]
  rw [hbare, hbare h]
  rfl

end Regex

end Switchboard
