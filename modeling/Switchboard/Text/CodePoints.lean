/-!
# Sets of code points

A set is an ascending list of disjoint ranges that do not touch, so that equal sets are equal
lists. Sets are written as words such as `41-5A AA B5`, in hexadecimal.

    s.contains c     membership; the search stops at the first range beyond `c`
-/

namespace Switchboard

/-- Disjoint ranges of code points, ends included, in ascending order. -/
structure CodePoints where
  ranges : List (Nat × Nat)
deriving DecidableEq, Hashable, Repr, Inhabited

namespace CodePoints

/-! ## Reading -/

/-- The texts between the signs; the first is the one under way, in reverse. -/
def partsFrom (sign : Char) (current : List Char) : List Char → List String
  | [] => [String.ofList current.reverse]
  | c :: cs =>
    if c = sign then String.ofList current.reverse :: partsFrom sign [] cs
    else partsFrom sign (c :: current) cs

/-- The texts between the signs in a text. -/
def parts (sign : Char) (s : String) : List String := partsFrom sign [] s.toList

/-- The words of a text, apart from blanks and line ends. -/
def words (s : String) : List String :=
  (parts '\n' s).flatMap fun line => (parts ' ' line).filter (· != "")

def hexDigit (c : Char) : Nat :=
  if '0' ≤ c ∧ c ≤ '9' then c.toNat - '0'.toNat
  else if 'A' ≤ c ∧ c ≤ 'F' then c.toNat - 'A'.toNat + 10
  else c.toNat - 'a'.toNat + 10

/-- The number that hexadecimal digits stand for. -/
def hex (s : String) : Nat := s.toList.foldl (fun n c => 16 * n + hexDigit c) 0

/-- The set of code points and ranges in ascending order, each a word. -/
def ofWords (ws : List String) : CodePoints :=
  ⟨ws.map fun w =>
    match parts '-' w with
    | [low, high] => (hex low, hex high)
    | _ => (hex w, hex w)⟩

/-- The set written as a list of code points and ranges, in ascending order. -/
def parse (s : String) : CodePoints := ofWords (words s)

/-- The lines of a table, each as its words; lines without any are left out. -/
def rows (table : String) : List (List String) :=
  ((parts '\n' table).map words).filter (· != [])

/-- The set that a table has under a name. -/
def lookUp (table : List (List String × CodePoints)) (name : String) : Option CodePoints :=
  (table.find? fun (names, _) => names.contains name).map (·.2)

/-! ## Membership -/

def inRanges (c : Nat) : List (Nat × Nat) → Bool
  | [] => false
  | (low, high) :: rest => if c < low then false else if c ≤ high then true else inRanges c rest

def contains (s : CodePoints) (c : Nat) : Bool := inRanges c s.ranges

/-! ## Operations -/

/-- The last code point. -/
def last : Nat := 0x10FFFF

def none : CodePoints := ⟨[]⟩

def all : CodePoints := ⟨[(0, last)]⟩

def range (low high : Nat) : CodePoints := ⟨[(low, high)]⟩

def single (c : Nat) : CodePoints := range c c

/-- Adds a range that starts no later than the others, joining those that touch. -/
def joinFront (r : Nat × Nat) : List (Nat × Nat) → List (Nat × Nat)
  | [] => [r]
  | s :: rest => if s.1 ≤ r.2 + 1 then joinFront (r.1, max r.2 s.2) rest else r :: s :: rest

/-- The set of ranges in any order. -/
def ofRanges (ranges : List (Nat × Nat)) : CodePoints :=
  ⟨(ranges.mergeSort fun a b => a.1 ≤ b.1).foldr joinFront []⟩

def ofList (points : List Nat) : CodePoints := ofRanges (points.map fun c => (c, c))

def union (sets : List CodePoints) : CodePoints := ofRanges (sets.flatMap (·.ranges))

/-- The gaps between ranges, from `start` on. -/
def gaps (start : Nat) : List (Nat × Nat) → List (Nat × Nat)
  | [] => if start ≤ last then [(start, last)] else []
  | (low, high) :: rest =>
    if start < low then (start, low - 1) :: gaps (high + 1) rest else gaps (high + 1) rest

def complement (s : CodePoints) : CodePoints := ⟨gaps 0 s.ranges⟩

def intersection (s t : CodePoints) : CodePoints :=
  (union [s.complement, t.complement]).complement

def difference (s t : CodePoints) : CodePoints := s.intersection t.complement

def symmetricDifference (s t : CodePoints) : CodePoints :=
  union [s.difference t, t.difference s]

/-- The only member. -/
def single? (s : CodePoints) : Option Nat :=
  match s.ranges with
  | [(low, high)] => if low = high then some low else Option.none
  | _ => Option.none

/-- Whether every member is an ASCII character. -/
def isAscii (s : CodePoints) : Bool := s.ranges.all fun r => r.2 < 128

/-! ## Lemmas -/

theorem contains_single (c d : Nat) : (single c).contains d = (d == c) := by
  unfold single range contains inRanges
  simp only [inRanges]
  rcases Nat.lt_trichotomy d c with h | h | h
  · simp [h, Nat.ne_of_lt h]
  · simp [h]
  · simp [Nat.not_lt.2 (Nat.le_of_lt h), Nat.not_le.2 h, Nat.ne_of_gt h]

end CodePoints

end Switchboard
