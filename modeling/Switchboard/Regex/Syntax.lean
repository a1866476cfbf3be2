import Switchboard.Text.CodePoints

/-!
# Regular expressions

The syntax trees of expressions. Captures are marks that note the position at which they are
passed: group `i` is what lies between the marks `2 * i` and `2 * i + 1`.

`Regex.sequence`, `Regex.alternation` and `Regex.repeated` build trees in a normal form: sequences
are flat, alternatives of single characters are one set, and what all alternatives start with is
taken out in front of them. The last of these is part of the meaning: among the ways to match, the
common front decides before the alternatives do.
-/

namespace Switchboard

/-- A test of the place between two characters. -/
inductive Look where
  | textStart
  | textEnd
  | lineStart
  | lineEnd
  /-- A line may also end in a carriage return, alone or before a line feed. -/
  | lineStartCrlf
  | lineEndCrlf
  | wordBoundary (unicode : Bool)
  | notWordBoundary (unicode : Bool)
  | wordStart (unicode : Bool)
  | wordEnd (unicode : Bool)
  /-- Nothing of a word before this place. -/
  | wordStartHalf (unicode : Bool)
  /-- Nothing of a word after this place. -/
  | wordEndHalf (unicode : Bool)
deriving DecidableEq, Hashable, Repr

inductive Regex where
  | empty
  /-- One character of a set. -/
  | one (set : CodePoints)
  | look (l : Look)
  /-- Notes the position in a slot. -/
  | mark (slot : Nat)
  | seq (first second : Regex)
  /-- The first alternative is preferred. -/
  | alt (first second : Regex)
  /-- Repetition; a greedy one prefers to go on. -/
  | loop (body : Regex) (min : Nat) (max : Option Nat) (greedy : Bool)
deriving DecidableEq, Hashable, Repr, Inhabited

namespace Regex

/-! ## Sequences -/

/-- The parts of a sequence, none of them a sequence or empty. -/
def parts : Regex → List Regex
  | empty => []
  | seq a b => parts a ++ parts b
  | r => [r]

def ofParts : List Regex → Regex
  | [] => empty
  | [r] => r
  | r :: rs => seq r (ofParts rs)

def sequence (rs : List Regex) : Regex := ofParts (rs.flatMap parts)

/-! ## Alternatives -/

/-- The alternatives of an expression, none of them made of alternatives itself. -/
def choices : Regex → List Regex
  | alt a b => choices a ++ choices b
  | r => [r]

def ofChoices : List Regex → Regex
  | [] => one .none
  | [r] => r
  | r :: rs => alt r (ofChoices rs)

/-- The set of an expression that takes one character. -/
def set? : Regex → Option CodePoints
  | one s => some s
  | _ => none

/-- How many parts two sequences have in common at their front. -/
def commonLength : List Regex → List Regex → Nat
  | a :: as, b :: bs => if a = b then commonLength as bs + 1 else 0
  | _, _ => 0

/-- The parts that all sequences start with, if there are several and none is a single part. -/
def commonFront : List (List Regex) → List Regex
  | first :: second :: rest =>
    if (first :: second :: rest).all (2 ≤ ·.length) then
      first.take ((second :: rest).foldl (fun n ps => min n (commonLength first ps)) first.length)
    else []
  | _ => []

/-- The normal form of flat alternatives; `depth` bounds how often a common front is taken out. -/
def factored : Nat → List Regex → Regex
  | 0, rs => ofChoices rs
  | depth + 1, rs =>
    match rs with
    | [r] => r
    | _ =>
      match rs.mapM set? with
      | some sets => one (.union sets)
      | none =>
        let front := commonFront (rs.map parts)
        if front.isEmpty then ofChoices rs
        else
          let rests := rs.map fun r => ofParts ((parts r).drop front.length)
          sequence (front ++ [factored depth (rests.flatMap choices)])

def alternation (rs : List Regex) : Regex :=
  let rs := rs.flatMap choices
  factored (rs.flatMap parts).length rs

/-! ## Repetitions -/

/-- Whether an expression matches nothing but the empty text. -/
def isEmptyOnly : Regex → Bool
  | empty | look _ | mark _ => true
  | one _ => false
  | seq a b | alt a b => isEmptyOnly a && isEmptyOnly b
  | loop r _ max _ => isEmptyOnly r || max == some 0

/-- Whether an expression matches the empty text somewhere. -/
def canBeEmpty : Regex → Bool
  | empty | look _ | mark _ => true
  | one s => s.ranges.isEmpty
  | seq a b => canBeEmpty a && canBeEmpty b
  | alt a b => canBeEmpty a || canBeEmpty b
  | loop r min _ _ => min == 0 || canBeEmpty r

/-- A repetition. What matches only the empty text is repeated at most once. Any number of rounds
of what can be empty is none, or else at least one: a round that takes nothing is still a round. -/
def repeated (r : Regex) (min : Nat) (max : Option Nat) (greedy : Bool) : Regex :=
  let (min, max) :=
    if isEmptyOnly r then (Nat.min min 1, some ((max.map (Nat.min · 1)).getD 1)) else (min, max)
  if min = 0 ∧ max = some 0 then empty
  else if min = 1 ∧ max = some 1 then r
  else if min = 0 ∧ max = none ∧ canBeEmpty r then
    loop (loop r 1 none greedy) 0 (some 1) greedy
  else loop r min max greedy

/-! ## Groups -/

/-- The capture group of a number. -/
def group (index : Nat) (body : Regex) : Regex :=
  seq (mark (2 * index)) (seq body (mark (2 * index + 1)))

/-! ## Size -/

/-- The number of nodes. -/
def size : Regex → Nat
  | empty | one _ | look _ | mark _ => 1
  | seq a b | alt a b => 1 + size a + size b
  | loop r _ _ _ => 1 + size r

/-- What an engine has room for. It refuses an expression that takes too much memory once it is
compiled. How much that is, the syntax does not tell: nothing is known of it but that the expression
decides. -/
class Capacity where
  fits : Regex → Bool

end Regex

end Switchboard
