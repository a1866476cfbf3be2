import Std.Data.HashSet
import Switchboard.Regex.Syntax
import Switchboard.Text.Blank

/-!
# Searching

A search runs all ways to match side by side, one character at a time. A way that is under way is a
thread: the frames of what is left to match, and the positions marked so far. At each place the
threads are explored in order of preference until they wait for a character:

    explore r site k next     all that `r` can do at a place before it takes a character; what is
                              done without one goes on with `next`, the meaning of the frames `k`

Every choice and every character is entered at most once at a place: what comes back to it, from a
round of a loop that took nothing or from a less preferred thread, leads nowhere new. So the work at
a place is bounded by the size of the expression.

`search` returns the marks of the preferred one of the matches that start leftmost.
-/

namespace Switchboard

namespace Regex

/-! ## Places -/

/-- A place in a text: its position and the characters on either side. -/
structure Place where
  position : Nat
  before : Option Char
  after : Option Char

def isAsciiWord (c : Char) : Bool := c.toNat < 128 && isWord c

/-- Whether a side of a place holds a character of a word. -/
def Place.touches (unicode : Bool) : Option Char → Bool
  | some c => if unicode then isWord c else isAsciiWord c
  | none => false

def Place.satisfies (p : Place) : Look → Bool
  | .textStart => p.before.isNone
  | .textEnd => p.after.isNone
  | .lineStart => p.before.isNone || p.before == some '\n'
  | .lineEnd => p.after.isNone || p.after == some '\n'
  | .lineStartCrlf =>
    p.before.isNone || p.before == some '\n' || (p.before == some '\r' && p.after != some '\n')
  | .lineEndCrlf =>
    p.after.isNone || p.after == some '\r' || (p.after == some '\n' && p.before != some '\r')
  | .wordBoundary u => touches u p.before != touches u p.after
  | .notWordBoundary u => touches u p.before == touches u p.after
  | .wordStart u => !touches u p.before && touches u p.after
  | .wordEnd u => touches u p.before && !touches u p.after
  | .wordStartHalf u => !touches u p.before
  | .wordEndHalf u => !touches u p.after

/-! ## Threads -/

/-- Positions noted in slots, the latest first. -/
abbrev Marks := List (Nat × Nat)

/-- An expression at its site in the whole, to be matched next. -/
structure Frame where
  site : Nat
  regex : Regex
deriving DecidableEq, Hashable

/-- A way to match that is under way. -/
structure Thread where
  rest : List Frame
  marks : Marks

/-- A thread that waits for a character of a set. -/
structure Waiting where
  set : CodePoints
  thread : Thread

/-- What has been found at a place so far. -/
structure Sweep where
  /-- The choices and characters that were entered, each with the frames after it. -/
  seen : Std.HashSet (List Frame)
  /-- The threads that wait, the least preferred first. -/
  waiting : List Waiting
  /-- The marks of the first match; nothing less preferred is explored. -/
  found : Option Marks

namespace Sweep

def start : Sweep := ⟨∅, [], none⟩

/-- Enters a choice or a character, unless it was entered before or a match was found. -/
def visit (w : Sweep) (key : List Frame) (enter : Sweep → Sweep) : Sweep :=
  if w.found.isSome || w.seen.contains key then w
  else enter { w with seen := w.seen.insert key }

def wait (w : Sweep) (set : CodePoints) (rest : List Frame) (marks : Marks) : Sweep :=
  { w with waiting := ⟨set, ⟨rest, marks⟩⟩ :: w.waiting }

/-- Notes a match, if none was found before. -/
def accept (marks : Marks) (w : Sweep) : Sweep :=
  if w.found.isSome then w else { w with found := some marks }

end Sweep

/-- How exploration goes on from given marks. -/
abbrev Next := Marks → Sweep → Sweep

/-- Two ways on, the preferred one first: another round if the loop is greedy, else the way out. -/
def inOrder (greedy : Bool) (round exit : Sweep → Sweep) (w : Sweep) : Sweep :=
  if greedy then exit (round w) else round (exit w)

/-- Any number of rounds. A round that comes back without a character is back at a choice that was
entered. -/
def exploreMany (step : List Frame → Next → Next) (frame : Frame) (greedy : Bool)
    (k : List Frame) (next : Next) : Next := fun m w =>
  w.visit (frame :: k) (inOrder greedy (step (frame :: k) (fun _ w => w) m) (next m))

/-- At most so many rounds. -/
def exploreUpTo (step : List Frame → Next → Next) (frame : Nat → Frame) (greedy : Bool)
    (k : List Frame) (next : Next) : Nat → Next
  | 0 => next
  | n + 1 => fun m w =>
    w.visit (frame (n + 1) :: k)
      (inOrder greedy (step (frame n :: k) (exploreUpTo step frame greedy k next n) m) (next m))

/-- Exactly so many rounds, and then the others. -/
def exploreTimes (step : List Frame → Next → Next) (frame : Nat → Frame) (k : List Frame)
    (others : Next) : Nat → Next
  | 0 => others
  | n + 1 => step (frame n :: k) (exploreTimes step frame k others n)

/-- All that an expression at a site can do at a place before it takes a character. -/
def explore (p : Place) : Regex → Nat → List Frame → Next → Next
  | empty, _, _, next => next
  | one s, site, k, _ => fun m w => w.visit (⟨site, one s⟩ :: k) (·.wait s k m)
  | look l, _, _, next => fun m w => if p.satisfies l then next m w else w
  | mark slot, _, _, next => fun m w => next ((slot, p.position) :: m) w
  | seq a b, site, k, next =>
    let second := site + 1 + a.size
    explore p a (site + 1) (⟨second, b⟩ :: k) (explore p b second k next)
  | alt a b, site, k, next => fun m w =>
    w.visit (⟨site, alt a b⟩ :: k) fun w =>
      explore p b (site + 1 + a.size) k next m (explore p a (site + 1) k next m w)
  | loop r min max greedy, site, k, next =>
    let step := explore p r (site + 1)
    match max with
    | none =>
      exploreTimes step (fun n => ⟨site, loop r n none greedy⟩) k
        (exploreMany step ⟨site, loop r 0 none greedy⟩ greedy k next) min
    | some max =>
      exploreTimes step (fun n => ⟨site, loop r n (some (max - min + n)) greedy⟩) k
        (exploreUpTo step (fun n => ⟨site, loop r 0 (some n) greedy⟩) greedy k next (max - min)) min

/-- Explores frames one after the other. -/
def exploreAll (p : Place) : List Frame → Next
  | [] => Sweep.accept
  | f :: k => explore p f.regex f.site k (exploreAll p k)

/-! ## Search -/

/-- The threads that go on after taking a character. -/
def advance (c : Char) (waiting : List Waiting) : List Thread :=
  (waiting.filter (·.set.contains c.toNat)).map (·.thread)

/-- Runs threads over the rest of a text. As long as nothing has matched, a new thread starts at
every place, after those that started before it. -/
def run (r : Regex) (before : Option Char) (position : Nat) (threads : List Thread)
    (best : Option Marks) (cs : List Char) : Option Marks :=
  let p : Place := ⟨position, before, cs.head?⟩
  let threads := if best.isNone then threads ++ [⟨[⟨0, r⟩], [(0, position)]⟩] else threads
  let w := threads.foldl (fun w t => exploreAll p t.rest t.marks w) .start
  let best := (w.found.map ((1, position) :: ·)).or best
  match cs with
  | [] => best
  | c :: cs =>
    let threads := advance c w.waiting.reverse
    if best.isSome && threads.isEmpty then best
    else run r (some c) (position + 1) threads best cs

/-- The marks of the preferred one of the leftmost matches. -/
def search (r : Regex) (text : List Char) : Option Marks := run r none 0 [] none text

/-! ## Captures -/

/-- What lies between the marks of a group, if the match passed both. -/
def captured (text : List Char) (marks : Marks) (index : Nat) : Option String :=
  match marks.lookup (2 * index), marks.lookup (2 * index + 1) with
  | some first, some last => some (String.ofList ((text.take last).drop first))
  | _, _ => none

end Regex

end Switchboard
