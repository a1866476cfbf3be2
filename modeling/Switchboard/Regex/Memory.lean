import Switchboard.Regex.Syntax

/-!
# Memory of expressions

An engine compiles an expression twice, for reading forwards and for reading backwards, and has room
for it if neither takes more than 10 MiB. What they take is estimated by the states of automata over
the bytes of texts:

    'é'     two states, one for each byte
    .       its first bytes fork, and reading forwards the last ones are shared
    r{3}    three times the states of `r`

The estimate is for programs that run, and for instances: what holds of expressions holds for any
capacity.
-/

namespace Switchboard.Regex

/-! ## Bytes of characters -/

/-- Ranges of bytes that stand one behind the other. -/
abbrev ByteRanges := List (Nat × Nat)

/-- The code points that are written in one byte and `count` others, with what the first byte adds
to their bits: `(low, high, count, lead)`. Surrogates are not written. -/
def byteClasses : List (Nat × Nat × Nat × Nat) :=
  [(0, 0x7F, 0, 0), (0x80, 0x7FF, 1, 0xC0), (0x800, 0xD7FF, 2, 0xE0), (0xE000, 0xFFFF, 2, 0xE0),
    (0x10000, CodePoints.last, 3, 0xF0)]

/-- The numbers from `low` to `high` as ranges of their digits to the base 64, the last `count + 1`
of them. `lead` is added to the first one, and 128 to all others. -/
def digitRanges (lead : Nat) : Nat → Nat → Nat → List ByteRanges
  | 0, low, high => [[(lead + low, lead + high)]]
  | count + 1, low, high =>
    let unit := 64 ^ (count + 1)
    let behind (first : Nat) (low high : Nat) : List ByteRanges :=
      (digitRanges 0x80 count low high).map ((lead + first, lead + first) :: ·)
    if low / unit = high / unit then behind (low / unit) (low % unit) (high % unit)
    else
      -- what is cut off at both ends, so that whole units are left between them
      let front := if low % unit = 0 then [] else behind (low / unit) (low % unit) (unit - 1)
      let back := if high % unit = unit - 1 then [] else behind (high / unit) 0 (high % unit)
      let first := if front.isEmpty then low / unit else low / unit + 1
      let last := if back.isEmpty then high / unit + 1 else high / unit
      front ++
        (if first < last then
          [(lead + first, lead + (last - 1)) :: List.replicate (count + 1) (0x80, 0xBF)]
        else []) ++
        back

/-- The ways to write the characters of a set in bytes. -/
def byteRanges (s : CodePoints) : List ByteRanges :=
  s.ranges.flatMap fun (low, high) =>
    byteClasses.flatMap fun (start, stop, count, lead) =>
      let low := max low start
      let high := min high stop
      if low ≤ high then digitRanges lead count low high else []

/-! ## States -/

/-- What is left of ways behind each first byte. -/
def branches (ways : List ByteRanges) : List (List ByteRanges) :=
  (ways.filterMap List.head?).eraseDups.map fun first =>
    ways.filterMap fun way => if way.head? = some first then some way.tail else none

/-- The states for reading ways forwards: one for all that have the same ways left. -/
def forwardStates : Nat → List (List ByteRanges) → List (List ByteRanges)
  | 0, _ => []
  | depth + 1, states =>
    let states := (states.filter (·.any (· != []))).eraseDups
    if states.isEmpty then [] else states ++ forwardStates depth (states.flatMap branches)

/-- The states for reading ways backwards: one for all that begin alike. -/
def backwardStates (ways : List ByteRanges) : List ByteRanges :=
  (ways.flatMap fun way => (List.range way.length).map fun n => way.take (n + 1)).eraseDups

/-- A direction of reading. -/
inductive Direction where
  | forward
  | backward

/-- The memory of a set: 32 bytes a state, and more where states fork. -/
def setMemory (direction : Direction) (s : CodePoints) : Nat :=
  match s.single? with
  | some c => 32 * (Char.ofNat c).utf8Size
  | none =>
    if s.isAscii then 64 + 8 * s.ranges.length
    else
      let ways := byteRanges s
      match direction with
      | .forward =>
        let states := (forwardStates 5 [ways]).eraseDups
        states.foldr (fun state n => 32 + 8 * (branches state).length + n) 32
      | .backward => 64 + 4 * ways.length + 32 * (backwardStates ways).length

/-- The memory of an expression with its repetitions written out. Captures are told only when
reading forwards. -/
def memory (direction : Direction) : Regex → Nat
  | empty | look _ => 32
  | one s => setMemory direction s
  | mark _ => match direction with
    | .forward => 32
    | .backward => 0
  | seq a b => memory direction a + memory direction b
  | alt a b =>
    memory direction a + memory direction b + match b with
      | alt _ _ => 4
      | _ => 72
  | loop r min max _ =>
    let once := memory direction r
    match max with
    | none => Nat.max min 1 * once + 40
    | some max => min * once + (max - min) * (once + 40) + if min < max then 32 else 0

/-- The memory that an engine has for an expression: 10 MiB. -/
def maxMemory : Nat := 10 * 1024 * 1024

/-- The capacity of engines that have 10 MiB. -/
instance standardCapacity : Capacity where
  fits r := memory .forward r ≤ maxMemory && memory .backward r ≤ maxMemory

end Switchboard.Regex
