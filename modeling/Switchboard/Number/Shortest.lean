import Switchboard.Number.Binary64

/-!
# The fewest digits that read back

A finite double stands for the interval of reals that round to it, ends included exactly when its
significand is even. `Binary64.shortest` looks for the coarsest decimal grid with a point in that
interval and takes the point nearest to the value:

    shortest tie b = digits · 10^exponent,   with   readsBack b digits exponent

Only the value's two neighbours on a grid need to be tried: if any point of the grid lies in the
interval, one of them does.
-/

namespace Switchboard

/-- The number `digits · 10^exponent`. -/
structure Decimal where
  digits : Nat
  exponent : Int
deriving DecidableEq, Repr, Inhabited

/-- Which way a value halfway between two grid points goes. -/
inductive Tie where
  | toEven
  | up
deriving DecidableEq, Repr

namespace Binary64

/-! ## Algorithm -/

/-- The rounding interval and the value in it, over one denominator. -/
structure Interval where
  low : Nat
  middle : Nat
  high : Nat
  denominator : Nat
  /-- Whether the ends round to the value as well. -/
  closed : Bool

/-- The interval that rounds to a positive finite double. Below a power of two the neighbour is
half as far away. -/
def interval (b : Binary64) : Interval :=
  let m := b.significand
  let below := if b.fractionField = 0 ∧ 1 < b.exponentField then 1 else 2
  let q := b.exponent - 2
  let scale := 1 <<< q.toNat
  let denominator := 1 <<< (-q).toNat
  ⟨(4 * m - below) * scale, 4 * m * scale, (4 * m + 2) * scale, denominator, m % 2 == 0⟩

/-- The interval measured in units of `10^g`. -/
def Interval.inUnits (i : Interval) (g : Int) : Interval :=
  if 0 ≤ g then { i with denominator := i.denominator * Nat.pow 10 g.toNat }
  else
    let f := Nat.pow 10 (-g).toNat
    { i with low := i.low * f, middle := i.middle * f, high := i.high * f }

/-- Whether the integer `c` lies in the interval. -/
def Interval.holds (i : Interval) (c : Nat) : Bool :=
  let x := c * i.denominator
  if i.closed then i.low ≤ x && x ≤ i.high else i.low < x && x < i.high

/-- The integer of the interval nearest to its value, if it has one. -/
def Interval.nearest? (tie : Tie) (i : Interval) : Option Nat :=
  let c := i.middle / i.denominator
  match i.holds c && c != 0, i.holds (c + 1) with
  | false, false => none
  | true, false => some c
  | false, true => some (c + 1)
  | true, true =>
    let twice := 2 * i.middle
    let half := (2 * c + 1) * i.denominator
    if twice < half then some c
    else if half < twice then some (c + 1)
    else match tie with
      | .up => some (c + 1)
      | .toEven => some (if c % 2 = 0 then c else c + 1)

/-- The first of the grids `10^g, 10^(g-1), …` with a point in the interval. -/
def Interval.search (tie : Tie) (i : Interval) : Nat → Int → Option Decimal
  | 0, _ => none
  | grids + 1, g =>
    match (i.inUnits g).nearest? tie with
    | some c => some ⟨c, g⟩
    | none => i.search tie grids (g - 1)

/-- An upper bound for the decimal exponent of the first digit. -/
def leadingExponent (b : Binary64) : Int :=
  ((b.significand.log2 : Int) + b.exponent) * 30103 / 100000 + 1

/-- Trailing zeros of the digits go into the exponent. -/
def stripZeros : Nat → Decimal → Decimal
  | 0, d => d
  | n + 1, d =>
    if d.digits ≠ 0 ∧ d.digits % 10 = 0 then stripZeros n ⟨d.digits / 10, d.exponent + 1⟩ else d

/-- The shortest decimal that reads back to a positive finite double, of those the nearest. The
last case, the exact value, is not reached: seventeen digits always suffice. -/
def shortest (tie : Tie) (b : Binary64) : Decimal :=
  match b.interval.search tie 20 b.leadingExponent with
  | some d => stripZeros 20 d
  | none =>
    if 0 ≤ b.exponent then ⟨b.significand <<< b.exponent.toNat, 0⟩
    else ⟨b.significand * Nat.pow 5 (-b.exponent).toNat, b.exponent⟩

/-! ## Lemmas -/

/-- Whether `digits · 10^exponent` lies in the rounding interval. -/
def readsBack (b : Binary64) (d : Decimal) : Bool := (b.interval.inUnits d.exponent).holds d.digits

theorem Interval.holds_of_nearest? {tie : Tie} {i : Interval} {c : Nat}
    (h : i.nearest? tie = some c) : i.holds c = true := by
  unfold Interval.nearest? at h
  simp only at h
  split at h
  · cases h
  · cases h; simp_all
  · cases h; assumption
  · split at h
    · cases h; simp_all
    · split at h
      · cases h; assumption
      · cases tie <;> simp only [Option.some.injEq] at h
        · split at h <;> cases h <;> simp_all
        · cases h; assumption

theorem Interval.holds_of_search {tie : Tie} {i : Interval} (n : Nat) :
    ∀ {g : Int} {d : Decimal}, i.search tie n g = some d →
      (i.inUnits d.exponent).holds d.digits = true := by
  induction n with
  | zero => intro g d h; cases h
  | succ n ih =>
    intro g d h
    unfold Interval.search at h
    split at h
    next c hc => cases h; exact Interval.holds_of_nearest? hc
    next => exact ih h

end Binary64

end Switchboard
