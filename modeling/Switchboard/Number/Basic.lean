import Switchboard.Number.Layout
import Switchboard.Number.Literal

/-!
# Numbers of documents

A number is an integer of 64 bits, signed or unsigned, or else a double. The two kinds differ even
where their values agree: `1` is an integer and `1.0` is not.
-/

namespace Switchboard

inductive Number where
  | int (i : Int)
  | float (b : Binary64)
deriving DecidableEq, Inhabited

namespace Number

def minSigned : Int := -0x8000000000000000

def maxSigned : Int := 0x7FFFFFFFFFFFFFFF

def maxUnsigned : Int := 0xFFFFFFFFFFFFFFFF

/-- Whether an integer is held as such: it fits 64 bits, signed or unsigned. -/
def fits (i : Int) : Bool := minSigned ≤ i && i ≤ maxUnsigned

/-- The number of an integer literal: a double when it does not fit. -/
def ofInt (i : Int) : Number := if fits i then .int i else .float (.ofInt i)

def ofNat (n : Nat) : Number := ofInt n

/-- The value as a double, rounded. -/
def toBinary64 : Number → Binary64
  | .int i => .ofInt i
  | .float b => b

/-- The exact value, if it is an integer. -/
def toInt? : Number → Option Int
  | .int i => some i
  | .float b => b.toInt?

def isZero : Number → Bool
  | .int i => i == 0
  | .float b => b.isZero

/-- The written form in JSON text. -/
def documentText : Number → String
  | .int i => toString i
  | .float b => Layout.document.text b

/-- The magnitude from which integral doubles are no longer written as integers. -/
def integralBound : Nat := 1000000000000000

/-- The written form used when a number is compared with text: an integral double below `10^15`
is written as an integer, so that `-0.0` is `0`. -/
def comparisonText : Number → String
  | .int i => toString i
  | .float b =>
    match b.toInt? with
    | some i => if i.natAbs < integralBound then toString i else Layout.plain.text b
    | none => Layout.plain.text b

/-- Equality by kind and value: integers exactly, doubles numerically. -/
def sameAs : Number → Number → Bool
  | .int i, .int j => i == j
  | .float a, .float b => a.equals b
  | _, _ => false

/-- Loose numeric equality: integers both signed or both unsigned exactly, all else as doubles. -/
def looselyEquals (a b : Number) : Bool :=
  match a, b with
  | .int i, .int j =>
    if (i ≤ maxSigned ∧ j ≤ maxSigned) ∨ (0 ≤ i ∧ 0 ≤ j) then i == j
    else (Binary64.ofInt i).equals (.ofInt j)
  | _, _ => a.toBinary64.equals b.toBinary64

end Number

end Switchboard
