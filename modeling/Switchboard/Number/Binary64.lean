/-!
# Doubles

A double is its 64 bits. A finite one is `(-1)^negative · significand · 2^exponent`, with
`significand < 2^53` and `-1074 ≤ exponent ≤ 971`.

    ofRatio neg num den  =  the double nearest to ± num / den, a half going to the even significand
    b.toInt? = some i    iff  b is finite and its value is the integer i

All arithmetic is exact, on `Nat` and `Int`.
-/

namespace Switchboard

/-- An IEEE 754 double, held by its bits. -/
structure Binary64 where
  bits : UInt64
deriving DecidableEq, Inhabited

namespace Binary64

/-! ## Fields -/

/-- The bit of the sign, `2^63`. -/
def signBit : Nat := 0x8000000000000000

/-- The bit that a normal significand has above its field, `2^52`. -/
def hiddenBit : Nat := 0x10000000000000

def negative (b : Binary64) : Bool := signBit ≤ b.bits.toNat

/-- The eleven bits of the exponent field. -/
def exponentField (b : Binary64) : Nat := b.bits.toNat / hiddenBit % 2048

/-- The fifty-two bits below the exponent field. -/
def fractionField (b : Binary64) : Nat := b.bits.toNat % hiddenBit

def isFinite (b : Binary64) : Bool := b.exponentField != 2047

def isNaN (b : Binary64) : Bool := b.exponentField == 2047 && b.fractionField != 0

def isInfinite (b : Binary64) : Bool := b.exponentField == 2047 && b.fractionField == 0

/-- A subnormal has no hidden bit. -/
def significand (b : Binary64) : Nat :=
  if b.exponentField = 0 then b.fractionField else hiddenBit + b.fractionField

/-- The binary exponent of the unit of the significand. -/
def exponent (b : Binary64) : Int :=
  if b.exponentField = 0 then -1074 else (b.exponentField : Int) - 1075

def isZero (b : Binary64) : Bool := b.exponentField == 0 && b.fractionField == 0

/-! ## Building -/

/-- The double with this sign and these low 63 bits. -/
def ofMagnitude (neg : Bool) (magnitude : Nat) : Binary64 :=
  ⟨UInt64.ofNat ((if neg then signBit else 0) + magnitude)⟩

def zero : Binary64 := ofMagnitude false 0

/-- The magnitude field of an infinity. -/
def infinityMagnitude : Nat := 2047 * hiddenBit

def infinity (neg : Bool) : Binary64 := ofMagnitude neg infinityMagnitude

def nan : Binary64 := ofMagnitude false (infinityMagnitude + hiddenBit / 2)

/-- The integer nearest to `num / den`, a half going to the even one. -/
def nearest (num den : Nat) : Nat :=
  let q := num / den
  let r := num % den
  if 2 * r < den then q
  else if den < 2 * r then q + 1
  else if q % 2 = 0 then q else q + 1

/-- `num / den` measured in units of `2^q`, as a numerator and a denominator. -/
def inUnits (num den : Nat) (q : Int) : Nat × Nat :=
  if q < 0 then (num <<< (-q).toNat, den) else (num, den <<< q.toNat)

/-- The exponent of the unit in which `num / den` is rounded: the quotient has 53 bits, or the
unit is the smallest. -/
def unitExponent (num den : Nat) : Int :=
  let q := max ((num.log2 : Int) - den.log2 - 52) (-1074)
  let (n, d) := inUnits num den q
  if n / d < hiddenBit ∧ -1074 < q then q - 1 else q

/-- The double nearest to `± num / den`; past the largest one, an infinity. -/
def ofRatio (neg : Bool) (num den : Nat) : Binary64 :=
  if num = 0 then ofMagnitude neg 0
  else
    let q := unitExponent num den
    let (n, d) := inUnits num den q
    ofMagnitude neg (min infinityMagnitude ((q + 1074).toNat * hiddenBit + nearest n d))

/-- The double nearest to an integer. -/
def ofInt (i : Int) : Binary64 := ofRatio (i < 0) i.natAbs 1

/-- The double nearest to `± digits · 10^exponent`. Exponents so large that the answer is an
infinity or a zero whatever the digits are settled without computing the power. -/
def ofDecimal (neg : Bool) (digits : Nat) (exponent : Int) : Binary64 :=
  if digits = 0 then ofMagnitude neg 0
  else
    let bitLength : Int := digits.log2
    -- a decimal exponent counts for more than three and for less than four bits
    if 310 < exponent ∧ 0 < bitLength + 3 * exponent - 1024 then infinity neg
    else if exponent < -400 ∧ bitLength + 3 * exponent < -1100 then ofMagnitude neg 0
    else if exponent < 0 then ofRatio neg digits (Nat.pow 10 (-exponent).toNat)
    else ofRatio neg (digits * Nat.pow 10 exponent.toNat) 1

/-! ## Arithmetic -/

/-- The magnitude of a finite double as a ratio. -/
def magnitudeRatio (b : Binary64) : Nat × Nat :=
  if b.exponent < 0 then (b.significand, 1 <<< (-b.exponent).toNat)
  else (b.significand <<< b.exponent.toNat, 1)

/-- The product of two finite doubles, rounded. -/
def times (a b : Binary64) : Binary64 :=
  let (n, d) := a.magnitudeRatio
  let (m, e) := b.magnitudeRatio
  ofRatio (a.negative != b.negative) (n * m) (d * e)

/-- The quotient of two finite doubles, rounded; the divisor is not zero. -/
def dividedBy (a b : Binary64) : Binary64 :=
  let (n, d) := a.magnitudeRatio
  let (m, e) := b.magnitudeRatio
  ofRatio (a.negative != b.negative) (n * e) (d * m)

/-- The double of the other sign. -/
def negate (b : Binary64) : Binary64 := ofMagnitude (!b.negative) (b.bits.toNat % signBit)

/-! ## Values -/

/-- Numeric equality: a NaN differs from everything, and the two zeros are equal. -/
def equals (a b : Binary64) : Bool :=
  !a.isNaN && !b.isNaN && (a.bits == b.bits || (a.isZero && b.isZero))

/-- The integer part, toward zero. -/
def truncate (b : Binary64) : Int :=
  let magnitude : Nat :=
    if b.exponent < 0 then b.significand >>> (-b.exponent).toNat
    else b.significand <<< b.exponent.toNat
  if b.negative then -(magnitude : Int) else magnitude

/-- Whether the value is an integer; infinities and NaNs are not. -/
def isIntegral (b : Binary64) : Bool :=
  b.isFinite && (0 ≤ b.exponent || b.significand % (1 <<< (-b.exponent).toNat) == 0)

/-- The value as an integer, if it is one. -/
def toInt? (b : Binary64) : Option Int := if b.isIntegral then some b.truncate else none

/-! ## Lemmas -/

theorem equals_comm (a b : Binary64) : a.equals b = b.equals a := by
  unfold equals
  rw [Bool.beq_comm (a := a.bits), Bool.and_comm a.isZero, Bool.and_comm (!a.isNaN)]

theorem equals_self_iff (b : Binary64) : b.equals b = true ↔ b.isNaN = false := by
  simp [equals]

end Binary64

end Switchboard
