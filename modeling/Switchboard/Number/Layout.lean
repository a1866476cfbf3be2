import Switchboard.Number.Shortest

/-!
# Written forms of doubles

The digits of a double are chosen in `Switchboard.Number.Shortest`; how they are laid out is a
record of decisions. Two layouts are in use:

    Layout.document   1.0    0.00001   1e-7     1e+16     -0.0      in JSON text
    Layout.plain      1      0.00001   0.0000001   10000000000000000   -0      in comparisons
-/

namespace Switchboard

/-- How a decimal is laid out. -/
structure Layout where
  /-- The exponents of the first digit, from and below, that are written positionally; `none` is
  every exponent. -/
  positional : Option (Int × Int)
  /-- Whether an integral value ends in `.0`. -/
  pointZero : Bool
  tie : Tie

namespace Layout

/-- JSON text: exponents from `-5` to `15` positionally, always with a point or an exponent. -/
def document : Layout := ⟨some (-5, 16), true, .toEven⟩

/-- Text for comparisons: never an exponent, and no point unless digits follow it. -/
def plain : Layout := ⟨none, false, .up⟩

def zeros (n : Nat) : String := String.ofList (List.replicate n '0')

/-- Digits with the point after the first `whole` of them. -/
def positionalText (l : Layout) (digits : String) (whole : Int) : String :=
  let count : Int := digits.length
  if whole ≤ 0 then "0." ++ zeros (-whole).toNat ++ digits
  else if count ≤ whole then
    digits ++ zeros (whole - count).toNat ++ (if l.pointZero then ".0" else "")
  else
    String.ofList (digits.toList.take whole.toNat) ++ "." ++
      String.ofList (digits.toList.drop whole.toNat)

/-- One digit, the point and the others, and a signed exponent. -/
def scientificText (digits : String) (exponent : Int) : String :=
  let rest := String.ofList (digits.toList.drop 1)
  String.ofList (digits.toList.take 1) ++ (if rest.isEmpty then "" else "." ++ rest) ++
    "e" ++ (if exponent < 0 then "-" else "+") ++ toString exponent.natAbs

/-- The text of a positive decimal. -/
def decimalText (l : Layout) (d : Decimal) : String :=
  let digits := toString d.digits
  let whole := (digits.length : Int) + d.exponent
  let isPositional := match l.positional with
    | none => true
    | some (low, high) => low ≤ whole - 1 && whole - 1 < high
  if isPositional then l.positionalText digits whole else scientificText digits (whole - 1)

/-- The text of a double. -/
def text (l : Layout) (b : Binary64) : String :=
  if b.isNaN then "NaN"
  else
    let sign := if b.negative then "-" else ""
    if b.isInfinite then sign ++ "inf"
    else if b.isZero then sign ++ (if l.pointZero then "0.0" else "0")
    else sign ++ l.decimalText (b.shortest l.tie)

end Layout

end Switchboard
