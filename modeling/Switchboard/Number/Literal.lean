import Switchboard.Number.Binary64

/-!
# Decimal literals

The grammar of numbers written in text:

    literal  = [sign] (digits ["." [digits]] | "." digits) [("e" | "E") [sign] digits]

`Literal.read?` accepts exactly this grammar, and `Literal.toBinary64` is the double nearest to
the number written. A double can be spelled by a word as well, for what no digits can write:

    double   = literal | [sign] ("inf" | "infinity" | "nan")       words in any case
-/

namespace Switchboard

/-- A decimal literal: `± (whole fraction) · 10^(exponent - fraction length)`. -/
structure Literal where
  negative : Bool
  whole : List Char
  fraction : List Char
  exponent : Int

namespace Literal

def isDigit (c : Char) : Bool := '0' ≤ c && c ≤ '9'

def digitValue (c : Char) : Nat := c.toNat - '0'.toNat

/-- The number that digits stand for. -/
def natOfDigits (cs : List Char) : Nat := cs.foldl (fun n c => 10 * n + digitValue c) 0

/-- An optional sign: whether it is a minus, and what follows. -/
def readSign : List Char → Bool × List Char
  | '-' :: cs => (true, cs)
  | '+' :: cs => (false, cs)
  | cs => (false, cs)

/-- The exponent part, up to the end of the text. -/
def readExponent? : List Char → Option Int
  | [] => some 0
  | c :: cs =>
    if c = 'e' ∨ c = 'E' then
      let (neg, digits) := readSign cs
      if digits.isEmpty || !digits.all isDigit then none
      else some (if neg then -(natOfDigits digits : Int) else natOfDigits digits)
    else none

/-- A whole text read as a literal. -/
def read? (cs : List Char) : Option Literal :=
  let (neg, cs) := readSign cs
  let whole := cs.takeWhile isDigit
  let rest := cs.dropWhile isDigit
  match rest with
  | '.' :: rest =>
    let fraction := rest.takeWhile isDigit
    if whole.isEmpty && fraction.isEmpty then none
    else (readExponent? (rest.dropWhile isDigit)).map (⟨neg, whole, fraction, ·⟩)
  | rest => if whole.isEmpty then none else (readExponent? rest).map (⟨neg, whole, [], ·⟩)

/-- The double nearest to the number written; past the largest one, an infinity. -/
def toBinary64 (l : Literal) : Binary64 :=
  Binary64.ofDecimal l.negative (natOfDigits (l.whole ++ l.fraction))
    (l.exponent - l.fraction.length)

/-! ## Lemmas -/

theorem natOfDigits_concat (cs : List Char) (c : Char) :
    natOfDigits (cs ++ [c]) = 10 * natOfDigits cs + digitValue c := by
  simp [natOfDigits, List.foldl_append]

end Literal

/-! ## Words -/

namespace Binary64

/-- The double of a word, in any case, with the sign that stood in front of it. -/
def ofWord? (negative : Bool) (word : List Char) : Option Binary64 :=
  let word := word.map Char.toLower
  if word = ['i', 'n', 'f'] ∨ word = ['i', 'n', 'f', 'i', 'n', 'i', 't', 'y'] then
    some (infinity negative)
  else if word = ['n', 'a', 'n'] then some (if negative then nan.negate else nan)
  else none

/-- The double that a whole text spells, as a literal or by a word. -/
def ofText? (cs : List Char) : Option Binary64 :=
  match Literal.read? cs with
  | some l => some l.toBinary64
  | none =>
    let (negative, word) := Literal.readSign cs
    ofWord? negative word

end Binary64

end Switchboard
