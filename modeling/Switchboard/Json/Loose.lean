import Switchboard.Json.Basic
import Switchboard.Text.Blank

/-!
# Loose comparison

Values of a payload are compared loosely: a numeric text equals the number it spells, a boolean
compares with the truth of the other side, and arrays and objects compare member by member.

    isTruthy v = false   iff  v is null, false, a zero, "", "0", [] or an empty object
    looselyEqual a b     the comparison
    subject? v           the text by which a scalar is tested against an expression
-/

namespace Switchboard.Json

/-! ## Texts and truth -/

/-- The characters that a number can be spelled with. -/
def isNumeral (c : Char) : Bool :=
  Literal.isDigit c || c == '+' || c == '-' || c == '.' || c == 'e' || c == 'E'

/-- The number that a text spells, blanks at its ends aside. It has to have a digit, and nothing but
what numbers are spelled with, so a word spells none. -/
def numericText? (s : String) : Option Binary64 :=
  let cs := Blank.trim isAsciiBlank s.toList
  if cs.any Literal.isDigit && cs.all isNumeral then Binary64.ofText? cs else none

def isTruthy : Json → Bool
  | .null => false
  | .bool b => b
  | .number n => !n.isZero
  | .string s => !(s == "" || s == "0")
  | .array items => !items.isEmpty
  | .object members => !members.isEmpty

/-- The text of a scalar; arrays, objects and null have none. -/
def subject? : Json → Option String
  | .string s => some s
  | .number n => some n.comparisonText
  | .bool b => some (if b then "1" else "")
  | .null | .array _ | .object _ => none

/-! ## Loose equality -/

/-- A number equals a text that spells it, or else one that is its own written form. -/
def numberEqualsText (n : Number) (s : String) : Bool :=
  match numericText? s with
  | some f => n.toBinary64.equals f
  | none => n.comparisonText == s

/-- Texts are equal as numbers if both are numeric, and otherwise as they stand. -/
def textEqualsText (s t : String) : Bool :=
  match numericText? s, numericText? t with
  | some f, some g => f.equals g
  | _, _ => s == t

/-- Null equals what is falsy, except the text of a zero. -/
def equalsNull : Json → Bool
  | .string s => s == ""
  | v => !v.isTruthy

mutual

def looselyEqual : Json → Json → Bool
  | .null, .null => true
  | .bool a, other => a == other.isTruthy
  | other, .bool b => b == other.isTruthy
  | .null, other => other.equalsNull
  | other, .null => other.equalsNull
  | .number a, .number b => a.looselyEquals b
  | .number a, .string b => numberEqualsText a b
  | .string a, .number b => numberEqualsText b a
  | .string a, .string b => textEqualsText a b
  | .array as, .array bs => looselyEqualItems as bs
  | .object as, .object bs => as.length == bs.length && looselyEqualMembers as bs
  | _, _ => false

def looselyEqualItems : List Json → List Json → Bool
  | [], [] => true
  | a :: as, b :: bs => looselyEqual a b && looselyEqualItems as bs
  | _, _ => false

/-- Every member on the left has a loosely equal one on the right. -/
def looselyEqualMembers : List (String × Json) → List (String × Json) → Bool
  | [], _ => true
  | (k, a) :: as, bs =>
    (match member? k bs with
      | some b => looselyEqual a b
      | none => false) && looselyEqualMembers as bs

end

end Switchboard.Json
