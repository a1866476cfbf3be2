import Switchboard.Text.Property

/-!
# Blanks and word characters

`Blank` trims texts; `isAlphanumeric` and `isWord` are the two notions of a character of a word.
-/

namespace Switchboard

/-- White space of the Unicode standard. -/
def isBlank (c : Char) : Bool := Property.whiteSpace.contains c.toNat

/-- White space of ASCII, the vertical tab included. -/
def isAsciiBlank (c : Char) : Bool := c == ' ' || ('\t' ≤ c && c ≤ '\r')

def isAsciiLetter (c : Char) : Bool := ('a' ≤ c && c ≤ 'z') || ('A' ≤ c && c ≤ 'Z')

def isAsciiDigit (c : Char) : Bool := '0' ≤ c && c ≤ '9'

def isAlphabetic (c : Char) : Bool :=
  if c.toNat < 128 then isAsciiLetter c else Property.alphabetic.contains c.toNat

def isNumeric (c : Char) : Bool :=
  if c.toNat < 128 then isAsciiDigit c else Category.numbers.contains c.toNat

/-- Alphabetic or numeric. -/
def isAlphanumeric (c : Char) : Bool := isAlphabetic c || isNumeric c

/-- A character of a word: a letter or a numeral, a mark, a digit or a connector. -/
def isWord (c : Char) : Bool :=
  if c.toNat < 128 then isAsciiLetter c || isAsciiDigit c || c == '_'
  else Property.word.contains c.toNat

namespace Blank

/-- Drops what is blank at both ends. -/
def trim (blank : Char → Bool) (cs : List Char) : List Char :=
  ((cs.dropWhile blank).reverse.dropWhile blank).reverse

end Blank

end Switchboard
