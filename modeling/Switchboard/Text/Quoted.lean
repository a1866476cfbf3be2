import Switchboard.Text.Blank

/-!
# Quoted texts

`quoted s` is `s` between double quotes, on one line and in visible characters: quotes and
backslashes are escaped, line breaks, tabs and the null character have letters of their own, and
every other character that is not visible by itself is written by its code point.
-/

namespace Switchboard.Quoted

def lowerHexDigit (n : Nat) : Char :=
  if n < 10 then Char.ofNat ('0'.toNat + n) else Char.ofNat ('a'.toNat + n - 10)

/-- Hexadecimal digits of a number below `16^width`, without leading zeros. -/
def hexDigits : Nat → Nat → List Char
  | 0, _ => []
  | width + 1, n =>
    if n < 16 then [lowerHexDigit n] else hexDigits width (n / 16) ++ [lowerHexDigit (n % 16)]

/-- Whether a character has a visible form of its own, a space included. -/
def isVisible (c : Char) : Bool :=
  if c.toNat < 128 then 32 ≤ c.toNat && c.toNat < 127
  else
    let n := c.toNat
    !(Property.graphemeExtend.contains n || Category.others.contains n ||
      Category.separators.contains n)

def escape (c : Char) : List Char :=
  match c with
  | '"' => ['\\', '"']
  | '\\' => ['\\', '\\']
  | '\n' => ['\\', 'n']
  | '\r' => ['\\', 'r']
  | '\t' => ['\\', 't']
  | c =>
    if c.toNat = 0 then ['\\', '0']
    else if isVisible c then [c]
    else ['\\', 'u', '\x7b'] ++ hexDigits 6 c.toNat ++ ['\x7d']

/-- A text between double quotes, on one line. -/
def quoted (s : String) : String := String.ofList ('"' :: s.toList.flatMap escape ++ ['"'])

end Switchboard.Quoted
