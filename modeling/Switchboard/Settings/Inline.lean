import Switchboard.Number.Basic
import Switchboard.Text.Blank
import Switchboard.Toml.Reader

/-!
# Values of variables

The text of a variable stands for a value.

    true, false      booleans
    5, -5, 0.5       numbers; a double has a point
    "a\n", 'a'       texts
    [v, w]           arrays
    {k=v, "k"=w}     objects
    anything else    the text itself, without blanks at its ends

A text that is none of these as a whole is itself, with its blanks.
-/

namespace Switchboard.Inline

def isSpace (c : Char) : Bool := isAsciiBlank c && c != '\x0b'

def skipSpaces (cs : List Char) : List Char := cs.dropWhile isSpace

def isSeparator (c : Char) : Bool :=
  c == ',' || c == '\x7b' || c == '\x7d' || c == '[' || c == ']'

def isKeyChar (c : Char) : Bool := isAsciiLetter c || isAsciiDigit c || c == '_' || c == '-'

/-! ## Scalars -/

/-- The integer of digits with an optional sign, if 64 bits hold it; only without a minus it may
take all of them. -/
def integer? (cs : List Char) : Option Int :=
  let (negative, digits) := Literal.readSign cs
  if digits.isEmpty || !digits.all Literal.isDigit then none
  else
    let n := Literal.natOfDigits digits
    let i : Int := if negative then -n else n
    if Number.fits i then some i else none

/-- The value of a text without quotes and separators. -/
def scalar (cs : List Char) : Json :=
  let float? := if cs.contains '.' then (Literal.read? cs).map (·.toBinary64) else none
  match float?, integer? cs with
  | some b, _ => .number (.float b)
  | none, some i => .ofInt i
  | none, none => .string (String.ofList cs)

/-- A text after its opening quote; `seen` is in reverse. -/
def readText : Nat → List Char → List Char → Option (String × List Char)
  | 0, _, _ => none
  | _ + 1, _, [] => none
  | fuel + 1, seen, c :: cs =>
    if c = '"' then some (String.ofList seen.reverse, cs)
    else if c = '\\' then
      match Toml.Reader.readEscape cs with
      | some (c, cs) => readText fuel (c :: seen) cs
      | none => none
    else readText fuel (c :: seen) cs

/-- A key and the equals sign behind it. -/
def readKey (fuel : Nat) (cs : List Char) : Option (String × List Char) := do
  let (key, cs) ← match skipSpaces cs with
    | '"' :: cs => readText fuel [] cs
    | cs =>
      let key := cs.takeWhile isKeyChar
      if key.isEmpty then none else some (String.ofList key, cs.dropWhile isKeyChar)
  match skipSpaces cs with
  | '=' :: cs => some (key, cs)
  | _ => none

/-! ## Values -/

mutual

/-- A value and the spaces behind it. -/
def readValue : Nat → List Char → Option (Json × List Char)
  | 0, _ => none
  | fuel + 1, cs =>
    let read : Option (Json × List Char) := match skipSpaces cs with
      | 't' :: 'r' :: 'u' :: 'e' :: cs => some (.bool true, cs)
      | 'f' :: 'a' :: 'l' :: 's' :: 'e' :: cs => some (.bool false, cs)
      | '\x7b' :: cs => readPairs fuel [] cs
      | '[' :: cs => readItems fuel [] cs
      | '"' :: cs => (readText fuel [] cs).map fun (s, cs) => (.string s, cs)
      | '\'' :: c :: '\'' :: cs => some (.string c.toString, cs)
      | '\'' :: _ => none
      | cs =>
        let text := cs.takeWhile (!isSeparator ·)
        some (scalar (Blank.trim isBlank text), cs.dropWhile (!isSeparator ·))
    read.map fun (v, cs) => (v, skipSpaces cs)

/-- The items of an array up to its end; `seen` is in reverse. -/
def readItems : Nat → List Json → List Char → Option (Json × List Char)
  | 0, _, _ => none
  | fuel + 1, seen, cs =>
    match cs with
    | ']' :: cs => some (.array seen.reverse, cs)
    | cs =>
      match readValue fuel cs with
      | some (v, ',' :: cs) => readItems fuel (v :: seen) cs
      | some (v, ']' :: cs) => some (.array (v :: seen).reverse, cs)
      | _ => none

/-- The members of an object up to its end. -/
def readPairs : Nat → List (String × Json) → List Char → Option (Json × List Char)
  | 0, _, _ => none
  | fuel + 1, seen, cs =>
    match cs with
    | '\x7d' :: cs => some (.object seen, cs)
    | cs =>
      match readKey fuel cs with
      | none => none
      | some (key, cs) =>
        match readValue fuel cs with
        | some (v, ',' :: cs) => readPairs fuel (Json.setMember key v seen) cs
        | some (v, '\x7d' :: cs) => some (.object (Json.setMember key v seen), cs)
        | _ => none

end

/-- The value that a whole text stands for. -/
def read (text : String) : Json :=
  let cs := text.toList
  match readValue (2 * cs.length + 2) cs with
  | some (v, []) => v
  | _ => .string text

end Switchboard.Inline
