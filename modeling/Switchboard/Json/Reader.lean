import Switchboard.Json.Basic

/-!
# Reading JSON text

    Json.read? text = some document

The reader takes standard JSON text: no trailing commas, no raw control characters and no lone
surrogates in strings, at most 127 levels of arrays and objects, and no number past the largest
double. A literal that is no integer of 64 bits is a double, rounded twice: see `numberOf`. Each
reading function returns the value and the text that follows it; the fuel counts
steps and `read?` gives enough for the whole text.
-/

namespace Switchboard.Json.Reader

/-- Arrays and objects may be nested this deep. -/
def maxDepth : Nat := 127

def isBlank (c : Char) : Bool := c == ' ' || c == '\n' || c == '\t' || c == '\r'

def skipBlanks (cs : List Char) : List Char := cs.dropWhile isBlank

/-! ## Strings -/

def hexDigit? (c : Char) : Option Nat :=
  if '0' ≤ c ∧ c ≤ '9' then some (c.toNat - '0'.toNat)
  else if 'a' ≤ c ∧ c ≤ 'f' then some (c.toNat - 'a'.toNat + 10)
  else if 'A' ≤ c ∧ c ≤ 'F' then some (c.toNat - 'A'.toNat + 10)
  else none

/-- Four hexadecimal digits. -/
def readUnit : List Char → Option (Nat × List Char)
  | a :: b :: c :: d :: cs => do
    let a ← hexDigit? a
    let b ← hexDigit? b
    let c ← hexDigit? c
    let d ← hexDigit? d
    some (((a * 16 + b) * 16 + c) * 16 + d, cs)
  | _ => none

def isLeadSurrogate (n : Nat) : Bool := 0xD800 ≤ n && n < 0xDC00

def isTrailSurrogate (n : Nat) : Bool := 0xDC00 ≤ n && n < 0xE000

/-- The character of a numeric escape; a surrogate needs its partner. -/
def readCodePoint (cs : List Char) : Option (Char × List Char) := do
  let (n, cs) ← readUnit cs
  if isTrailSurrogate n then none
  else if isLeadSurrogate n then
    match cs with
    | '\\' :: 'u' :: cs =>
      let (m, cs) ← readUnit cs
      if isTrailSurrogate m then
        some (Char.ofNat (0x10000 + (n - 0xD800) * 0x400 + (m - 0xDC00)), cs)
      else none
    | _ => none
  else some (Char.ofNat n, cs)

/-- The character after a backslash. -/
def readEscape : List Char → Option (Char × List Char)
  | '"' :: cs => some ('"', cs)
  | '\\' :: cs => some ('\\', cs)
  | '/' :: cs => some ('/', cs)
  | 'b' :: cs => some ('\x08', cs)
  | 'f' :: cs => some ('\x0c', cs)
  | 'n' :: cs => some ('\n', cs)
  | 'r' :: cs => some ('\r', cs)
  | 't' :: cs => some ('\t', cs)
  | 'u' :: cs => readCodePoint cs
  | _ => none

/-- A string after its opening quote; `seen` holds the characters so far in reverse. -/
def readString : Nat → List Char → List Char → Option (String × List Char)
  | 0, _, _ => none
  | _ + 1, _, [] => none
  | fuel + 1, seen, c :: cs =>
    if c = '"' then some (String.ofList seen.reverse, cs)
    else if c = '\\' then
      match readEscape cs with
      | some (c, cs) => readString fuel (c :: seen) cs
      | none => none
    else if c.toNat < 0x20 then none
    else readString fuel (c :: seen) cs

/-! ## Numbers -/

/-- The digits of an integer part: no zero stands in front of another digit. -/
def readWhole (cs : List Char) : Option (List Char × List Char) :=
  let digits := cs.takeWhile Literal.isDigit
  match digits with
  | [] => none
  | '0' :: _ :: _ => none
  | _ => some (digits, cs.dropWhile Literal.isDigit)

/-- A point and the digits after it, if there is a point. -/
def readFraction : List Char → Option (Option (List Char) × List Char)
  | '.' :: cs =>
    let digits := cs.takeWhile Literal.isDigit
    if digits.isEmpty then none else some (some digits, cs.dropWhile Literal.isDigit)
  | cs => some (none, cs)

/-- The exponent, if there is one. -/
def readExponent : List Char → Option (Option Int × List Char)
  | [] => some (none, [])
  | c :: cs =>
    if c = 'e' ∨ c = 'E' then
      let (neg, cs) := Literal.readSign cs
      let digits := cs.takeWhile Literal.isDigit
      if digits.isEmpty then none
      else
        let n : Int := Literal.natOfDigits digits
        some (some (if neg then -n else n), cs.dropWhile Literal.isDigit)
    else some (none, c :: cs)

/-- The integer of the leading digits, as long as it fits 64 bits, and the digits left over. -/
def leading (n : Nat) : List Char → Nat × List Char
  | [] => (n, [])
  | c :: cs =>
    let m := 10 * n + Literal.digitValue c
    if m < UInt64.size then leading m cs else (n, c :: cs)

/-- The largest power of ten that is multiplied or divided by at once. -/
def maxPower : Nat := 308

/-- `f · 10^exponent` in doubles, one power of ten at a time; there is none past the largest
double. -/
def scale? : Nat → Binary64 → Int → Option Binary64
  | 0, f, _ => some f
  | steps + 1, f, exponent =>
    if exponent.natAbs ≤ maxPower then
      let power := Binary64.ofDecimal false 1 exponent.natAbs
      if exponent < 0 then some (f.dividedBy power)
      else
        let product := f.times power
        if product.isInfinite then none else some product
    else if f.isZero then some f
    else if 0 < exponent then none
    else scale? steps (f.dividedBy (.ofDecimal false 1 maxPower)) (exponent + maxPower)

/-- The number of a literal. An integer that fits 64 bits stays one, but `-0` is a double. All else
is a double: the leading digits that fit 64 bits, rounded, and then scaled by the power of ten that
is left, rounded again. -/
def numberOf (neg : Bool) (whole : List Char) (fraction : Option (List Char))
    (exponent : Option Int) : Option Number :=
  let (n, dropped) := leading 0 whole
  let sign (b : Binary64) : Number := .float (if neg then b.negate else b)
  if dropped.isEmpty && fraction.isNone && exponent.isNone then
    if !neg then some (.int n)
    else if n = 0 ∨ -(n : Int) < Number.minSigned then some (sign (.ofInt n))
    else some (.int (-n))
  else
    let digits := fraction.getD []
    let (n, ignored) := leading n digits
    let places : Int := digits.length - ignored.length
    (scale? 5 (.ofInt n) (dropped.length - places + exponent.getD 0)).map sign

/-- A number after its sign. -/
def readNumber (neg : Bool) (cs : List Char) : Option (Json × List Char) := do
  let (whole, cs) ← readWhole cs
  let (fraction, cs) ← readFraction cs
  let (exponent, cs) ← readExponent cs
  let n ← numberOf neg whole fraction exponent
  some (.number n, cs)

/-! ## Values -/

mutual

def readValue : Nat → Nat → List Char → Option (Json × List Char)
  | 0, _, _ => none
  | fuel + 1, depth, cs =>
    match skipBlanks cs with
    | 'n' :: 'u' :: 'l' :: 'l' :: cs => some (.null, cs)
    | 't' :: 'r' :: 'u' :: 'e' :: cs => some (.bool true, cs)
    | 'f' :: 'a' :: 'l' :: 's' :: 'e' :: cs => some (.bool false, cs)
    | '"' :: cs => (readString fuel [] cs).map fun (s, cs) => (.string s, cs)
    | '[' :: cs =>
      match depth with
      | 0 => none
      | depth + 1 =>
        match skipBlanks cs with
        | ']' :: cs => some (.array [], cs)
        | cs => readItems fuel depth [] cs
    | '\x7b' :: cs =>
      match depth with
      | 0 => none
      | depth + 1 =>
        match skipBlanks cs with
        | '\x7d' :: cs => some (.object [], cs)
        | cs => readMembers fuel depth [] cs
    | '-' :: cs => readNumber true cs
    | cs => readNumber false cs

/-- The items of an array that is not empty, up to its end; `seen` is in reverse. -/
def readItems : Nat → Nat → List Json → List Char → Option (Json × List Char)
  | 0, _, _, _ => none
  | fuel + 1, depth, seen, cs =>
    match readValue fuel depth cs with
    | none => none
    | some (v, cs) =>
      match skipBlanks cs with
      | ',' :: cs => readItems fuel depth (v :: seen) cs
      | ']' :: cs => some (.array (v :: seen).reverse, cs)
      | _ => none

/-- The members of an object that is not empty, up to its end. -/
def readMembers : Nat → Nat → List (String × Json) → List Char → Option (Json × List Char)
  | 0, _, _, _ => none
  | fuel + 1, depth, seen, cs =>
    match skipBlanks cs with
    | '"' :: cs =>
      match readString fuel [] cs with
      | none => none
      | some (key, cs) =>
        match skipBlanks cs with
        | ':' :: cs =>
          match readValue fuel depth cs with
          | none => none
          | some (v, cs) =>
            match skipBlanks cs with
            | ',' :: cs => readMembers fuel depth (setMember key v seen) cs
            | '\x7d' :: cs => some (.object (setMember key v seen), cs)
            | _ => none
        | _ => none
    | _ => none

end

end Switchboard.Json.Reader

namespace Switchboard.Json

/-- The document of a whole text. -/
def read? (text : String) : Option Json :=
  let cs := text.toList
  match Reader.readValue (2 * cs.length + 2) Reader.maxDepth cs with
  | some (v, rest) => if (Reader.skipBlanks rest).isEmpty then some v else none
  | none => none

end Switchboard.Json
