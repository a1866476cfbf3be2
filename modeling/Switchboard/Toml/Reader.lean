import Switchboard.Number.Basic
import Switchboard.Text.Blank
import Switchboard.Toml.Table

/-!
# Reading settings files

    Toml.read? text = some document

A file is a list of lines: headers of tables, and keys with their values. Integers have 64 bits and
a sign, and no double is read past the largest one. Each reading function returns what it has read
and the text that follows; the fuel counts steps and `read?` gives enough for the whole text. -/

namespace Switchboard.Toml.Reader

/-! ## Lines -/

def isSpace (c : Char) : Bool := c == ' ' || c == '\t'

def skipSpaces (cs : List Char) : List Char := cs.dropWhile isSpace

/-- Whether a character can stand as it is in a comment or in a string. -/
def isPlain (c : Char) : Bool :=
  c == '\t' || (0x20 ≤ c.toNat && c.toNat < 0x7F) || 0x80 ≤ c.toNat

def skipComment : List Char → List Char
  | '#' :: cs => cs.dropWhile isPlain
  | cs => cs

/-- The text behind a line break. -/
def newline? : List Char → Option (List Char)
  | '\n' :: cs => some cs
  | '\r' :: '\n' :: cs => some cs
  | _ => none

/-- The text behind the end of a line, where only spaces and a comment are left. -/
def endLine? (cs : List Char) : Option (List Char) :=
  match skipComment (skipSpaces cs) with
  | [] => some []
  | cs => newline? cs

/-- Skips spaces, comments and line breaks. -/
def skipGaps : Nat → List Char → List Char
  | 0, cs => cs
  | fuel + 1, cs =>
    let cs := skipComment (skipSpaces cs)
    match newline? cs with
    | some cs => skipGaps fuel cs
    | none => cs

/-! ## Strings -/

def hexDigit? (c : Char) : Option Nat :=
  if '0' ≤ c ∧ c ≤ '9' then some (c.toNat - '0'.toNat)
  else if 'a' ≤ c ∧ c ≤ 'f' then some (c.toNat - 'a'.toNat + 10)
  else if 'A' ≤ c ∧ c ≤ 'F' then some (c.toNat - 'A'.toNat + 10)
  else none

/-- The character of a code point in so many hexadecimal digits. -/
def readCodePoint (width : Nat) (cs : List Char) : Option (Char × List Char) := do
  let digits ← (cs.take width).mapM hexDigit?
  let n := digits.foldl (fun n d => 16 * n + d) 0
  if digits.length = width ∧ n.isValidChar then some (Char.ofNat n, cs.drop width) else none

/-- The character after a backslash. -/
def readEscape : List Char → Option (Char × List Char)
  | '"' :: cs => some ('"', cs)
  | '\\' :: cs => some ('\\', cs)
  | 'b' :: cs => some ('\x08', cs)
  | 'f' :: cs => some ('\x0c', cs)
  | 'n' :: cs => some ('\n', cs)
  | 'r' :: cs => some ('\r', cs)
  | 't' :: cs => some ('\t', cs)
  | 'u' :: cs => readCodePoint 4 cs
  | 'U' :: cs => readCodePoint 8 cs
  | _ => none

/-- A string of one line after its opening quote; `seen` is in reverse. -/
def readBasic : Nat → List Char → List Char → Option (String × List Char)
  | 0, _, _ => none
  | _ + 1, _, [] => none
  | fuel + 1, seen, c :: cs =>
    if c = '"' then some (String.ofList seen.reverse, cs)
    else if c = '\\' then
      match readEscape cs with
      | some (c, cs) => readBasic fuel (c :: seen) cs
      | none => none
    else if isPlain c then readBasic fuel (c :: seen) cs
    else none

/-- A string of one line without escapes, after its opening quote. -/
def readLiteral (cs : List Char) : Option (String × List Char) :=
  let inner (c : Char) : Bool := isPlain c && c != '\''
  match cs.dropWhile inner with
  | '\'' :: rest => some (String.ofList (cs.takeWhile inner), rest)
  | _ => none

/-- The quotes that stand before the closing three, and the text behind those. -/
def closing? (quote : Char) (cs : List Char) : Option (List Char × List Char) :=
  let count := min 5 (cs.takeWhile (· == quote)).length
  if count < 3 then none else some (List.replicate (count - 3) quote, cs.drop count)

/-- A string of many lines after its opening quotes and the line break behind them. -/
def readLines (escapes : Bool) (quote : Char) :
    Nat → List Char → List Char → Option (String × List Char)
  | 0, _, _ => none
  | _ + 1, _, [] => none
  | fuel + 1, seen, c :: cs =>
    match closing? quote (c :: cs), newline? (c :: cs) with
    | some (quotes, rest), _ => some (String.ofList (quotes ++ seen).reverse, rest)
    | none, some rest => readLines escapes quote fuel ('\n' :: seen) rest
    | none, none =>
      if escapes && c == '\\' then
        match newline? (skipSpaces cs) with
        | some rest =>
          readLines escapes quote fuel seen
            (rest.dropWhile fun c => isSpace c || c == '\n' || c == '\r')
        | none =>
          match readEscape cs with
          | some (c, cs) => readLines escapes quote fuel (c :: seen) cs
          | none => none
      else if isPlain c then readLines escapes quote fuel (c :: seen) cs
      else none

/-- The text behind a line break, if there is one at the start. -/
def skipNewline (cs : List Char) : List Char := (newline? cs).getD cs

/-- A string of any kind. -/
def readString (fuel : Nat) : List Char → Option (String × List Char)
  | '"' :: '"' :: '"' :: cs => readLines true '"' fuel [] (skipNewline cs)
  | '\'' :: '\'' :: '\'' :: cs => readLines false '\'' fuel [] (skipNewline cs)
  | '"' :: cs => readBasic fuel [] cs
  | '\'' :: cs => readLiteral cs
  | _ => none

/-! ## Numbers and dates -/

/-- The digits of a group in which single underscores stand between digits. -/
def ungroup? (isDigit : Char → Bool) : List Char → Option (List Char)
  | [] => none
  | [c] => if isDigit c then some [c] else none
  | c :: '_' :: cs => if isDigit c then (ungroup? isDigit cs).map (c :: ·) else none
  | c :: cs => if isDigit c then (ungroup? isDigit cs).map (c :: ·) else none

def fitsInteger (i : Int) : Bool := Number.minSigned ≤ i && i ≤ Number.maxSigned

/-- The value of grouped digits of a base. -/
def based? (base : Nat) (cs : List Char) : Option Int := do
  let below (c : Char) : Bool :=
    match hexDigit? c with
    | some d => d < base
    | none => false
  let digits ← ungroup? below cs
  let n : Nat := digits.foldl (fun n c => base * n + (hexDigit? c).getD 0) 0
  if fitsInteger n then some n else none

/-- Decimal digits without a zero in front of others. -/
def whole? (cs : List Char) : Option (List Char) :=
  match ungroup? Literal.isDigit cs with
  | some ('0' :: _ :: _) => none
  | digits => digits

def integer? : List Char → Option Int
  | '0' :: 'x' :: cs => based? 16 cs
  | '0' :: 'o' :: cs => based? 8 cs
  | '0' :: 'b' :: cs => based? 2 cs
  | cs => do
    let (negative, cs) := Literal.readSign cs
    let n : Int := Literal.natOfDigits (← whole? cs)
    let i := if negative then -n else n
    if fitsInteger i then some i else none

def isMantissa (c : Char) : Bool := c != 'e' && c != 'E'

def float? (cs : List Char) : Option Binary64 := do
  let (negative, cs) := Literal.readSign cs
  let signed (b : Binary64) : Binary64 := if negative then b.negate else b
  if cs = ['i', 'n', 'f'] then some (signed (.infinity false))
  else if cs = ['n', 'a', 'n'] then some (signed .nan)
  else if cs.all fun c => c != '.' && isMantissa c then none
  else
    let mantissa := cs.takeWhile isMantissa
    let whole ← whole? (mantissa.takeWhile (· != '.'))
    let fraction ← match mantissa.dropWhile (· != '.') with
      | [] => some []
      | _ :: cs => ungroup? Literal.isDigit cs
    let exponent ← match cs.dropWhile isMantissa with
      | [] => some []
      | _ :: cs =>
        let (negative, cs) := Literal.readSign cs
        (ungroup? Literal.isDigit cs).map fun digits =>
          'e' :: (if negative then ['-'] else []) ++ digits
    let literal ← Literal.read? (whole ++ '.' :: fraction ++ exponent)
    if literal.toBinary64.isInfinite then none else some (signed literal.toBinary64)

/-- The number of so many decimal digits in front, if it lies between the bounds. -/
def field? (width low high : Nat) (cs : List Char) : Option (List Char) :=
  let digits := cs.take width
  let n := Literal.natOfDigits digits
  if digits.length = width ∧ digits.all Literal.isDigit ∧ low ≤ n ∧ n ≤ high then
    some (cs.drop width)
  else none

/-- The text behind a character that has to come next. -/
def expect? (c : Char) : List Char → Option (List Char)
  | d :: cs => if d = c then some cs else none
  | [] => none

/-- The text behind a date. -/
def date? (cs : List Char) : Option (List Char) :=
  (field? 4 0 9999 cs).bind (expect? '-') |>.bind (field? 2 1 12) |>.bind (expect? '-')
    |>.bind (field? 2 1 31)

/-- The text behind a time of day. -/
def time? (cs : List Char) : Option (List Char) := do
  let cs ← (field? 2 0 23 cs).bind (expect? ':') |>.bind (field? 2 0 59) |>.bind (expect? ':')
    |>.bind (field? 2 0 60)
  match cs with
  | '.' :: cs =>
    if (cs.takeWhile Literal.isDigit).isEmpty then none else some (cs.dropWhile Literal.isDigit)
  | cs => some cs

/-- Whether a text is empty or an offset from universal time. -/
def isOffset (cs : List Char) : Bool :=
  match cs with
  | [] | ['Z'] | ['z'] => true
  | c :: cs =>
    (c == '+' || c == '-') &&
      ((field? 2 0 23 cs).bind (expect? ':') |>.bind (field? 2 0 59)) == some []

/-- Whether a text is a time of day with an offset or without one. -/
def isTime (cs : List Char) : Bool :=
  match time? cs with
  | some rest => isOffset rest
  | none => false

/-- Whether a text is a date, a time of day, or both. -/
def isMoment (cs : List Char) : Bool :=
  time? cs == some [] ||
    match date? cs with
    | some [] => true
    | some (c :: rest) => (c == 'T' || c == 't') && isTime rest
    | none => false

/-- A moment, which no setting takes. -/
def moment (cs : List Char) : Json := .object [("moment", .string (String.ofList cs))]

def isWordChar (c : Char) : Bool :=
  isAsciiLetter c || isAsciiDigit c || c == '+' || c == '-' || c == '_' || c == '.' || c == ':'

/-- The value of a word. -/
def word? (cs : List Char) : Option Json :=
  if cs = "true".toList then some (.bool true)
  else if cs = "false".toList then some (.bool false)
  else if isMoment cs then some (moment cs)
  else ((float? cs).map fun b => .number (.float b)).or ((integer? cs).map Json.ofInt)

/-- A word; a time may follow a date after a blank. -/
def readWord (cs : List Char) : Option (Json × List Char) :=
  let word := cs.takeWhile isWordChar
  let rest := cs.dropWhile isWordChar
  let time := (rest.drop 1).takeWhile isWordChar
  if date? word == some [] && rest.head? == some ' ' && isTime time then
    some (moment (word ++ ' ' :: time), (rest.drop 1).dropWhile isWordChar)
  else (word? word).map fun v => (v, rest)

/-! ## Keys -/

def isBareKey (c : Char) : Bool := isAsciiLetter c || isAsciiDigit c || c == '_' || c == '-'

/-- A part of a key. -/
def readPart (fuel : Nat) (cs : List Char) : Option (String × List Char) :=
  match cs with
  | '"' :: cs => readBasic fuel [] cs
  | '\'' :: cs => readLiteral cs
  | cs =>
    let bare := cs.takeWhile isBareKey
    if bare.isEmpty then none else some (String.ofList bare, cs.dropWhile isBareKey)

/-- A key: the parts in front of the last dot, the last part, and the text behind it and behind the
spaces that follow. -/
def readKey : Nat → List Char → Option (List String × String × List Char)
  | 0, _ => none
  | fuel + 1, cs => do
    let (part, cs) ← readPart fuel (skipSpaces cs)
    match skipSpaces cs with
    | '.' :: cs =>
      let (path, key, cs) ← readKey fuel cs
      some (part :: path, key, cs)
    | cs => some ([], part, cs)

/-! ## Values -/

mutual

def readValue : Nat → List Char → Option (Json × List Char)
  | 0, _ => none
  | fuel + 1, cs =>
    match cs with
    | '"' :: _ | '\'' :: _ => (readString fuel cs).map fun (s, cs) => (.string s, cs)
    | '[' :: cs => readItems fuel [] (skipGaps fuel cs)
    | '\x7b' :: cs =>
      match skipSpaces cs with
      | '\x7d' :: cs => some (.object [], cs)
      | cs => readPairs fuel [] cs
    | cs => readWord cs

/-- The items of an array up to its end; `seen` is in reverse. -/
def readItems : Nat → List Json → List Char → Option (Json × List Char)
  | 0, _, _ => none
  | fuel + 1, seen, cs =>
    match cs with
    | ']' :: cs => some (.array seen.reverse, cs)
    | cs =>
      match readValue fuel cs with
      | none => none
      | some (v, cs) =>
        match skipGaps fuel cs with
        | ',' :: cs => readItems fuel (v :: seen) (skipGaps fuel cs)
        | ']' :: cs => some (.array (v :: seen).reverse, cs)
        | _ => none

/-- The pairs of a table in braces, up to its end. -/
def readPairs : Nat → Entries → List Char → Option (Json × List Char)
  | 0, _, _ => none
  | fuel + 1, seen, cs =>
    match readKey fuel cs with
    | some (path, key, '=' :: cs) =>
      match readValue fuel (skipSpaces cs) with
      | none => none
      | some (v, cs) =>
        match Entries.setDotted path key v seen with
        | none => none
        | some seen =>
          match skipSpaces cs with
          | ',' :: cs => readPairs fuel seen cs
          | '\x7d' :: cs => some (seen.toJson, cs)
          | _ => none
    | _ => none

end

/-! ## Files -/

/-- What has been read of a file, and the header that its lines stand under. -/
structure Sheet where
  entries : Entries
  header : Option (List String × String)

namespace Sheet

/-- Sets a key under the header. -/
def set (s : Sheet) (path : List String) (key : String) (v : Json) : Option Sheet :=
  let change := Entries.setDotted path key v
  let entries? := match s.header with
    | none => change s.entries
    | some (headerPath, headerKey) =>
      s.entries.alterAt headerPath headerKey (Entries.inside change)
  entries?.map fun entries => { s with entries }

/-- Goes on under a new header. -/
def goUnder (s : Sheet) (path : List String) (key : String) (change : Option Node → Option Node) :
    Option Sheet :=
  (s.entries.alterAt path key change).map fun entries => ⟨entries, some (path, key)⟩

end Sheet

/-- One line that is not blank, up to its end. -/
def readLine (fuel : Nat) (s : Sheet) (cs : List Char) : Option (Sheet × List Char) :=
  match cs with
  | '[' :: '[' :: cs =>
    match readKey fuel cs with
    | some (path, key, ']' :: ']' :: cs) =>
      (s.goUnder path key Entries.openNext).map fun s => (s, cs)
    | _ => none
  | '[' :: cs =>
    match readKey fuel cs with
    | some (path, key, ']' :: cs) =>
      (s.goUnder path key Entries.openTable).map fun s => (s, cs)
    | _ => none
  | cs =>
    match readKey fuel cs with
    | some (path, key, '=' :: cs) =>
      match readValue fuel (skipSpaces cs) with
      | some (v, cs) => (s.set path key v).map fun s => (s, cs)
      | none => none
    | _ => none

/-- The lines of a file. -/
def readSheet : Nat → Sheet → List Char → Option Sheet
  | 0, _, _ => none
  | fuel + 1, s, cs =>
    match skipGaps fuel cs with
    | [] => some s
    | cs =>
      match readLine fuel s cs with
      | none => none
      | some (s, cs) =>
        match endLine? cs with
        | some cs => readSheet fuel s cs
        | none => none

end Switchboard.Toml.Reader

namespace Switchboard.Toml

/-- The document of a whole file. -/
def read? (text : String) : Option Json :=
  let cs := match text.toList with
    | '\uFEFF' :: cs => cs
    | cs => cs
  (Reader.readSheet (2 * cs.length + 2) ⟨[], none⟩ cs).map fun s => s.entries.toJson

end Switchboard.Toml
