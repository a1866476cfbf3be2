import Switchboard.Regex.Class
import Switchboard.Regex.Syntax
import Switchboard.Text.Blank

/-!
# Reading expressions

    Regex.parse? text = some r      the text has the expression `r`
    Regex.compile? text = some r    and the engine has room for it

The dialect has groups, captures (also named), flags, alternatives, greedy and lazy repetitions,
classes with nesting and set operations, properties, and tests of line ends and word boundaries.
It has neither look-around nor back-references. What has no meaning is an error: an escaped letter
without one, a repetition with nothing to repeat, a range that runs backwards, a brace that opens no
repetition.

The fuel of the recursive functions counts characters; every call takes at least one.
-/

namespace Switchboard.Regex.Parser

/-! ## State -/

/-- The flags in force. -/
structure Flags where
  ignoreCase : Bool := false
  multiLine : Bool := false
  dotAll : Bool := false
  swapGreed : Bool := false
  unicode : Bool := true
  crlf : Bool := false
  /-- Blanks and comments between tokens are skipped. -/
  verbose : Bool := false

/-- What is left to read, the flags in force, and the groups so far. -/
structure Cursor where
  rest : List Char
  flags : Flags
  groups : Nat
  names : List (List Char)

/-- A part of an expression with the depth of its nesting. -/
structure Item where
  regex : Regex
  depth : Nat
  /-- Flags stand between parts and cannot be repeated. -/
  isFlags : Bool := false

/-- Expressions may be nested this deep. -/
def maxDepth : Nat := 250

/-- Largest count of a repetition. -/
def maxCount : Nat := 0xFFFFFFFF

/-- The start of an expression. -/
def Cursor.start (text : List Char) : Cursor := ⟨text, {}, 0, []⟩

def Cursor.at (s : Cursor) (rest : List Char) : Cursor := { s with rest := rest }

/-! ## Blanks -/

/-- Skips blanks, and comments up to the end of their line. -/
def skipVerbose : Bool → List Char → List Char
  | _, [] => []
  | true, c :: cs => skipVerbose (c ≠ '\n') cs
  | false, c :: cs =>
    if isBlank c then skipVerbose false cs
    else if c = '#' then skipVerbose true cs
    else c :: cs

def skip (f : Flags) (cs : List Char) : List Char := if f.verbose then skipVerbose false cs else cs

/-! ## Characters and sets -/

/-- The set of one character and its case variants. -/
def charSet (f : Flags) (c : Char) : CodePoints :=
  if !f.ignoreCase then .single c.toNat
  else if f.unicode then .ofList (CaseFold.variants c.toNat)
  else .ofList (CaseFold.asciiVariants c.toNat)

/-- A set with case variants and negation applied. Without Unicode it must be ASCII. -/
def finish? (f : Flags) (negated : Bool) (s : CodePoints) : Option CodePoints :=
  let s :=
    if !f.ignoreCase then s else if f.unicode then CaseFold.close s else CaseFold.closeAscii s
  let s := if negated then s.complement else s
  if f.unicode || s.isAscii then some s else none

/-- A set of digits, blanks or word characters, or its complement. -/
def shorthand? (f : Flags) (negated : Bool) (k : Class.Shorthand) : Option CodePoints :=
  let s := k.set f.unicode
  let s := if negated then s.complement else s
  if f.unicode || s.isAscii then some s else none

/-- Any character, or any one that ends no line. -/
def dot? (f : Flags) : Option CodePoints :=
  if !f.unicode then none
  else if f.dotAll then some .all
  else if f.crlf then some (CodePoints.ofList [10, 13]).complement
  else some (CodePoints.single 10).complement

/-! ## Escapes -/

/-- What an escape or a single character stands for. -/
inductive Primitive where
  | char (c : Char)
  | set (s : CodePoints)
  | look (l : Look)

def isMeta (c : Char) : Bool :=
  ['\\', '.', '+', '*', '?', '(', ')', '|', '[', ']', '\x7b', '\x7d', '^', '$', '#', '&', '-',
    '~'].contains c

/-- ASCII characters without a letter, digit or angle bracket may be escaped without need. -/
def isEscapable (c : Char) : Bool :=
  isMeta c ||
    (c.toNat < 128 && !isAsciiLetter c && !isAsciiDigit c && c ≠ '<' && c ≠ '>')

def isHex (c : Char) : Bool :=
  isAsciiDigit c || ('a' ≤ c && c ≤ 'f') || ('A' ≤ c && c ≤ 'F')

/-- The character of a code point in hexadecimal. -/
def codePoint? (digits : List Char) : Option Char :=
  let n := CodePoints.hex (String.ofList digits)
  if digits.isEmpty then none
  else if n < 0xD800 ∨ (0xE000 ≤ n ∧ n ≤ CodePoints.last) then some (Char.ofNat n)
  else none

/-- Takes characters up to a closing brace. -/
def untilBrace (f : Flags) : Nat → List Char → List Char → Option (List Char × List Char)
  | 0, _, _ => none
  | fuel + 1, seen, cs =>
    match skip f cs with
    | [] => none
    | '\x7d' :: cs => some (seen.reverse, cs)
    | c :: cs => untilBrace f fuel (c :: seen) cs

/-- Takes this many hexadecimal digits. -/
def hexDigits (f : Flags) : Nat → List Char → List Char → Option (List Char × List Char)
  | 0, seen, cs => some (seen.reverse, cs)
  | n + 1, seen, cs =>
    match skip f cs with
    | c :: cs => if isHex c then hexDigits f n (c :: seen) cs else none
    | [] => none

/-- A character by its number: so many digits, or digits in braces. Two digits without Unicode are a
byte, which only ASCII has characters for. -/
def hexEscape (f : Flags) (width : Nat) (cs : List Char) : Option (Char × List Char) := do
  match skip f cs with
  | '\x7b' :: cs =>
    let (digits, cs) ← untilBrace f (cs.length + 1) [] cs
    if digits.all isHex then
      let c ← codePoint? digits
      some (c, skip f cs)
    else none
  | cs =>
    let (digits, cs) ← hexDigits f width [] cs
    let c ← codePoint? digits
    if width = 2 ∧ !f.unicode ∧ 128 ≤ c.toNat then none else some (c, skip f cs)

/-- Splits a text at the first occurrence of a separator. -/
def splitAt? (separator : List Char) : List Char → List Char → Option (List Char × List Char)
  | seen, [] => if separator.isEmpty then some (seen.reverse, []) else none
  | seen, c :: cs =>
    if separator.isPrefixOf (c :: cs) then some (seen.reverse, (c :: cs).drop separator.length)
    else splitAt? separator (c :: seen) cs

/-- The set that the text between the braces of a property names, and whether it says `not`. -/
def property? (text : List Char) : Option (CodePoints × Bool) :=
  let valued (not : Bool) (name value : List Char) :=
    (Class.valued? (String.ofList name) (String.ofList value)).map (·, not)
  match splitAt? ['!', '='] [] text with
  | some (name, value) => valued true name value
  | none =>
    match splitAt? [':'] [] text with
    | some (name, value) => valued false name value
    | none =>
      match splitAt? ['='] [] text with
      | some (name, value) => valued false name value
      | none => (Class.named? (String.ofList text)).map (·, false)

/-- A property by one letter or by a name in braces. -/
def propertyEscape (f : Flags) (negated : Bool) (cs : List Char) :
    Option (CodePoints × List Char) := do
  if !f.unicode then none
  else
    match skip f cs with
    | [] => none
    | '\x7b' :: cs =>
      let (name, cs) ← untilBrace f (cs.length + 1) [] cs
      let (s, not) ← property? name
      let s ← finish? f (negated != not) s
      some (s, cs)
    | c :: cs =>
      if c = '\\' then none
      else
        let s ← Class.named? (String.ofList [c])
        let s ← finish? f negated s
        some (s, skip f cs)

def isBoundaryLetter (c : Char) : Bool := isAsciiLetter c || c == '-'

/-- The letters of the name of a word boundary. -/
def boundaryName (f : Flags) : Nat → List Char → List Char → List Char × List Char
  | 0, seen, cs => (seen.reverse, cs)
  | fuel + 1, seen, cs =>
    match cs with
    | c :: cs =>
      if isBoundaryLetter c then boundaryName f fuel (c :: seen) (skip f cs)
      else (seen.reverse, c :: cs)
    | [] => (seen.reverse, [])

/-- A word boundary, which may have a name in braces; braces around anything but letters are left
to be read as a repetition. -/
def boundary (f : Flags) (cs : List Char) : Option (Look × List Char) :=
  match cs with
  | '\x7b' :: inner =>
    match skip f inner with
    | [] => none
    | c :: inner =>
      if isBoundaryLetter c then
        match boundaryName f (inner.length + 2) [] (c :: inner) with
        | (name, '\x7d' :: cs) =>
          match String.ofList name with
          | "start" => some (.wordStart f.unicode, cs)
          | "end" => some (.wordEnd f.unicode, cs)
          | "start-half" => some (.wordStartHalf f.unicode, cs)
          | "end-half" => some (.wordEndHalf f.unicode, cs)
          | _ => none
        | _ => none
      else some (.wordBoundary f.unicode, cs)
  | _ => some (.wordBoundary f.unicode, cs)

/-- What follows a backslash. -/
def escape (f : Flags) : List Char → Option (Primitive × List Char)
  | [] => none
  | c :: cs =>
    let shorthand (negated : Bool) (k : Class.Shorthand) :=
      (shorthand? f negated k).map fun s => (Primitive.set s, cs)
    if isEscapable c then some (.char c, cs)
    else
      match c with
      | 'x' => (hexEscape f 2 cs).map fun (c, cs) => (.char c, cs)
      | 'u' => (hexEscape f 4 cs).map fun (c, cs) => (.char c, cs)
      | 'U' => (hexEscape f 8 cs).map fun (c, cs) => (.char c, cs)
      | 'p' => (propertyEscape f false cs).map fun (s, cs) => (.set s, cs)
      | 'P' => (propertyEscape f true cs).map fun (s, cs) => (.set s, cs)
      | 'd' => shorthand false .digit
      | 'D' => shorthand true .digit
      | 's' => shorthand false .space
      | 'S' => shorthand true .space
      | 'w' => shorthand false .word
      | 'W' => shorthand true .word
      | 'a' => some (.char '\x07', cs)
      | 'f' => some (.char '\x0c', cs)
      | 't' => some (.char '\t', cs)
      | 'n' => some (.char '\n', cs)
      | 'r' => some (.char '\r', cs)
      | 'v' => some (.char '\x0b', cs)
      | 'A' => some (.look .textStart, cs)
      | 'z' => some (.look .textEnd, cs)
      | 'b' => (boundary f cs).map fun (l, cs) => (.look l, cs)
      | 'B' => some (.look (.notWordBoundary f.unicode), cs)
      | '<' => some (.look (.wordStart f.unicode), cs)
      | '>' => some (.look (.wordEnd f.unicode), cs)
      | _ => none

/-! ## Classes -/

/-- The operations on sets within a class. -/
inductive SetOperation where
  | intersection
  | difference
  | symmetricDifference

def SetOperation.apply : SetOperation → CodePoints → CodePoints → CodePoints
  | intersection, a, b => a.intersection b
  | difference, a, b => a.difference b
  | symmetricDifference, a, b => a.symmetricDifference b

/-- The sets of a class that is under way. -/
structure ClassState where
  /-- The members since the last operation. -/
  union : List CodePoints
  /-- Number and depth of the members since the last operation. -/
  count : Nat
  depth : Nat
  /-- The left side of the operation under way. -/
  left : Option (SetOperation × CodePoints × Nat)

def ClassState.push (k : ClassState) (s : CodePoints) (depth : Nat) : ClassState :=
  { k with union := s :: k.union, count := k.count + 1, depth := Nat.max k.depth depth }

/-- The set so far, with its depth. The sides of an operation get their case variants first. -/
def ClassState.close (f : Flags) (k : ClassState) : CodePoints × Nat :=
  let union := CodePoints.union k.union
  let unionDepth := k.depth + (if 2 ≤ k.count then 1 else 0)
  match k.left with
  | none => (union, unionDepth)
  | some (op, left, leftDepth) =>
    let variants (s : CodePoints) :=
      if !f.ignoreCase then s else if f.unicode then CaseFold.close s else CaseFold.closeAscii s
    (op.apply (variants left) (variants union), Nat.max leftDepth unionDepth + 1)

def ClassState.start : ClassState := ⟨[], 0, 0, none⟩

/-- An ASCII class such as `[:alpha:]`, after its bracket. -/
def asciiClass? (cs : List Char) : Option (CodePoints × Bool × List Char) :=
  match cs with
  | ':' :: cs =>
    let (negated, cs) := match cs with
      | '^' :: cs => (true, cs)
      | cs => (false, cs)
    let name := cs.takeWhile (· ≠ ':')
    match cs.dropWhile (· ≠ ':') with
    | ':' :: ']' :: cs => (Class.ascii? (String.ofList name)).map fun s => (s, negated, cs)
    | _ => none
  | _ => none

/-- Takes hyphens that stand for themselves. -/
def leadingHyphens (f : Flags) : Nat → ClassState → List Char → ClassState × List Char
  | 0, k, cs => (k, cs)
  | fuel + 1, k, cs =>
    match cs with
    | '-' :: cs => leadingHyphens f fuel (k.push (.single '-'.toNat) 0) (skip f cs)
    | cs => (k, cs)

/-- The start of a class after its bracket: a negation, hyphens, and a bracket that stands for
itself. -/
def openClass (f : Flags) (cs : List Char) : Option (Bool × ClassState × List Char) :=
  let cs := skip f cs
  let (negated, cs) := match cs with
    | '^' :: cs => (true, skip f cs)
    | cs => (false, cs)
  let (k, cs) := leadingHyphens f (cs.length + 1) .start cs
  match cs with
  | [] => none
  | ']' :: cs =>
    if k.count = 0 then
      let cs := skip f cs
      if cs.isEmpty then none else some (negated, k.push (.single ']'.toNat) 0, cs)
    else some (negated, k, ']' :: cs)
  | cs => some (negated, k, cs)

/-- One member of a class: an escape or a character. -/
def classPrimitive (f : Flags) : List Char → Option (Primitive × List Char)
  | [] => none
  | '\\' :: cs => escape f cs
  | c :: cs => some (.char c, cs)

/-- The set of a member; without Unicode a character must be ASCII. -/
def Primitive.classSet? (f : Flags) : Primitive → Option CodePoints
  | .char c => if f.unicode || c.toNat < 128 then some (.single c.toNat) else none
  | .set s => some s
  | .look _ => none

/-- The character that decides whether a hyphen is that of a range: the first one after it that is
neither a blank nor the sign of a comment. The text of the comment is not passed over. -/
def decisive? (f : Flags) (cs : List Char) : Option Char :=
  if f.verbose then
    match cs.dropWhile isBlank with
    | '#' :: cs => cs.find? (!isBlank ·)
    | cs => cs.head?
  else cs.head?

/-- Whether a hyphen is no range for what follows it. -/
def endsAtHyphen (f : Flags) (cs : List Char) : Bool :=
  decisive? f cs == some ']' || decisive? f cs == some '-'

/-- A member or a range. -/
def classRange (f : Flags) (cs : List Char) : Option (CodePoints × List Char) := do
  let (first, cs) ← classPrimitive f cs
  match skip f cs with
  | [] => none
  | '-' :: rest =>
    if endsAtHyphen f rest then
      let s ← first.classSet? f
      some (s, '-' :: rest)
    else
      let (second, rest) ← classPrimitive f (skip f rest)
      match first, second with
      | .char a, .char b =>
        if a ≤ b ∧ (f.unicode ∨ b.toNat < 128) then some (.range a.toNat b.toNat, rest) else none
      | _, _ => none
  | cs =>
    let s ← first.classSet? f
    some (s, cs)

/-- The members of a class up to its closing bracket: the set and its depth. -/
def classBody (f : Flags) : Nat → Bool → ClassState → List Char →
    Option (CodePoints × Nat × List Char)
  | 0, _, _, _ => none
  | fuel + 1, negated, k, cs =>
    let operation (op : SetOperation) (cs : List Char) :=
      let (left, depth) := k.close f
      classBody f fuel negated ⟨[], 0, 0, some (op, left, depth)⟩ cs
    match skip f cs with
    | [] => none
    | ']' :: cs =>
      let (s, depth) := k.close f
      (finish? f negated s).map fun s => (s, depth + 1, cs)
    | '[' :: cs =>
      match asciiClass? cs with
      | some (s, not, cs) =>
        match finish? f not s with
        | some s => classBody f fuel negated (k.push s 0) cs
        | none => none
      | none =>
        match openClass f cs with
        | none => none
        | some (not, inner, cs) =>
          match classBody f fuel not inner cs with
          | none => none
          | some (s, depth, cs) => classBody f fuel negated (k.push s depth) cs
    | '&' :: '&' :: cs => operation .intersection cs
    | '-' :: '-' :: cs => operation .difference cs
    | '~' :: '~' :: cs => operation .symmetricDifference cs
    | cs =>
      match classRange f cs with
      | none => none
      | some (s, cs) => classBody f fuel negated (k.push s 0) cs

/-- A class after its opening bracket. -/
def classItem (f : Flags) (cs : List Char) : Option (Item × List Char) := do
  let (negated, k, cs) ← openClass f cs
  let (s, depth, cs) ← classBody f (cs.length + 1) negated k cs
  some (⟨.one s, depth, false⟩, cs)

/-! ## Repetitions -/

/-- Digits of a count; blanks are allowed around them. -/
def countDigits (f : Flags) : Nat → List Char → List Char → List Char × List Char
  | 0, seen, cs => (seen.reverse, cs)
  | fuel + 1, seen, cs =>
    match cs with
    | c :: rest =>
      if isAsciiDigit c then countDigits f fuel (c :: seen) (skip f rest) else (seen.reverse, cs)
    | [] => (seen.reverse, [])

/-- A count: none if there are no digits. -/
def count (f : Flags) (cs : List Char) : Option (Option Nat × List Char) :=
  let (digits, cs) := countDigits f (cs.length + 1) [] (cs.dropWhile isBlank)
  let cs := skip f (cs.dropWhile isBlank)
  if digits.isEmpty then some (none, cs)
  else
    let n := digits.foldl (fun n c => 10 * n + (c.toNat - '0'.toNat)) 0
    if n ≤ maxCount then some (some n, cs) else none

/-- The bounds of a repetition after its brace, up to its closing one. -/
def bounds (f : Flags) (cs : List Char) : Option ((Nat × Option Nat) × List Char) := do
  let (min, cs) ← count f (skip f cs)
  let min ← min
  match cs with
  | '\x7d' :: cs => some ((min, some min), cs)
  | ',' :: cs =>
    match skip f cs with
    | '\x7d' :: cs => some ((min, none), cs)
    | cs =>
      let (max, cs) ← count f cs
      let max ← max
      match cs with
      | '\x7d' :: cs => if min ≤ max then some ((min, some max), cs) else none
      | _ => none
  | _ => none

/-- A repetition of the last part; a question mark after it makes it lazy. -/
def repeatLast (f : Flags) (min : Nat) (max : Option Nat) (items : List Item) (cs : List Char) :
    Option (List Item × List Char) :=
  match items with
  | [] => none
  | item :: items =>
    if item.isFlags then none
    else
      let (isLazy, cs) := match cs with
        | '?' :: cs => (true, cs)
        | cs => (false, cs)
      some (⟨repeated item.regex min max (isLazy == f.swapGreed), item.depth + 1, false⟩ :: items,
        cs)

/-! ## Flags and group names -/

/-- Applies one flag letter. -/
def setFlag? (f : Flags) (value : Bool) : Char → Option Flags
  | 'i' => some { f with ignoreCase := value }
  | 'm' => some { f with multiLine := value }
  | 's' => some { f with dotAll := value }
  | 'U' => some { f with swapGreed := value }
  | 'u' => some { f with unicode := value }
  | 'R' => some { f with crlf := value }
  | 'x' => some { f with verbose := value }
  | _ => none

/-- Flag letters up to a parenthesis or a colon; no letter and no hyphen may occur twice, and a
letter must follow the hyphen. Returns the flags, whether there was any letter, and the end. -/
def flagLetters : Flags → List Char → List Char → Option (Flags × Bool × List Char)
  | _, _, [] => none
  | f, seen, c :: cs =>
    if c = ':' ∨ c = ')' then
      if seen.head? = some '-' then none else some (f, !seen.isEmpty, c :: cs)
    else if seen.contains c then none
    else if c = '-' then flagLetters f (c :: seen) cs
    else
      match setFlag? f (!seen.contains '-') c with
      | some f => flagLetters f (c :: seen) cs
      | none => none

def isNameChar (isFirst : Bool) (c : Char) : Bool :=
  if isFirst then c == '_' || isAlphabetic c
  else c == '_' || c == '.' || c == '[' || c == ']' || isAlphanumeric c

/-- The name of a group up to its closing bracket. -/
def groupName? (cs : List Char) : Option (List Char × List Char) :=
  let name := cs.takeWhile (· ≠ '>')
  match name, cs.dropWhile (· ≠ '>') with
  | c :: more, '>' :: cs =>
    if isNameChar true c ∧ more.all (isNameChar false) then some (name, cs) else none
  | _, _ => none

/-- How a group opens. -/
inductive Opening where
  /-- Flags for the rest of the enclosing group. -/
  | flags (f : Flags)
  | plain (f : Flags)
  | capture (name : Option (List Char))

/-- What follows an opening parenthesis. -/
def opening (f : Flags) (cs : List Char) : Option (Opening × List Char) :=
  match skip f cs with
  | '?' :: '=' :: _ | '?' :: '!' :: _ | '?' :: '<' :: '=' :: _ | '?' :: '<' :: '!' :: _ => none
  | '?' :: 'P' :: '<' :: cs | '?' :: '<' :: cs =>
    (groupName? cs).map fun (name, cs) => (.capture (some name), cs)
  | '?' :: cs =>
    match flagLetters f [] cs with
    | some (f, some?, ')' :: cs) => if some? then some (.flags f, cs) else none
    | some (f, _, ':' :: cs) => some (.plain f, cs)
    | _ => none
  | cs => some (.capture none, cs)

/-! ## Expressions -/

/-- The parts of a sequence, the last one first, as one. -/
def sequenceItem (items : List Item) : Item :=
  match items with
  | [item] => { item with isFlags := false }
  | _ =>
    let depth := items.foldl (fun d i => Nat.max d i.depth) 0
    ⟨sequence (items.reverse.map (·.regex)), if items.isEmpty then 0 else depth + 1, false⟩

/-- Alternatives, the last one first, as one. -/
def alternationItem (items : List Item) : Item :=
  match items with
  | [item] => item
  | _ =>
    ⟨alternation (items.reverse.map (·.regex)),
      items.foldl (fun d i => Nat.max d i.depth) 0 + 1, false⟩

/-- The alternatives before the one under way and that one itself, as one. -/
def closeItem (done items : List Item) : Item := alternationItem (sequenceItem items :: done)

def Primitive.item (f : Flags) : Primitive → Item
  | .char c => ⟨.one (charSet f c), 0, false⟩
  | .set s => ⟨.one s, 0, false⟩
  | .look l => ⟨.look l, 0, false⟩

def lineStart (f : Flags) : Look :=
  if !f.multiLine then .textStart else if f.crlf then .lineStartCrlf else .lineStart

def lineEnd (f : Flags) : Look :=
  if !f.multiLine then .textEnd else if f.crlf then .lineEndCrlf else .lineEnd

/-- Alternatives up to a closing parenthesis or the end, which are left to be read. `items` are the
parts of the alternative under way and `done` the alternatives before it, the last one first. -/
def alternatives : Nat → List Item → List Item → Cursor → Option (Item × Cursor)
  | 0, _, _, _ => none
  | fuel + 1, done, items, s =>
    let f := s.flags
    let go (item : Item) (rest : List Char) := alternatives fuel done (item :: items) (s.at rest)
    let again (min : Nat) (max : Option Nat) (rest : List Char) :=
      match repeatLast f min max items rest with
      | some (items, rest) => alternatives fuel done items (s.at rest)
      | none => none
    let cs := skip f s.rest
    match cs with
    | [] => some (closeItem done items, s.at cs)
    | ')' :: _ => some (closeItem done items, s.at cs)
    | '|' :: cs => alternatives fuel (sequenceItem items :: done) [] (s.at cs)
    | '?' :: cs => again 0 (some 1) cs
    | '*' :: cs => again 0 none cs
    | '+' :: cs => again 1 none cs
    | '\x7b' :: cs =>
      match bounds f cs with
      | some ((min, max), cs) => again min max (skip f cs)
      | none => none
    | '[' :: cs =>
      match classItem f cs with
      | some (item, cs) => go item cs
      | none => none
    | '.' :: cs =>
      match dot? f with
      | some s => go ⟨.one s, 0, false⟩ cs
      | none => none
    | '^' :: cs => go ⟨.look (lineStart f), 0, false⟩ cs
    | '$' :: cs => go ⟨.look (lineEnd f), 0, false⟩ cs
    | '\\' :: cs =>
      match escape f cs with
      | some (p, cs) => go (p.item f) cs
      | none => none
    | '(' :: cs =>
      match opening f cs with
      | none => none
      | some (.flags f, cs) =>
        alternatives fuel done (⟨empty, 0, true⟩ :: items) { s with flags := f, rest := cs }
      | some (.plain inner, cs) =>
        match alternatives fuel [] [] { s with flags := inner, rest := cs } with
        | some (item, { rest := ')' :: cs, flags := _, groups := groups, names := names }) =>
          alternatives fuel done (⟨item.regex, item.depth + 1, false⟩ :: items)
            ⟨cs, f, groups, names⟩
        | _ => none
      | some (.capture name, cs) =>
        if (name.map s.names.contains).getD false then none
        else
          let index := s.groups + 1
          match alternatives fuel [] [] ⟨cs, f, index, name.toList ++ s.names⟩ with
          | some (item, { rest := ')' :: cs, flags := _, groups := groups, names := names }) =>
            alternatives fuel done (⟨group index item.regex, item.depth + 1, false⟩ :: items)
              ⟨cs, f, groups, names⟩
          | _ => none
    | c :: cs => go (Primitive.item f (.char c)) cs

end Switchboard.Regex.Parser

namespace Switchboard.Regex

/-- The expression of a text, if it is well formed and not nested too deep. -/
def parse? (text : List Char) : Option Regex :=
  match Parser.alternatives (text.length + 1) [] [] (.start text) with
  | some (item, { rest := [], .. }) =>
    if item.depth ≤ Parser.maxDepth then some item.regex else none
  | _ => none

/-- The expression of a text, if the engine has room for it. -/
def compile? [Capacity] (text : List Char) : Option Regex := (parse? text).filter Capacity.fits

theorem compile?_eq_some_iff [Capacity] {text : List Char} {r : Regex} :
    compile? text = some r ↔ parse? text = some r ∧ Capacity.fits r = true :=
  Option.filter_eq_some_iff

end Switchboard.Regex
