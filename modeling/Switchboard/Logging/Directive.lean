import Switchboard.Number.Literal
import Switchboard.Regex.Parser
import Switchboard.Text.Blank

/-!
# Filter directives

A directive asks for a level, of everything or of what a target names.

    level                            target                 target=level
    target[span]=level               [span]=level           target[span{field,field=value}]=level

The level may be missing. `check` says whether a text is a directive.
-/

namespace Switchboard

/-- Why a text is no directive. -/
inductive DirectiveError where
  | malformed
  /-- The text behind the equals sign is no level. -/
  | level
deriving DecidableEq, Repr

def DirectiveError.message : DirectiveError → String
  | malformed => "invalid filter directive"
  | level => "error parsing level filter: expected one of \"off\", \"error\", \"warn\", " ++
      "\"info\", \"debug\", \"trace\", or a number 0-5"

namespace Directive

def lowerAscii (c : Char) : Char := if 'A' ≤ c ∧ c ≤ 'Z' then Char.ofNat (c.toNat + 32) else c

/-- The words for levels. -/
def levelWords : List (List Char) :=
  ["off", "error", "warn", "info", "debug", "trace"].map String.toList

/-- Whether a text is empty, or the word for a level in any case, or the number of one. -/
def isLevel (cs : List Char) : Bool :=
  let digits := match cs with
    | '+' :: cs => cs
    | cs => cs
  cs.isEmpty || levelWords.contains (cs.map lowerAscii) ||
    (!digits.isEmpty && digits.all Literal.isDigit && Literal.natOfDigits digits ≤ 5)

/-- The error of a level, if it is none. Behind blanks only the missing level is one. -/
def checkLevel (indented : Bool) (cs : List Char) : Except DirectiveError Unit :=
  if cs.isEmpty || (isLevel cs && !indented) then .ok () else .error .level

/-- What may follow the equals sign: a level, and a comma behind it. -/
def checkEnd (indented : Bool) (cs trailing : List Char) : Except DirectiveError Unit :=
  match cs.dropWhile (· != ',') with
  | [] => checkLevel indented (cs ++ trailing)
  | _ :: rest => do
    checkLevel indented (cs.takeWhile (· != ','))
    if rest.isEmpty then .ok () else .error .malformed

/-- What may follow the span: nothing or a level. -/
def checkAfterSpan (indented : Bool) (cs trailing : List Char) : Except DirectiveError Unit :=
  match cs with
  | [] => .ok ()
  | '=' :: cs => checkEnd indented cs trailing
  | _ => .error .malformed

/-- Whether a field can be compared with a text: with the number it spells or with its expression. -/
def isValue (cs : List Char) : Bool := (Literal.read? cs).isSome || (Regex.parse? cs).isSome

/-- Whether a text is a field, which may be followed by a value. -/
def isField (cs : List Char) : Bool :=
  !cs.isEmpty &&
    match cs.dropWhile (· != '=') with
    | [] => true
    | _ :: value => isValue (value.takeWhile (· != '='))

/-- The text behind the fields of a span; the first is the field under way, in reverse. -/
def fieldsEnd? (field : List Char) : List Char → Option (List Char)
  | [] => none
  | c :: cs =>
    if c = '\x7d' then if isField field.reverse then some cs else none
    else if c = ',' then if isField field.reverse then fieldsEnd? [] cs else none
    else fieldsEnd? (c :: field) cs

/-- The text behind a span and its closing bracket. -/
def spanEnd? : List Char → Option (List Char)
  | [] => none
  | c :: cs =>
    if c = ']' then some cs
    else if c = '\x7b' then
      match fieldsEnd? [] cs with
      | some (']' :: cs) => some cs
      | _ => none
    else spanEnd? cs

def checkSpan (indented : Bool) (cs trailing : List Char) : Except DirectiveError Unit :=
  match spanEnd? cs with
  | some cs => checkAfterSpan indented cs trailing
  | none => .error .malformed

def isTargetChar (c : Char) : Bool := c != '=' && c != '[' && c != ','

/-- Whether a character can begin a target. -/
def isTargetStart (c : Char) : Bool := c == '-' || c == ':' || c == '_' || isAlphanumeric c

/-- Whether a text without blanks at its ends is a directive. -/
def checkTrimmed (indented : Bool) (cs trailing : List Char) : Except DirectiveError Unit :=
  match cs with
  | [] => .error .malformed
  | '[' :: cs => checkSpan indented cs trailing
  | c :: _ =>
    if !isTargetStart c then .error .malformed
    else
      match cs.dropWhile isTargetChar with
      | [] => .ok ()
      | '=' :: cs => checkEnd indented cs trailing
      | '[' :: cs => checkSpan indented cs trailing
      | _ :: rest => if rest.isEmpty then .ok () else .error .malformed

/-- Whether a text is a directive, and if not, why. -/
def check (text : String) : Except DirectiveError Unit :=
  let cs := text.toList
  let front := cs.dropWhile isBlank
  let trimmed := Blank.trim isBlank cs
  checkTrimmed (front.length < cs.length) trimmed (front.drop trimmed.length)

end Directive

end Switchboard
