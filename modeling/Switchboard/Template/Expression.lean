import Switchboard.Regex.Search
import Switchboard.Template.Delimited
import Switchboard.Template.Expansion
import Switchboard.Text.Quoted

/-!
# Expressions of patterns

The expected text of a pattern is either a delimited expression, used as written, or a template.

    compile text   prefers the delimited reading if the text has no placeholders
    e.captures s   the groups of the preferred match that took part and are not empty
-/

namespace Switchboard

/-- An expression that is ready to be tested against texts. -/
structure Expression where
  source : String
  regex : Regex

/-- Why a text gives no expression. -/
inductive ExpressionError where
  | missingDelimiter (pattern : String)
  | unknownModifier (modifier : Char) (pattern : String)
  /-- The source of the expression that is not well formed, or too large. -/
  | invalid (source : String)
deriving DecidableEq, Repr

namespace ExpressionError

/-- The text of the error, if it has one of its own. -/
def message? : ExpressionError → Option String
  | missingDelimiter pattern => some ("missing delimiter in '" ++ pattern ++ "'")
  | unknownModifier m pattern =>
    some ("unknown modifier '" ++ m.toString ++ "' in '" ++ pattern ++ "'")
  | invalid _ => none

end ExpressionError

namespace Expression

/-! ## Compiling -/

section Compiling
variable [Regex.Capacity]

/-- The expression of a source, which may be malformed or too large. -/
def ofSource (source : String) : Except ExpressionError Expression :=
  match Regex.compile? source.toList with
  | some r => .ok ⟨source, r⟩
  | none => .error (.invalid source)

def ofDelimited (text : String) : Except ExpressionError Expression :=
  match Delimited.sourceOf text with
  | .ok source => ofSource source
  | .error .missingDelimiter => .error (.missingDelimiter text)
  | .error (.unknownModifier m) => .error (.unknownModifier m text)

def ofTemplate (text : String) : Except ExpressionError Expression :=
  ofSource (Template.source text)

/-- The expression for an expected text. A delimited text that is no well-formed expression is
taken as a template after all. -/
def compile (text : String) : Except ExpressionError Expression :=
  if Delimited.isDelimited text && !Template.hasPlaceholders text then
    match ofDelimited text with
    | .ok e => .ok e
    | .error _ => ofTemplate text
  else ofTemplate text

end Compiling

/-! ## Matching -/

/-- Whether the expression matches somewhere in a text. -/
def isMatch (e : Expression) (text : String) : Bool := (e.regex.search text.toList).isSome

/-- The groups of the preferred match that took part and are not empty. -/
def captures (e : Expression) (text : String) : Option (List String) :=
  let cs := text.toList
  (e.regex.search cs).map fun marks =>
    let last := marks.foldl (fun n m => Nat.max n m.1) 0 / 2
    ((List.range last).filterMap fun i => Regex.captured cs marks (i + 1)).filter (· != "")

/-- How an expression is shown. -/
def outline (e : Expression) : String := "CompiledPattern(" ++ Quoted.quoted e.source ++ ")"

end Expression

end Switchboard
