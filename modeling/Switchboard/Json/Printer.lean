import Switchboard.Json.Basic
import Switchboard.Text.Quoted

/-!
# Written forms of documents

    Json.text      compact JSON text, members in their order
    Json.outline   the form that names each kind of value, for diagnostics
-/

namespace Switchboard.Json

/-! ## JSON text -/

/-- Quotes, backslashes and control characters are escaped, and nothing else. -/
def escape (c : Char) : List Char :=
  match c with
  | '"' => ['\\', '"']
  | '\\' => ['\\', '\\']
  | '\x08' => ['\\', 'b']
  | '\x0c' => ['\\', 'f']
  | '\n' => ['\\', 'n']
  | '\r' => ['\\', 'r']
  | '\t' => ['\\', 't']
  | c =>
    if c.toNat < 0x20 then
      ['\\', 'u', '0', '0', Quoted.lowerHexDigit (c.toNat / 16),
        Quoted.lowerHexDigit (c.toNat % 16)]
    else [c]

def stringText (s : String) : String := String.ofList ('"' :: s.toList.flatMap escape ++ ['"'])

mutual

/-- Compact JSON text. -/
def text : Json → String
  | .null => "null"
  | .bool b => if b then "true" else "false"
  | .number n => n.documentText
  | .string s => stringText s
  | .array items => "[" ++ ",".intercalate (itemTexts items) ++ "]"
  | .object members => "\x7b" ++ ",".intercalate (memberTexts members) ++ "\x7d"

def itemTexts : List Json → List String
  | [] => []
  | v :: vs => text v :: itemTexts vs

def memberTexts : List (String × Json) → List String
  | [] => []
  | (k, v) :: ms => (stringText k ++ ":" ++ text v) :: memberTexts ms

end

/-! ## Outlines -/

mutual

/-- A value with the name of its kind. -/
def outline : Json → String
  | .null => "Null"
  | .bool b => "Bool(" ++ (if b then "true" else "false") ++ ")"
  | .number n => "Number(" ++ n.documentText ++ ")"
  | .string s => "String(" ++ Quoted.quoted s ++ ")"
  | .array items => "Array [" ++ ", ".intercalate (itemOutlines items) ++ "]"
  | .object members => "Object \x7b" ++ ", ".intercalate (memberOutlines members) ++ "\x7d"

def itemOutlines : List Json → List String
  | [] => []
  | v :: vs => outline v :: itemOutlines vs

def memberOutlines : List (String × Json) → List String
  | [] => []
  | (k, v) :: ms => (Quoted.quoted k ++ ": " ++ outline v) :: memberOutlines ms

end

end Switchboard.Json
