import Switchboard.Json.Loose
import Switchboard.Json.Reader
import Switchboard.Json.Shape
import Switchboard.Payload.Path

/-!
# Payloads

A payload is the document that patterns are matched against. Read from text it is never null.

    payload.get? path   the value at a dot path; the empty path is the whole document
    payload.has path    whether that value is there and is not null
-/

namespace Switchboard

/-- A document to match patterns against. -/
structure Payload where
  root : Json
deriving Inhabited

/-- Why a text is no payload. -/
inductive PayloadError where
  /-- The text is not JSON, or the document has not the shape asked for. -/
  | malformed
  | null
deriving DecidableEq, Repr

namespace PayloadError

/-- The text of the error, if it has one of its own. -/
def message? : PayloadError → Option String
  | malformed => none
  | null => some "invalid payload format: document decodes to null"

end PayloadError

namespace Payload

/-- An empty object. -/
def empty : Payload := ⟨.object []⟩

def ofText (text : String) : Except PayloadError Payload :=
  match Json.read? text with
  | none => .error .malformed
  | some .null => .error .null
  | some v => .ok ⟨v⟩

/-- Whether the document holds no data. -/
def isEmpty (p : Payload) : Bool :=
  match p.root with
  | .null => true
  | .object members => members.isEmpty
  | .array items => items.isEmpty
  | _ => false

/-- The value at a path. -/
def get? (p : Payload) (path : String) : Option Json :=
  if path = "" then some p.root else Path.resolve (Path.segments path) p.root

/-- Whether a path leads to a value other than null; of several values the first one counts. -/
def has (p : Payload) (path : String) : Bool :=
  match p.get? path with
  | some v => !v.isNull
  | none => false

/-- The string at a path. -/
def string? (p : Payload) (path : String) : Option String :=
  match p.get? path with
  | some (.string s) => some s
  | _ => none

/-- The value at a path as a consumer of this shape sees it. -/
def getAs? (p : Payload) (path : String) (shape : Shape) : Option Json :=
  (p.get? path).bind fun v => (shape.read v).toOption

/-- The whole document as a consumer of this shape sees it. -/
def decode (p : Payload) (shape : Shape) : Except PayloadError Json :=
  match shape.read p.root with
  | .ok v => .ok v
  | .error _ => .error .malformed

/-- How a payload is shown. -/
def outline (p : Payload) : String := "Payload(" ++ p.root.outline ++ ")"

end Payload

end Switchboard
