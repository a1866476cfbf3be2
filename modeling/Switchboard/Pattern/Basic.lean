import Switchboard.Json.Loose

/-!
# Patterns

A pattern is a list of items. It matches a payload if one of its items does, and the first such item
counts.

    true            matches every payload
    "key"           the payload has a value at the key
    {"key": value}  the value at the key equals the expected one, or passes its expression
    [a, b, …]       one item for each element
-/

namespace Switchboard

/-- One clause of a pattern. -/
inductive Pattern.Item where
  /-- Matches whatever the payload. -/
  | always
  /-- Asks for a value at a path. -/
  | key (path : String)
  /-- Asks for this value at a path, or a text that passes the expected one as an expression. -/
  | keyValue (path : String) (expected : Json)

/-- A list of items in the order in which they are tried. -/
structure Pattern where
  items : List Pattern.Item

namespace Pattern

namespace Item

/-- The path that an item looks at. -/
def path? : Item → Option String
  | always => none
  | key path | keyValue path _ => some path

/-- The item that an element of the notation stands for: of an object only the first member. -/
def ofElement? : Json → Option Item
  | .bool true => some always
  | .string path => some (key path)
  | .number n => some (key n.comparisonText)
  | .object ((path, expected) :: _) => some (keyValue path expected)
  | .object [] | .bool false | .null | .array _ => none

end Item

/-! ## Building -/

/-- The pattern without items, which never matches. -/
def empty : Pattern := ⟨[]⟩

/-- A pattern that matches always or never. -/
def ofBool (b : Bool) : Pattern := ⟨if b then [.always] else []⟩

/-- A pattern that asks for any of some paths. -/
def ofKeys (paths : List String) : Pattern := ⟨paths.map .key⟩

/-- The pattern that a document notes. -/
def ofJson : Json → Pattern
  | .array elements => ⟨elements.filterMap Item.ofElement?⟩
  | .object members => ⟨members.map fun (path, expected) => .keyValue path expected⟩
  | scalar => ⟨(Item.ofElement? scalar).toList⟩

/-- The paths that the items look at. -/
def paths (p : Pattern) : List (Option String) := p.items.map Item.path?

def size (p : Pattern) : Nat := p.items.length

def isEmpty (p : Pattern) : Bool := p.items.isEmpty

end Pattern

end Switchboard
