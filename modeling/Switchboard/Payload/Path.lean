import Switchboard.Json.Basic
import Switchboard.Number.Literal

/-!
# Dot paths

A path is a list of segments written between dots. A segment is the key of a member, the decimal
index of an item, or a star, which stands for every child in turn.

    resolve segments v = the first value that the segments lead to, in document order
-/

namespace Switchboard.Path

/-- The texts between dots; the first is the one under way, in reverse. -/
def segmentsFrom (current : List Char) : List Char → List (List Char)
  | [] => [current.reverse]
  | c :: cs =>
    if c = '.' then current.reverse :: segmentsFrom [] cs else segmentsFrom (c :: current) cs

/-- The segments of a path: one more than it has dots. -/
def segments (path : String) : List String := (segmentsFrom [] path.toList).map String.ofList

/-- The segment that stands for every child. -/
def wildcard : String := "*"

/-- A decimal index; one plus sign and leading zeros are allowed. -/
def index? (segment : String) : Option Nat :=
  let digits := match segment.toList with
    | '+' :: cs => cs
    | cs => cs
  if digits.isEmpty || !digits.all Literal.isDigit then none
  else
    let n := Literal.natOfDigits digits
    if n < UInt64.size then some n else none

/-- The values directly below a value, in document order. -/
def children : Json → List Json
  | .object members => members.map (·.2)
  | .array items => items
  | _ => []

/-- The value directly below a value that a key or an index names. -/
def child? (segment : String) : Json → Option Json
  | .object members => Json.member? segment members
  | .array items => (index? segment).bind (items[·]?)
  | _ => none

/-- The first value that the segments lead to. A star tries the children in document order and
goes on to the next one when the rest of the path leads nowhere. -/
def resolve : List String → Json → Option Json
  | [], v => some v
  | segment :: rest, v =>
    if segment = wildcard then (children v).findSome? (resolve rest)
    else (child? segment v).bind (resolve rest)

end Switchboard.Path
