import Switchboard.Json.Overlay
import Switchboard.Settings.Inline

/-!
# Settings in variables

A variable sets a value of a document. Its name is a fixed front, whatever the case, and then the
keys that lead to the value, divided by two underscores or by a dot.

    BEACON_LOGGING__LEVEL=debug    {"logging": {"level": "debug"}}
-/

namespace Switchboard.Variables

/-- What the names of all variables begin with. -/
def front : String := "BEACON_"

def lowerAscii (c : Char) : Char := if 'A' ≤ c ∧ c ≤ 'Z' then Char.ofNat (c.toNat + 32) else c

def lower (cs : List Char) : List Char := cs.map lowerAscii

/-- The keys between dots or pairs of underscores; the first is the one under way, in reverse. -/
def keysFrom (current : List Char) : List Char → List (List Char)
  | [] => [current.reverse]
  | '.' :: cs => current.reverse :: keysFrom [] cs
  | '_' :: '_' :: cs => current.reverse :: keysFrom [] cs
  | c :: cs => keysFrom (c :: current) cs

/-- The keys that a name leads to; a name with an empty key sets nothing. -/
def keys? (name : String) : Option (List String) :=
  let cs := lower (Blank.trim isBlank name.toList)
  let width := front.length
  if cs.take width = lower front.toList then
    let keys := keysFrom [] (Blank.trim isBlank (cs.drop width))
    if keys.any List.isEmpty then none else some (keys.map String.ofList)
  else none

/-- A value below the keys that lead to it. -/
def nest : List String → Json → Json
  | [], v => v
  | key :: keys, v => .object [(key, nest keys v)]

/-- What one variable sets. -/
def setting (name value : String) : Json :=
  match keys? name with
  | some keys => nest keys (Inline.read value)
  | none => .object []

/-- What variables set together; of two that set the same value the later one counts. -/
def document (assignments : List (String × String)) : Json :=
  assignments.foldl (fun v (name, value) => v.overlay (setting name value)) (.object [])

end Switchboard.Variables
