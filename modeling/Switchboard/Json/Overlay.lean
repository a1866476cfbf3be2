import Switchboard.Json.Basic

/-!
# Layers of documents

Documents are laid one over the other: objects are joined member by member, and of everything else
the upper one counts.

    overlay lower upper   the two as one document
    changes v base        the members of `v` that differ from those of `base`
-/

namespace Switchboard.Json

/-- The members of the first list whose keys the second one lacks. -/
def lacking (members others : List (String × Json)) : List (String × Json) :=
  members.filter fun (k, _) => (member? k others).isNone

mutual

def overlay : Json → Json → Json
  | .object lower, .object upper => .object (overlayMembers lower upper ++ lacking upper lower)
  | _, upper => upper

/-- The lower members, each with what the upper document says of its key. -/
def overlayMembers : List (String × Json) → List (String × Json) → List (String × Json)
  | [], _ => []
  | (k, v) :: rest, upper =>
    (match member? k upper with
      | some w => (k, overlay v w)
      | none => (k, v)) :: overlayMembers rest upper

end

mutual

/-- The part of a value that differs from the base, if any does. -/
def change? : Json → Option Json → Option Json
  | .object members, some (.object base) =>
    let changed := changedMembers members base
    if changed.isEmpty then none else some (.object changed)
  | v, some base => if v.same base then none else some v
  | v, none => some v

def changedMembers : List (String × Json) → List (String × Json) → List (String × Json)
  | [], _ => []
  | (k, v) :: rest, base =>
    match change? v (member? k base) with
    | some w => (k, w) :: changedMembers rest base
    | none => changedMembers rest base

end

/-- The members that differ from those of the base, as an object. -/
def changes (v base : Json) : Json := (change? v (some base)).getD (.object [])

end Switchboard.Json
