import Switchboard.Text.Blank

/-!
# References to handlers

A callback may name its handler instead of holding it. Such a reference is a target and a method
with the only dot between them, neither of them blank.

    Reference.parse "Moderation.ban" = .ok ⟨"Moderation", "ban"⟩
-/

namespace Switchboard

/-- The two parts of a reference. -/
structure Reference where
  target : String
  method : String
deriving DecidableEq, Repr

/-- Why a reference leads to no handler. -/
inductive ResolveError where
  | malformed (name : String)
  | unknown (name : String)
  /-- The name is declared, but it has no handler. -/
  | notInvocable (name : String)
  /-- There is no directory to look the name up in. -/
  | noDirectory (name : String)
deriving DecidableEq, Repr

namespace ResolveError

/-- The reference as it was registered. -/
def name : ResolveError → String
  | malformed n | unknown n | notInvocable n | noDirectory n => n

def message : ResolveError → String
  | malformed n => "malformed callback reference '" ++ n ++ "': expected 'Name.method'"
  | unknown n => "unknown callback '" ++ n ++ "'"
  | notInvocable n =>
    "callback '" ++ n ++ "' is not invocable: declared without an implementation"
  | noDirectory n => "no resolver configured for callback '" ++ n ++ "'"

end ResolveError

namespace Reference

/-- The text before the first dot and the text behind it. -/
def splitAtDot? : List Char → Option (List Char × List Char)
  | [] => none
  | c :: cs => if c = '.' then some ([], cs) else (splitAtDot? cs).map fun (t, m) => (c :: t, m)

/-- Whether a text can stand before or behind the dot. -/
def isPart (cs : List Char) : Bool := !cs.all isBlank && !cs.contains '.'

def parse (name : String) : Except ResolveError Reference :=
  match splitAtDot? name.toList with
  | some (target, method) =>
    if isPart target && isPart method then .ok ⟨String.ofList target, String.ofList method⟩
    else .error (.malformed name)
  | none => .error (.malformed name)

end Reference

end Switchboard
