import Switchboard.Payload.Basic

/-!
# Calls

A call carries the payload under dispatch and the arguments of the callback. Arguments are taken
from the front, and each of them once.

    position + pending.length    the number of arguments that the call began with
-/

namespace Switchboard

/-- A call of a callback. -/
structure Call where
  payload : Payload
  /-- The arguments not yet taken. -/
  pending : List Json
  /-- The number of arguments taken. -/
  position : Nat

/-- Why a parameter could not be bound. -/
inductive BindError where
  /-- No argument is left. -/
  | missing (position : Nat) (expected : String)
  /-- The argument does not convert. -/
  | invalid (position : Nat) (expected : String) (found : Json)
  /-- The argument is not of the type asked for, as the conversion to it tells. -/
  | misshapen (position : Nat) (message : String)
  | custom (message : String)

namespace BindError

def message : BindError → String
  | missing position expected =>
    "missing argument #" ++ toString position ++ ": expected " ++ expected
  | invalid position expected found =>
    "invalid argument #" ++ toString position ++ ": expected " ++ expected ++ ", got " ++ found.text
  | misshapen position message => "invalid argument #" ++ toString position ++ ": " ++ message
  | custom message => message

end BindError

/-- A step that takes arguments of a call, or says why it cannot. -/
abbrev Binding := ExceptT BindError (StateM Call)

namespace Call

/-- A call that has all its arguments ahead. -/
def ofArguments (payload : Payload) (arguments : List Json) : Call := ⟨payload, arguments, 0⟩

/-- The number of arguments not yet taken. -/
def remaining (c : Call) : Nat := c.pending.length

/-- The next argument, which stays. -/
def peek (c : Call) : Option Json := c.pending.head?

/-- Takes the next argument. -/
def next : StateM Call (Option Json) := fun c =>
  match c.pending with
  | [] => (none, c)
  | v :: rest => (some v, { c with pending := rest, position := c.position + 1 })

/-- Takes all arguments that are left. -/
def rest : StateM Call (List Json) := fun c =>
  (c.pending, { c with pending := [], position := c.position + c.pending.length })

/-- Takes the next argument and converts it. An argument that does not convert is taken all the
same. -/
def takeWith {α : Type} (expected : String) (convert : Json → Option α) : Binding α := do
  let position := (← get).position
  match ← next with
  | none => throw (.missing position expected)
  | some v =>
    match convert v with
    | some a => pure a
    | none => throw (.invalid position expected v)

/-- How a call is shown. -/
def outline (c : Call) : String :=
  "CallContext \x7b position: " ++ toString c.position ++ ", remaining: ["
    ++ ", ".intercalate (c.pending.map Json.outline) ++ "], .. \x7d"

end Call

end Switchboard
