import Switchboard.Call.Parameter

/-!
# Handlers

A handler is a function of a call. Its body runs when all its parameters are bound, and what the
body answers says whether the dispatch goes on: only an explicit `false` stops it.

    Handler.ofParameters ps body    binds `ps` from left to right, then runs the body once
-/

namespace Switchboard

/-- Whether the events behind a handler still get their turn. -/
inductive Outcome where
  | proceed
  | stop
deriving DecidableEq, Repr

/-- Why a handler gave no outcome. -/
inductive HandlerError where
  /-- A parameter could not be bound. -/
  | binding (error : BindError)
  /-- The body failed. -/
  | failed (message : String)

def HandlerError.message : HandlerError → String
  | binding e => e.message
  | failed message => message

/-- What a handler's body answers. -/
inductive Answer where
  | unit
  | outcome (o : Outcome)
  | bool (b : Bool)
  | value (v : Json)
  | absent
  /-- An answer where there might be none, or where there might be a failure. -/
  | present (inner : Answer)
  | failed (message : String)
deriving Inhabited

namespace Answer

/-- The outcome that an answer asks for. -/
def outcome? : Answer → Except HandlerError Outcome
  | .outcome o => .ok o
  | .bool b => .ok (if b then .proceed else .stop)
  | .value (.bool false) => .ok .stop
  | .present inner => inner.outcome?
  | .failed message => .error (.failed message)
  | .unit | .value _ | .absent => .ok .proceed

end Answer

/-- What comes of a call: its outcome, the call as the handler leaves it, and what the body
emitted. -/
structure Reply (ω : Type) where
  result : Except HandlerError Outcome
  call : Call
  emitted : List ω

/-- A function of calls that emits values of some type. -/
abbrev Handler (ω : Type) := Call → Reply ω

/-- The handler with these parameters and this body. -/
def Handler.ofParameters {ω : Type} (parameters : List Parameter)
    (body : List Argument → Answer × List ω) : Handler ω := fun call =>
  match (Parameter.bindAll parameters).run call with
  | (.error e, call) => ⟨.error (.binding e), call, []⟩
  | (.ok arguments, call) =>
    let (answer, emitted) := body arguments
    ⟨answer.outcome?, call, emitted⟩

end Switchboard
