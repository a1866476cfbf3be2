import Switchboard.Callback.Basic
import Switchboard.Callback.Directory
import Switchboard.Pattern.Matching

/-!
# Invocation of callbacks

A callback is attempted: its handler is looked up if it is a symbol, and called. A symbol that leads
to no handler is skipped, or it ends the dispatch under the strict policy.

    invoke i c payload arguments = some o    the handler was called and asked for `o`
                                 = none      the callback was skipped
-/

namespace Switchboard

/-- What becomes of a symbol that leads to no handler. -/
inductive ResolvePolicy where
  /-- It is skipped. -/
  | silent
  /-- It is skipped with a warning. -/
  | warn
  /-- It ends the dispatch. -/
  | strict
deriving DecidableEq, Repr

namespace ResolvePolicy

def all : List ResolvePolicy := [silent, warn, strict]

/-- The name by which a policy is configured. -/
def name : ResolvePolicy → String
  | silent => "silent"
  | warn => "warn"
  | strict => "strict"

/-- How a policy is shown. -/
def outline : ResolvePolicy → String
  | silent => "Silent"
  | warn => "Warn"
  | strict => "Strict"

/-- The policy of a name. -/
def ofName? (s : String) : Option ResolvePolicy := all.find? (·.name == s)

/-- The level at which a skipped callback is reported. -/
def level : ResolvePolicy → Level
  | silent => .debug
  | warn | strict => .warn

end ResolvePolicy

/-- Why a dispatch ended early. -/
inductive DispatchError where
  /-- The callback of this label failed. -/
  | handler (label : String) (error : HandlerError)
  | unresolved (error : ResolveError)

def DispatchError.message : DispatchError → String
  | handler label e => "callback '" ++ label ++ "' failed: " ++ e.message
  | unresolved e => e.message

/-- A callback whose turn came, with its arguments, and what came of it. -/
structure Attempt (ω : Type) where
  callback : Callback ω
  arguments : List Json
  reply : Except ResolveError (Reply ω)

/-- What a dispatch has done so far. -/
structure Progress (ω : Type) extends Matcher where
  attempts : List (Attempt ω) := []

/-- A step of a dispatch. -/
abbrev Dispatching (ω : Type) := ExceptT DispatchError (StateM (Progress ω))

namespace Progress

variable {ω : Type}

/-- What the handlers emitted, in the order of their calls. -/
def emitted (p : Progress ω) : List ω :=
  p.attempts.flatMap fun a =>
    match a.reply with
    | .ok reply => reply.emitted
    | .error _ => []

/-- A step of matching as a step of a dispatch. -/
def matching {α : Type} (step : Matching α) : Dispatching ω α := fun p =>
  let (a, m) := step.run p.toMatcher
  (.ok a, { p with toMatcher := m })

def report (notice : Notice) : Dispatching ω Unit := matching (Matcher.report notice)

end Progress

/-- Where symbols are looked up, and what becomes of those that lead nowhere. -/
structure Invoker (ω : Type) where
  directory? : Option (Directory ω) := none
  policy : ResolvePolicy := .warn

namespace Invoker

variable {ω : Type}

/-- The handler of a callback. -/
def handler (i : Invoker ω) : Callback ω → Except ResolveError (Handler ω)
  | .handler _ handler => .ok handler
  | .symbol name =>
    match i.directory? with
    | some d => d.resolve name
    | none => .error (.noDirectory name)

/-- Skips a callback that has no handler, unless the policy forbids it. -/
def skip (i : Invoker ω) (e : ResolveError) : Dispatching ω (Option Outcome) :=
  match i.policy with
  | .strict => throw (.unresolved e)
  | policy => do
    Progress.report (.skipped policy.level e)
    pure none

/-- Attempts a callback. -/
def invoke (i : Invoker ω) (callback : Callback ω) (payload : Payload) (arguments : List Json) :
    Dispatching ω (Option Outcome) := do
  let attempted (reply : Except ResolveError (Reply ω)) : Dispatching ω Unit :=
    modify fun p => { p with attempts := p.attempts ++ [⟨callback, arguments, reply⟩] }
  match i.handler callback with
  | .error e =>
    attempted (.error e)
    i.skip e
  | .ok handler =>
    Progress.report (.invoking callback.label arguments.length)
    let reply := handler (.ofArguments payload arguments)
    attempted (.ok reply)
    match reply.result with
    | .ok outcome => pure (some outcome)
    | .error e => throw (.handler callback.label e)

/-- How an invoker is shown. -/
def outline (i : Invoker ω) : String :=
  "CallbackInvoker \x7b has_resolver: " ++ toString i.directory?.isSome ++ ", policy: "
    ++ i.policy.outline ++ " \x7d"

end Invoker

end Switchboard
