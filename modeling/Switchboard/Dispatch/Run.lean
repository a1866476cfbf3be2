import Switchboard.Dispatch.Invocation
import Switchboard.Dispatch.Subscriptions

/-!
# Runs

One dispatch of a payload to the subscriptions.

    1. the hooks before, in their order
    2. each event whose pattern matches, in their order, up to the first that stops
    3. if no pattern matched, the first fallback that the payload has a key of
    4. the hooks after, also when an event stopped

An error ends the run where it arises. Only events can stop anything.
-/

namespace Switchboard

/-- What a run comes to. -/
structure Report where
  /-- A pattern matched. -/
  caught : Bool := false
  /-- An event stopped the ones behind it. -/
  cancelled : Bool := false
  /-- The number of events whose handlers were called. -/
  invoked : Nat := 0
  /-- A fallback had its turn. -/
  fallbackFired : Bool := false
deriving DecidableEq, Repr

def Report.phase (r : Report) : Phase := if r.caught then .caught else .notCaught

namespace Run

variable {ω : Type} [Regex.Capacity]

/-- Attempts hooks one after the other. -/
def hooks (i : Invoker ω) (payload : Payload) : List (Hook ω) → Dispatching ω Unit
  | [] => pure ()
  | hook :: rest => do
    let _ ← i.invoke hook.callback payload hook.extra
    hooks i payload rest

/-- Attempts the events that match, up to the first that stops. -/
def events (i : Invoker ω) (payload : Payload) : List (Event ω) → Report → Dispatching ω Report
  | [], report => pure report
  | event :: rest, report => do
    match ← Progress.matching (event.pattern.captures? payload) with
    | none => events i payload rest report
    | some captures =>
      let report := { report with caught := true }
      match ← i.invoke event.callback payload (captures.map .string ++ event.extra) with
      | none => events i payload rest report
      | some .proceed => events i payload rest { report with invoked := report.invoked + 1 }
      | some .stop =>
        Progress.report (.stopped event.callback.label)
        pure { report with invoked := report.invoked + 1, cancelled := true }

/-- Attempts the fallback for a payload; tells whether there is one. -/
def fallback (i : Invoker ω) (payload : Payload) (s : Subscriptions ω) : Dispatching ω Bool :=
  match s.fallbackFor? payload with
  | none => pure false
  | some f => do
    Progress.report (.fallback f.callback.label)
    let _ ← i.invoke f.callback payload []
    pure true

/-- A whole run. -/
def all (i : Invoker ω) (payload : Payload) (s : Subscriptions ω) : Dispatching ω Report := do
  Progress.report (.started s.size)
  hooks i payload s.before.toList
  Progress.report .matchingEvents
  let report ← events i payload s.events.toList {}
  Progress.report (.processed report.phase report.invoked)
  let fired ← if report.caught then pure false else fallback i payload s
  hooks i payload s.after.toList
  Progress.report .finished
  pure { report with fallbackFired := fired }

end Run

end Switchboard
