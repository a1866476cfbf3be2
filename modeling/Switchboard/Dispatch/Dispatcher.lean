import Switchboard.Dispatch.Run

/-!
# Dispatchers

A dispatcher holds a payload and subscriptions. Its symbols are looked up in the directory as it
stands at each run.

    d.run directory = (answer, progress, d')    `d'` differs from `d` in its cache only
-/

namespace Switchboard

structure Dispatcher (ω : Type) where
  payload : Payload := .empty
  subscriptions : Subscriptions ω := {}
  cache : ExpressionCache := .empty
  policy : ResolvePolicy := .warn
  /-- Whether symbols are looked up in a directory at all. -/
  resolves : Bool := false
  /-- The priority of a registration that names none. -/
  defaultPriority : Int := 500

namespace Dispatcher

variable {ω : Type}

/-! ## Payload -/

/-- Replaces the payload; one that cannot be read leaves the old one in its place. -/
def setPayload (d : Dispatcher ω) (payload : Except PayloadError Payload) :
    Except PayloadError Unit × Dispatcher ω :=
  match payload with
  | .ok p => (.ok (), { d with payload := p })
  | .error e => (.error e, d)

/-! ## Registration -/

/-- Registers an event. -/
def on (d : Dispatcher ω) (pattern : Pattern) (callback : Callback ω)
    (priority : Int := d.defaultPriority) (extra : List Json := []) : Dispatcher ω :=
  { d with subscriptions := d.subscriptions.addEvent ⟨pattern, callback, priority, extra⟩ }

/-- Registers a hook that runs before the events. -/
def before (d : Dispatcher ω) (callback : Callback ω) (priority : Int := d.defaultPriority)
    (extra : List Json := []) : Dispatcher ω :=
  { d with subscriptions := d.subscriptions.addBefore ⟨callback, priority, extra⟩ }

/-- Registers a hook that runs after everything else. -/
def after (d : Dispatcher ω) (callback : Callback ω) (priority : Int := d.defaultPriority)
    (extra : List Json := []) : Dispatcher ω :=
  { d with subscriptions := d.subscriptions.addAfter ⟨callback, priority, extra⟩ }

/-- Registers a fallback. -/
def fallback (d : Dispatcher ω) (keys : List String) (callback : Callback ω) : Dispatcher ω :=
  { d with subscriptions := d.subscriptions.addFallback ⟨keys, callback⟩ }

/-! ## Reset -/

/-- Drops every registration. -/
def resetEvents (d : Dispatcher ω) : Dispatcher ω := { d with subscriptions := {} }

/-- Puts an empty object in the place of the payload. -/
def resetPayload (d : Dispatcher ω) : Dispatcher ω := { d with payload := .empty }

def resetAll (d : Dispatcher ω) : Dispatcher ω := d.resetEvents.resetPayload

/-! ## Runs -/

/-- How callbacks are attempted while the directory stands as given. -/
def invoker (d : Dispatcher ω) (directory : Directory ω) : Invoker ω :=
  ⟨if d.resolves then some directory else none, d.policy⟩

/-- Dispatches the payload. -/
def run [Regex.Capacity] (d : Dispatcher ω) (directory : Directory ω) :
    Except DispatchError Report × Progress ω × Dispatcher ω :=
  let steps := Run.all (d.invoker directory) d.payload d.subscriptions
  let (answer, progress) := steps.run { cache := d.cache }
  (answer, progress, { d with cache := progress.cache })

end Dispatcher

/-! ## Building -/

/-- The settings that a dispatcher is built from. -/
structure DispatcherPlan where
  payload : Payload := .empty
  resolves : Bool := false
  policy : ResolvePolicy := .warn
  defaultPriority? : Option Int := none

namespace DispatcherPlan

/-- The dispatcher of a plan, without any subscription. -/
def build {ω : Type} (plan : DispatcherPlan) : Dispatcher ω :=
  { payload := plan.payload, resolves := plan.resolves, policy := plan.policy,
    defaultPriority := plan.defaultPriority?.getD 500 }

/-- How a plan is shown. -/
def outline (plan : DispatcherPlan) : String :=
  "DispatcherBuilder \x7b has_resolver: " ++ toString plan.resolves ++ ", resolve_policy: "
    ++ plan.policy.outline ++ ", default_priority: "
    ++ (match plan.defaultPriority? with
      | some p => "Some(" ++ toString p ++ ")"
      | none => "None")
    ++ ", .. \x7d"

end DispatcherPlan

end Switchboard
