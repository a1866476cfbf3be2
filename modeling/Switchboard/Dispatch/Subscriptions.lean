import Switchboard.Callback.Basic
import Switchboard.Dispatch.Schedule
import Switchboard.Pattern.Basic
import Switchboard.Payload.Basic

/-!
# Subscriptions

Everything that is registered with a dispatcher: events, which wait for a pattern, hooks, which run
before and after them, and fallbacks for payloads that no event matches.
-/

namespace Switchboard

/-- A callback for the payloads that a pattern matches. -/
structure Event (ω : Type) where
  pattern : Pattern
  callback : Callback ω
  priority : Int
  /-- The arguments that follow the captures. -/
  extra : List Json

/-- A callback for every payload. -/
structure Hook (ω : Type) where
  callback : Callback ω
  priority : Int
  extra : List Json

/-- A callback for the payloads without a matching event that have a value at one of the keys. -/
structure Fallback (ω : Type) where
  keys : List String
  callback : Callback ω

structure Subscriptions (ω : Type) where
  events : Schedule (Event ω) := .empty
  before : Schedule (Hook ω) := .empty
  after : Schedule (Hook ω) := .empty
  /-- In the order of their registration. -/
  fallbacks : List (Fallback ω) := []

namespace Subscriptions

variable {ω : Type}

def addEvent (s : Subscriptions ω) (e : Event ω) : Subscriptions ω :=
  { s with events := s.events.add e.priority e }

def addBefore (s : Subscriptions ω) (h : Hook ω) : Subscriptions ω :=
  { s with before := s.before.add h.priority h }

def addAfter (s : Subscriptions ω) (h : Hook ω) : Subscriptions ω :=
  { s with after := s.after.add h.priority h }

def addFallback (s : Subscriptions ω) (f : Fallback ω) : Subscriptions ω :=
  { s with fallbacks := s.fallbacks ++ [f] }

/-- The number of events. -/
def size (s : Subscriptions ω) : Nat := s.events.size

/-- Whether nothing at all is registered. -/
def isEmpty (s : Subscriptions ω) : Bool :=
  s.events.isEmpty && s.before.isEmpty && s.after.isEmpty && s.fallbacks.isEmpty

/-- The first fallback with a key that the payload has a value at. -/
def fallbackFor? (s : Subscriptions ω) (payload : Payload) : Option (Fallback ω) :=
  s.fallbacks.find? fun f => f.keys.any payload.has

end Subscriptions

end Switchboard
