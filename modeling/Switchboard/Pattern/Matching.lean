import Switchboard.Notice.Basic
import Switchboard.Pattern.Basic
import Switchboard.Pattern.Cache
import Switchboard.Payload.Basic

/-!
# Matching of patterns

An item either decides by itself whether it matches, or it leaves the decision to an expression.
Expressions come from a cache, which changes no answer.

    always                matches
    key path              matches if the payload has a value there
    keyValue path v       the value there is falsy or missing: no match
                          it loosely equals v: a match without captures
                          v is a text and the value a scalar: the expression of v decides
                          otherwise: no match
-/

namespace Switchboard

/-- What an item makes of a payload before an expression is tested. -/
inductive Pattern.Verdict where
  | decided (captures : Option (List String))
  /-- The expression of the first text decides, tested on the second. -/
  | test (expected subject : String)

/-- What matching remembers, and what it has reported. -/
structure Matcher where
  cache : ExpressionCache := .empty
  notices : List Notice := []

abbrev Matching := StateM Matcher

namespace Matcher

def report (notice : Notice) : Matching Unit :=
  modify fun m => { m with notices := m.notices ++ [notice] }

/-- The expression of an expected text, compiled on the first request. -/
def expression? [Regex.Capacity] (text : String) : Matching (Option Expression) := do
  match (← get).cache.find? text with
  | some known => pure known
  | none =>
    let compiled := Expression.compile? text
    if compiled.isNone then report (.brokenExpression text)
    modify fun m => { m with cache := m.cache.add text compiled }
    pure compiled

/-- How a matcher is shown. -/
def outline (m : Matcher) : String :=
  "Matcher \x7b cache: PatternCache \x7b len: " ++ toString m.cache.size ++ " \x7d \x7d"

end Matcher

namespace Pattern

variable [Regex.Capacity]

namespace Item

/-- What is left to test when the value at the path is there and truthy. -/
def compare (received expected : Json) : Verdict :=
  if received.looselyEqual expected then .decided (some [])
  else
    match expected, received.subject? with
    | .string text, some subject => .test text subject
    | _, _ => .decided none

def verdict (item : Item) (payload : Payload) : Verdict :=
  match item with
  | .always => .decided (some [])
  | .key path => .decided (if payload.has path then some [] else none)
  | .keyValue path expected =>
    match payload.get? path with
    | some received => if received.isTruthy then compare received expected else .decided none
    | none => .decided none

/-- The captures of an item that matches. -/
def captures? (item : Item) (payload : Payload) : Matching (Option (List String)) :=
  match item.verdict payload with
  | .decided captures => pure captures
  | .test expected subject => do
    match ← Matcher.expression? expected with
    | some e => pure (e.captures subject)
    | none => pure none

end Item

/-- The captures of the first item that matches; the items are numbered from an index on. -/
def capturesFrom? (payload : Payload) : Nat → List Item → Matching (Option (List String))
  | _, [] => pure none
  | index, item :: rest => do
    match ← item.captures? payload with
    | some captures =>
      Matcher.report (.itemMatched index captures.length)
      pure (some captures)
    | none => capturesFrom? payload (index + 1) rest

/-- The captures of the first item that matches. -/
def captures? (p : Pattern) (payload : Payload) : Matching (Option (List String)) :=
  capturesFrom? payload 0 p.items

end Pattern

end Switchboard
