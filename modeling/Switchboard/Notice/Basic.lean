import Switchboard.Callback.Reference
import Switchboard.Notice.Level

/-!
# Notices

What a dispatcher reports while it works. A notice is written as its level, its message and its
fields.

    DEBUG Callback returned false, stopping dispatch callback=Moderation.ban
-/

namespace Switchboard

/-- The phases of a dispatch. -/
inductive Phase where
  | idle
  | dispatching
  /-- An event's pattern matched. -/
  | caught
  /-- No event's pattern matched. -/
  | notCaught
  | done
deriving DecidableEq, Repr

namespace Phase

def all : List Phase := [idle, dispatching, caught, notCaught, done]

def name : Phase → String
  | idle => "idle"
  | dispatching => "dispatching"
  | caught => "caught"
  | notCaught => "not_caught"
  | done => "done"

end Phase

inductive Notice where
  /-- A dispatch over so many events begins. -/
  | started (events : Nat)
  | matchingEvents
  /-- The item of this index matched and captured so many texts. -/
  | itemMatched (index captures : Nat)
  /-- An expected text is no well-formed expression. -/
  | brokenExpression (pattern : String)
  | invoking (callback : String) (arguments : Nat)
  /-- A callback was left out, at the level that the policy for it asks for. -/
  | skipped (level : Level) (error : ResolveError)
  | stopped (callback : String)
  | processed (phase : Phase) (invoked : Nat)
  | fallback (callback : String)
  | finished
  /-- A directive for logging is none. -/
  | ignoredDirective (directive reason : String)
deriving DecidableEq, Repr

namespace Notice

def level : Notice → Level
  | matchingEvents | itemMatched _ _ | invoking _ _ | finished => .trace
  | started _ | brokenExpression _ | stopped _ | processed _ _ | fallback _ => .debug
  | ignoredDirective _ _ => .warn
  | skipped l _ => l

def message : Notice → String
  | started _ => "span dispatch"
  | matchingEvents => "Matching events"
  | itemMatched _ _ => "Pattern item matched"
  | brokenExpression _ => "Pattern failed to compile, treating as non-match"
  | invoking _ _ => "Invoking callback"
  | skipped _ _ => "Skipping unresolved callback"
  | stopped _ => "Callback returned false, stopping dispatch"
  | processed _ _ => "Events processed"
  | fallback _ => "Firing default callback"
  | finished => "Dispatch finished"
  | ignoredDirective _ _ => "Ignoring invalid log directive"

def fields : Notice → List (String × String)
  | started events => [("events", toString events)]
  | matchingEvents => [("state", Phase.dispatching.name)]
  | itemMatched index captures =>
    [("item_index", toString index), ("params", toString captures)]
  | brokenExpression pattern => [("pattern", pattern)]
  | invoking callback arguments => [("callback", callback), ("args", toString arguments)]
  | skipped _ error => [("callback", error.name), ("error", error.message)]
  | stopped callback | fallback callback => [("callback", callback)]
  | processed phase invoked => [("state", phase.name), ("invoked", toString invoked)]
  | finished => [("state", Phase.done.name)]
  | ignoredDirective directive reason => [("directive", directive), ("error", reason)]

/-- The line of a notice. -/
def text (n : Notice) : String :=
  n.fields.foldl (fun s (k, v) => s ++ " " ++ k ++ "=" ++ v) (n.level.tag ++ " " ++ n.message)

/-- The lines that a consumer of a level sees. -/
def linesAt (kept : Level) (notices : List Notice) : List String :=
  (notices.filter fun n => kept.shows n.level).map text

end Notice

end Switchboard
