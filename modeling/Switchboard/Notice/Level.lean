/-!
# Levels of notices

A level has a rank. A consumer that keeps a level keeps all levels of at most its rank.
-/

namespace Switchboard

/-- How urgent a notice is. -/
inductive Level where
  | error
  | warn
  | info
  | debug
  | trace
deriving DecidableEq, Repr

namespace Level

/-- The most urgent level comes first. -/
def rank : Level → Nat
  | error => 0
  | warn => 1
  | info => 2
  | debug => 3
  | trace => 4

/-- The name by which a level is configured. -/
def name : Level → String
  | error => "error"
  | warn => "warn"
  | info => "info"
  | debug => "debug"
  | trace => "trace"

/-- The name by which a level stands in front of a notice. -/
def tag : Level → String
  | error => "ERROR"
  | warn => "WARN"
  | info => "INFO"
  | debug => "DEBUG"
  | trace => "TRACE"

/-- Whether a consumer that keeps the first level sees the second one. -/
def shows (kept level : Level) : Bool := level.rank ≤ kept.rank

end Level

end Switchboard
