import Switchboard.Call.Handler
import Switchboard.Text.Quoted

/-!
# Callbacks

What is registered is a callback: a handler, or the name under which a directory holds one when the
callback is called.
-/

namespace Switchboard

inductive Callback (ω : Type) where
  /-- A handler and the label by which it is reported. -/
  | handler (label : String) (handler : Handler ω)
  /-- The name of a handler. -/
  | symbol (name : String)

namespace Callback

variable {ω : Type}

def isSymbol : Callback ω → Bool
  | .handler _ _ => false
  | .symbol _ => true

/-- The name by which a callback is reported. -/
def label : Callback ω → String
  | .handler label _ => label
  | .symbol name => name

/-- How a callback is shown. -/
def outline : Callback ω → String
  | .handler label _ => "Handler(" ++ Quoted.quoted label ++ ")"
  | .symbol name => "Symbol(" ++ Quoted.quoted name ++ ")"

end Callback

end Switchboard
