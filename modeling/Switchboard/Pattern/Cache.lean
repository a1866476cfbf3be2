import Switchboard.Template.Expression

/-!
# Compiled expressions

Each expected text is compiled once. A text that gives no expression is remembered as well, so that
it is reported only the first time.

    cache.find? text = none            the text has not been asked for
    cache.find? text = some none       it gives no expression
    cache.find? text = some (some e)   its expression
-/

namespace Switchboard

/-- What has been compiled so far, in the order of the first requests. -/
structure ExpressionCache where
  entries : List (String × Option Expression)

namespace ExpressionCache

def empty : ExpressionCache := ⟨[]⟩

def find? (cache : ExpressionCache) (text : String) : Option (Option Expression) :=
  cache.entries.lookup text

/-- Remembers what a text gives. -/
def add (cache : ExpressionCache) (text : String) (compiled : Option Expression) :
    ExpressionCache :=
  ⟨cache.entries ++ [(text, compiled)]⟩

/-- The number of texts that have been asked for. -/
def size (cache : ExpressionCache) : Nat := cache.entries.length

def isEmpty (cache : ExpressionCache) : Bool := cache.entries.isEmpty

end ExpressionCache

/-- The expression that a text gives, if it gives one. -/
def Expression.compile? [Regex.Capacity] (text : String) : Option Expression :=
  (compile text).toOption

end Switchboard
