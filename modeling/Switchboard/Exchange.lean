import Switchboard.Settings.Sources

/-!
# Exchanges

An exchange holds settings, which are valid, and the directory that all its dispatchers share: a
handler that is registered later is found by the dispatchers that are there already.

    ofSettings s          the exchange of valid settings
    ofSources s around    the exchange of the settings that are loaded, if they are valid
    standard around       the same from the usual sources, with the defaults if that fails
-/

namespace Switchboard

structure Exchange (ω : Type) where
  settings : Settings
  directory : Directory ω := .empty

namespace Exchange

variable {ω : Type}

/-! ## Building -/

/-- The exchange of settings, which have to be valid. -/
def ofSettings (settings : Settings) : Except SettingsError (Exchange ω) := do
  settings.validate
  return { settings }

/-- The exchange of the settings that sources give. -/
def ofSources (s : Sources) (around : Surroundings) : Except SettingsError (Exchange ω) := do
  ofSettings (← s.load around)

/-- The exchange of what lies around it; without valid settings the defaults count. -/
def standard (around : Surroundings) : Exchange ω :=
  match ofSources (.standard around) around with
  | .ok x => x
  | .error _ => { settings := {} }

/-! ## Use -/

/-- Gives a name this handler, for all dispatchers. -/
def register (x : Exchange ω) (name : String) (handler : Handler ω) : Exchange ω :=
  { x with directory := x.directory.register name handler }

/-- A new dispatcher under the settings. -/
def dispatcher (x : Exchange ω) : Dispatcher ω := x.settings.plan.build

end Exchange

end Switchboard
