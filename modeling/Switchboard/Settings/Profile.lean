import Switchboard.Text.Lowercase

/-!
# Profiles

A profile chooses among variants of settings files. Its name does not depend on case.
-/

namespace Switchboard

inductive Profile where
  | development
  | production
  | custom (name : String)
deriving DecidableEq, Repr

namespace Profile

def name : Profile → String
  | development => "development"
  | production => "production"
  | custom name => name

/-- The profile of a name; the two known ones have short names as well. -/
def ofName (s : String) : Profile :=
  let lower := Lowercase.ofString s
  if lower = "production" ∨ lower = "prod" then production
  else if lower = "development" ∨ lower = "dev" then development
  else custom lower

/-- The variable that names the profile. -/
def variableName : String := "BEACON_PROFILE"

/-- The profile that the variables ask for. -/
def ofVariables (assignments : List (String × String)) : Profile :=
  match assignments.lookup variableName with
  | some s => ofName s
  | none => development

end Profile

end Switchboard
