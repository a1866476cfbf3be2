import Switchboard.Call.Handler
import Switchboard.Callback.Reference
import Switchboard.Text.Quoted

/-!
# Directories

A directory holds handlers under names. A name is absent, or declared, or it has a handler.

    register name h    the name has the handler `h`
    declare name       an absent name is declared, any other stays as it is
    remove name        the name is absent

Only a name that is a reference resolves; any text can be registered.
-/

namespace Switchboard

/-- The names in use, each once; a name without a handler is declared. -/
structure Directory (ω : Type) where
  entries : List (String × Option (Handler ω))

namespace Directory

variable {ω : Type}

def empty : Directory ω := ⟨[]⟩

/-- The state of a name. -/
def find? (d : Directory ω) (name : String) : Option (Option (Handler ω)) := d.entries.lookup name

/-- The entries of the other names. -/
def without (d : Directory ω) (name : String) : List (String × Option (Handler ω)) :=
  d.entries.filter (·.1 != name)

/-! ## Changes -/

/-- Gives a name this handler. -/
def register (d : Directory ω) (name : String) (handler : Handler ω) : Directory ω :=
  ⟨d.without name ++ [(name, some handler)]⟩

/-- Makes an absent name known; a handler stays in its place. -/
def declare (d : Directory ω) (name : String) : Directory ω :=
  match d.find? name with
  | some _ => d
  | none => ⟨d.entries ++ [(name, none)]⟩

/-- Makes a name absent; tells whether it was not. -/
def remove (d : Directory ω) (name : String) : Bool × Directory ω :=
  ((d.find? name).isSome, ⟨d.without name⟩)

/-! ## Look-up -/

/-- Whether a name has a handler. -/
def contains (d : Directory ω) (name : String) : Bool :=
  match d.find? name with
  | some (some _) => true
  | _ => false

/-- The names in use, sorted. -/
def names (d : Directory ω) : List String := (d.entries.map (·.1)).mergeSort (· ≤ ·)

def size (d : Directory ω) : Nat := d.entries.length

def isEmpty (d : Directory ω) : Bool := d.entries.isEmpty

/-- The handler that a reference leads to. -/
def resolve (d : Directory ω) (name : String) : Except ResolveError (Handler ω) :=
  match Reference.parse name with
  | .error e => .error e
  | .ok _ =>
    match d.find? name with
    | some (some handler) => .ok handler
    | some none => .error (.notInvocable name)
    | none => .error (.unknown name)

/-- How a directory is shown. -/
def outline (d : Directory ω) : String :=
  "HandlerTable \x7b names: [" ++ ", ".intercalate (d.names.map Quoted.quoted) ++ "] \x7d"

end Directory

end Switchboard
