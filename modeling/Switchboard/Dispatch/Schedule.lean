/-!
# Schedules

A schedule keeps entries by priority. Entries of a lower priority come first, and entries of one
priority come in the order in which they were added.

    toList (add s p a)    `a` stands behind the entries up to `p` and before those above it
-/

namespace Switchboard

/-- Entries grouped by priority. The priorities ascend, and each has an entry. -/
structure Schedule (α : Type) where
  buckets : List (Int × List α)

namespace Schedule

variable {α : Type}

def empty : Schedule α := ⟨[]⟩

/-- Appends an entry to the bucket of its priority. -/
def insert (priority : Int) (entry : α) : List (Int × List α) → List (Int × List α)
  | [] => [(priority, [entry])]
  | (p, entries) :: rest =>
    if priority < p then (priority, [entry]) :: (p, entries) :: rest
    else if priority = p then (p, entries ++ [entry]) :: rest
    else (p, entries) :: insert priority entry rest

def add (s : Schedule α) (priority : Int) (entry : α) : Schedule α :=
  ⟨insert priority entry s.buckets⟩

/-- The entries in the order in which they get their turn. -/
def toList (s : Schedule α) : List α := s.buckets.flatMap (·.2)

/-- The priorities in use, ascending. -/
def priorities (s : Schedule α) : List Int := s.buckets.map (·.1)

def size (s : Schedule α) : Nat := s.buckets.foldr (fun b n => b.2.length + n) 0

def isEmpty (s : Schedule α) : Bool := s.buckets.isEmpty

end Schedule

end Switchboard
