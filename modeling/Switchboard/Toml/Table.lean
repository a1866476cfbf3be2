import Switchboard.Json.Basic

/-!
# Tables of a settings file

While a file is read, its tables remember how they came about, since that decides what may still be
added to them.

    [a.b]      opens `b`; `a` is implied and may still be opened
    a.b = v    adds to `a`, unless `a` has been opened
    [[a]]      adds a table to the list `a`

A key is set once, and a table is opened once.
-/

namespace Switchboard.Toml

/-- How a table came about. -/
inductive TableKind where
  /-- By its own header. -/
  | opened
  /-- On the way to another header. -/
  | implied
  /-- On the way of a dotted key. -/
  | dotted
deriving DecidableEq, Repr

inductive Node where
  | value (v : Json)
  | table (kind : TableKind) (entries : List (String × Node))
  /-- A list of tables; the last one is under way. -/
  | tables (done : List (List (String × Node))) (last : List (String × Node))

abbrev Entries := List (String × Node)

namespace Entries

/-- Changes the node of a key, which may be missing. -/
def alter (key : String) (change : Option Node → Option Node) : Entries → Option Entries
  | [] => (change none).map fun node => [(key, node)]
  | (k, node) :: rest =>
    if k == key then (change (some node)).map fun node => (k, node) :: rest
    else (alter key change rest).map ((k, node) :: ·)

/-- Sets a key that is not set. -/
def set (key : String) (v : Json) : Entries → Option Entries :=
  alter key fun
    | none => some (.value v)
    | some _ => none

/-- Sets a dotted key: the path leads to the table of the key. -/
def setDotted : List String → String → Json → Entries → Option Entries
  | [], key, v, entries => set key v entries
  | segment :: path, key, v, entries =>
    entries.alter segment fun
      | none => (setDotted path key v []).map (.table .dotted)
      | some (.table .dotted inner) => (setDotted path key v inner).map (.table .dotted)
      | some (.table .implied inner) =>
        if path.isEmpty then none else (setDotted path key v inner).map (.table .implied)
      | some (.tables done last) =>
        if path.isEmpty then none else (setDotted path key v last).map (.tables done)
      | some (.table .opened _) | some (.value _) => none

/-- Changes the node at a path of headers; tables on the way are implied. -/
def alterAt : List String → String → (Option Node → Option Node) → Entries → Option Entries
  | [], key, change, entries => entries.alter key change
  | segment :: path, key, change, entries =>
    entries.alter segment fun
      | none => (alterAt path key change []).map (.table .implied)
      | some (.table kind inner) => (alterAt path key change inner).map (.table kind)
      | some (.tables done last) => (alterAt path key change last).map (.tables done)
      | some (.value _) => none

/-- Opens a table that has not been opened. -/
def openTable : Option Node → Option Node
  | none => some (.table .opened [])
  | some (.table .implied entries) => some (.table .opened entries)
  | some _ => none

/-- Adds a table to a list of tables. -/
def openNext : Option Node → Option Node
  | none => some (.tables [] [])
  | some (.tables done last) => some (.tables (done ++ [last]) [])
  | some _ => none

/-- Changes the entries of an open table. -/
def inside (change : Entries → Option Entries) : Option Node → Option Node
  | some (.table kind entries) => (change entries).map (.table kind)
  | some (.tables done last) => (change last).map (.tables done)
  | _ => none

end Entries

mutual

def Node.toJson : Node → Json
  | .value v => v
  | .table _ entries => .object (membersOf entries)
  | .tables done last => .array (itemsOf done ++ [.object (membersOf last)])

def membersOf : List (String × Node) → List (String × Json)
  | [] => []
  | (k, node) :: rest => (k, node.toJson) :: membersOf rest

def itemsOf : List (List (String × Node)) → List Json
  | [] => []
  | entries :: rest => .object (membersOf entries) :: itemsOf rest

end

/-- The document that entries make up. -/
def Entries.toJson (entries : Entries) : Json := .object (membersOf entries)

end Switchboard.Toml
