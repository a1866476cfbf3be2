import Switchboard.Bot.CommandLine

/-!
# The program

Gathers what the bot finds around it, runs it, and prints what it answers.
-/

namespace Switchboard.Program

/-- What an open handle gives: a directory opens, but it has no text. -/
def content (handle : IO.FS.Handle) : IO DiskEntry := do
  try
    return .file (← handle.readToEnd)
  catch _ =>
    return .directory

/-- What stands at a path, if it can be opened. -/
def entry? (path : String) : IO (Option DiskEntry) := do
  try
    return some (← content (← IO.FS.Handle.mk path .read))
  catch _ =>
    return none

/-- The variables of the process, each with its value. -/
def assignments : IO (List (String × String)) := do
  let text ← match ← entry? "/proc/self/environ" with
    | some (.file text) => pure text
    | _ => pure ""
  return (text.splitOn "\x00").filterMap fun entry =>
    match entry.splitOn "=" with
    | name :: value => if value.isEmpty then none else some (name, "=".intercalate value)
    | [] => none

/-- The directory for the settings of the user. -/
def userDirectory? (assignments : List (String × String)) : Option String :=
  match assignments.lookup "XDG_CONFIG_HOME", assignments.lookup "HOME" with
  | some path, home? =>
    if path.startsWith "/" then some (FilePath.join path "beacon")
    else home?.map (FilePath.join · ".config/beacon")
  | none, home? => home?.map (FilePath.join · ".config/beacon")

/-- The paths that the bot may look at. -/
def paths (o : Bot.Options) (around : Surroundings) : List String :=
  let searched := ((o.sources around).candidates around).flatMap fun (variant, main) =>
    [variant, main]
  o.input?.toList ++ o.config?.toList ++ searched

/-- What the bot finds around it. -/
def surroundings (arguments : List String) : IO Surroundings := do
  let assigned ← assignments
  let around : Surroundings :=
    { assignments := assigned, disk := fun _ => none,
      userDirectory? := userDirectory? assigned }
  match Bot.request {} arguments with
  | .run o =>
    let entries ← (paths o around).mapM fun path => return (path, ← entry? path)
    return { around with disk := fun path => (entries.lookup path).join }
  | _ => return around

/-- The lines of a stream up to its end. -/
partial def readAll (stream : IO.FS.Stream) (seen : String) : IO String := do
  let line ← stream.getLine
  if line.isEmpty then return seen else readAll stream (seen ++ line)

/-- The text of the input, which is read only where the bot asks for it. -/
def stdin (arguments : List String) : IO String :=
  match Bot.request {} arguments with
  | .run { input? := none, .. } => do readAll (← IO.getStdin) ""
  | _ => return ""

end Switchboard.Program

open Switchboard in
def main (arguments : List String) : IO UInt32 := do
  let around ← Program.surroundings arguments
  let ending := Bot.run arguments around (← Program.stdin arguments)
  for line in ending.printed do
    IO.println line
  if let some message := ending.error? then
    IO.eprintln message
  return ending.code.toUInt32
