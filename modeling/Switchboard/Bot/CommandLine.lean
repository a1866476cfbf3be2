import Switchboard.Bot.Commands
import Switchboard.Regex.Memory

/-!
# The bot as a program

    [-i FILE] [-c FILE] [--fail-fast]

The updates come from a file or from the input, one a line. The program ends with 0; with 1 if it
could not start or stopped at a line; with 2 if its arguments are wrong.
-/

namespace Switchboard.Bot

/-! ## Arguments -/

structure Options where
  input? : Option String := none
  config? : Option String := none
  failFast : Bool := false
deriving DecidableEq, Repr

/-- What the arguments ask for. -/
inductive Request where
  | run (options : Options)
  | help
  | wrong
deriving DecidableEq, Repr

namespace Options

def setInput? (o : Options) (value : String) : Option Options :=
  if value = "" ∨ o.input?.isSome then none else some { o with input? := some value }

def setConfig? (o : Options) (value : String) : Option Options :=
  if value = "" ∨ o.config?.isSome then none else some { o with config? := some value }

def setFailFast? (o : Options) : Option Options :=
  if o.failFast then none else some { o with failFast := true }

/-- Whether an argument can stand as the value of the option in front of it. -/
def isValue (argument : String) : Bool :=
  match argument.toList with
  | '-' :: _ :: _ => false
  | _ => true

/-- The setter of an option that takes a value. -/
def setter? (name : String) : Option (Options → String → Option Options) :=
  if name = "-i" ∨ name = "--input" then some setInput?
  else if name = "-c" ∨ name = "--config" then some setConfig?
  else none

/-- The option and the value that stand together in one argument. -/
def splitValue? (argument : String) : Option (String × String) :=
  match argument.toList with
  | '-' :: '-' :: cs =>
    match cs.dropWhile (· != '=') with
    | _ :: value =>
      some (String.ofList ('-' :: '-' :: cs.takeWhile (· != '=')), String.ofList value)
    | [] => none
  | '-' :: c :: '=' :: value => some (String.ofList ['-', c], String.ofList value)
  | '-' :: c :: d :: value => some (String.ofList ['-', c], String.ofList (d :: value))
  | _ => none

end Options

/-- The options after an argument that needs no other. -/
def Options.attach? (o : Options) (argument : String) : Option Options :=
  if argument = "--fail-fast" then o.setFailFast?
  else
    match splitValue? argument with
    | none => none
    | some (name, value) => (setter? name).bind fun set => set o value

/-- What arguments ask for, after these options. -/
def request (o : Options) : List String → Request
  | [] => .run o
  | argument :: rest =>
    if argument = "-h" ∨ argument = "--help" then .help
    else if argument = "--" then if rest.isEmpty then .run o else .wrong
    else
      match Options.setter? argument with
      | none =>
        match o.attach? argument with
        | some o => request o rest
        | none => .wrong
      | some set =>
        match rest with
        | [] => .wrong
        | value :: rest =>
          if Options.isValue value then
            match set o value with
            | some o => request o rest
            | none => .wrong
          else .wrong

/-! ## Input -/

/-- The text before the first line break, and the text behind it. -/
def splitLine : List Char → List Char × List Char
  | [] => ([], [])
  | '\n' :: cs => ([], cs)
  | '\r' :: '\n' :: cs => ([], cs)
  | c :: cs =>
    let (line, rest) := splitLine cs
    (c :: line, rest)

theorem length_splitLine (cs : List Char) : (splitLine cs).2.length ≤ cs.length := by
  fun_induction splitLine cs <;> simp_all <;> omega

theorem length_splitLine_lt (c : Char) (cs : List Char) :
    (splitLine (c :: cs)).2.length < (c :: cs).length := by
  have := length_splitLine cs
  unfold splitLine
  split <;> grind

/-- The lines of a text; a line break at the end begins no line. -/
def lines : List Char → List String
  | [] => []
  | c :: cs => String.ofList (splitLine (c :: cs)).1 :: lines (splitLine (c :: cs)).2
termination_by cs => cs.length
decreasing_by exact length_splitLine_lt c cs

/-! ## Running -/

variable [Regex.Capacity]

/-- What the program prints and how it ends. Lines of the log, which may go to the same stream, are
not among those printed. -/
structure Ending where
  printed : List String := []
  error? : Option String := none
  code : Nat := 0
deriving DecidableEq, Repr

def Ending.failure (message : String) : Ending :=
  { error? := some ("Error: " ++ message), code := 1 }

/-- The sources of the settings that options ask for. -/
def Options.sources (o : Options) (around : Surroundings) : Sources :=
  { Sources.standard around with file? := o.config? }

/-- The text that the updates are read from. -/
def inputText (o : Options) (around : Surroundings) (stdin : String) : Except String String :=
  match o.input? with
  | none => .ok stdin
  | some path =>
    match around.disk path with
    | none => .error ("cannot open " ++ path)
    | some .directory => .error "Is a directory (os error 21)"
    | some (.file text) => .ok text

/-- Runs the bot on the text of the updates. -/
def runOn (x : Exchange String) (failFast : Bool) (text : String) : Ending :=
  match answers x failFast 1 (dispatcher x) (lines text.toList) with
  | (printed, none) => { printed }
  | (printed, some number) =>
    { printed, error? := some ("Error: line " ++ toString number), code := 1 }

def runOptions (o : Options) (around : Surroundings) (stdin : String) : Ending :=
  match Exchange.ofSources (o.sources around) around with
  | .error _ => .failure "failed to start runtime"
  | .ok x =>
    match inputText o around stdin with
    | .error message => .failure message
    | .ok text => runOn (withBans x) o.failFast text

/-- The lines of the help. -/
def help : List String := [
  "Dispatch JSON updates to chat commands",
  "",
  "Usage: command-bot [OPTIONS]",
  "",
  "Options:",
  "  -i, --input <INPUT>    File with one JSON payload per line (defaults to stdin)",
  "  -c, --config <CONFIG>  Configuration file (defaults to beacon.toml in the current directory)",
  "      --fail-fast        Stop processing at the first failing payload",
  "  -h, --help             Print help"]

/-- The whole program. -/
def run (arguments : List String) (around : Surroundings) (stdin : String) : Ending :=
  match request {} arguments with
  | .wrong => { code := 2 }
  | .help => { printed := help }
  | .run o => runOptions o around stdin

end Switchboard.Bot
