import Switchboard.Dispatch.Dispatcher
import Switchboard.Json.Shape

/-!
# Settings

What can be configured, with its defaults. Settings are written as a document, unless they name a
path that is no text, and read from one; a record may also stand as an array of its fields in order,
and a missing field has its default.

    settings.toJson?                   the document, if there is one
    Settings.ofJson? false document    no item of an array may be left over
    Settings.ofJson? true document     items past the last field are ignored
-/

namespace Switchboard

/-! ## Choices -/

/-- The value of a name, out of some that have one each. -/
def ofName? {α : Type} (all : List α) (name : α → String) (s : String) : Option α :=
  all.find? fun a => name a == s

/-- How log lines are laid out. -/
inductive LogFormat where
  | compact
  | full
  | pretty
deriving DecidableEq, Repr

namespace LogFormat

def all : List LogFormat := [compact, full, pretty]

def name : LogFormat → String
  | compact => "compact"
  | full => "full"
  | pretty => "pretty"

def outline : LogFormat → String
  | compact => "Compact"
  | full => "Full"
  | pretty => "Pretty"

end LogFormat

/-- Where log lines go. -/
inductive LogOutput where
  | stdout
  | stderr
  | file
deriving DecidableEq, Repr

namespace LogOutput

def all : List LogOutput := [stdout, stderr, file]

def name : LogOutput → String
  | stdout => "stdout"
  | stderr => "stderr"
  | file => "file"

def outline : LogOutput → String
  | stdout => "Stdout"
  | stderr => "Stderr"
  | file => "File"

end LogOutput

/-- How often a new log file is begun. -/
inductive Rotation where
  | never
  | minutely
  | hourly
  | daily
deriving DecidableEq, Repr

namespace Rotation

def all : List Rotation := [never, minutely, hourly, daily]

def name : Rotation → String
  | never => "never"
  | minutely => "minutely"
  | hourly => "hourly"
  | daily => "daily"

def outline : Rotation → String
  | never => "Never"
  | minutely => "Minutely"
  | hourly => "Hourly"
  | daily => "Daily"

end Rotation

namespace Level

def all : List Level := [trace, debug, info, warn, error]

end Level

/-! ## Paths -/

/-- The path of a log file. Not every path of a system is text. -/
inductive LogPath where
  | text (path : String)
  /-- A path that is no text, by what is shown of it: plainly, with signs in the place of what is no
  text, and quoted. -/
  | foreign (shown quoted : String)
deriving DecidableEq, Repr

namespace LogPath

instance : Coe String LogPath := ⟨text⟩

/-- The path as it is shown. The name of its file is taken from what is shown as well. -/
def shown : LogPath → String
  | text path | foreign path _ => path

def quoted : LogPath → String
  | text path => Quoted.quoted path
  | foreign _ quoted => quoted

def isText : LogPath → Bool
  | text _ => true
  | foreign _ _ => false

end LogPath

/-! ## Settings -/

/-- Which moments of a span are logged. -/
structure SpanEvents where
  new : Bool := false
  enter : Bool := false
  exit : Bool := false
  close : Bool := false
deriving DecidableEq, Repr

structure LoggingSettings where
  level : Level := .info
  format : LogFormat := .compact
  output : LogOutput := .stdout
  spanEvents : SpanEvents := {}
  /-- Whether a log line names its thread. -/
  threadIds : Bool := false
  /-- Whether a log line names the place that it comes from. -/
  fileLocation : Bool := false
  filePath? : Option LogPath := none
  rotation : Rotation := .never
  /-- The number of rotated files that are kept. -/
  maxFiles : Nat := 5
  /-- The levels of modules, sorted by module. -/
  filters : List (String × Level) := []
deriving DecidableEq, Repr

structure DispatchSettings where
  defaultPriority : Int := 500
  resolvePolicy : ResolvePolicy := .warn
deriving DecidableEq, Repr

structure Settings where
  logging : LoggingSettings := {}
  dispatch : DispatchSettings := {}
deriving DecidableEq, Repr

/-! ## Writing -/

def SpanEvents.toJson (s : SpanEvents) : Json :=
  .object [
    ("new", .bool s.new),
    ("enter", .bool s.enter),
    ("exit", .bool s.exit),
    ("close", .bool s.close)]

def LoggingSettings.toJson (s : LoggingSettings) : Json :=
  .object [
    ("level", .string s.level.name),
    ("format", .string s.format.name),
    ("output", .string s.output.name),
    ("span_events", s.spanEvents.toJson),
    ("thread_ids", .bool s.threadIds),
    ("file_location", .bool s.fileLocation),
    ("file_path", match s.filePath? with
      | some path => .string path.shown
      | none => .null),
    ("rotation", .string s.rotation.name),
    ("max_files", .ofNat s.maxFiles),
    ("filters", .object (s.filters.map fun (module, level) => (module, .string level.name)))]

def DispatchSettings.toJson (s : DispatchSettings) : Json :=
  .object [
    ("default_priority", .ofInt s.defaultPriority),
    ("resolve_policy", .string s.resolvePolicy.name)]

/-- The members that settings have, with a path as it is shown. -/
def Settings.toJson (s : Settings) : Json :=
  .object [("logging", s.logging.toJson), ("dispatch", s.dispatch.toJson)]

namespace Settings

/-- Whether settings can be written: they cannot if their path is no text. -/
def isWritable (s : Settings) : Bool := s.logging.filePath?.all LogPath.isText

/-- The document of settings, if they can be written. -/
def toJson? (s : Settings) : Option Json := if s.isWritable then some s.toJson else none

/-! ## Reading -/

/-- The fields of a record, by name. -/
def fields? (spare : Bool) (names : List String) : Json → Option (List (String × Json))
  | .object members => some members
  | .array items =>
    if spare || items.length ≤ names.length then some (names.zip items) else none
  | _ => none

/-- The value of a field; a missing one has its default. -/
def field? {α : Type} (fields : List (String × Json)) (name : String) (default : α)
    (read : Json → Option α) : Option α :=
  match Json.member? name fields with
  | none => some default
  | some v => read v

def bool? : Json → Option Bool
  | .bool b => some b
  | _ => none

def integer? (type : IntegerType) : Json → Option Int
  | .number (.int i) => if type.holds i then some i else none
  | _ => none

/-- A text or null. -/
def path? : Json → Option (Option LogPath)
  | .null => some none
  | .string s => some (some (.text s))
  | _ => none

def choice? {α : Type} (all : List α) (name : α → String) (v : Json) : Option α :=
  v.variant?.bind (ofName? all name)

def level? : Json → Option Level := choice? Level.all Level.name

def filter? : String × Json → Option (String × Level)
  | (module, v) => (level? v).map fun level => (module, level)

/-- The levels of modules. -/
def filters? : Json → Option (List (String × Level))
  | .object members =>
    (members.mapM filter?).map fun filters => filters.mergeSort fun a b => a.1 ≤ b.1
  | _ => none

def spanEvents? (spare : Bool) (v : Json) : Option SpanEvents := do
  let fields ← fields? spare ["new", "enter", "exit", "close"] v
  some {
    new := ← field? fields "new" false bool?
    enter := ← field? fields "enter" false bool?
    exit := ← field? fields "exit" false bool?
    close := ← field? fields "close" false bool? }

def logging? (spare : Bool) (v : Json) : Option LoggingSettings := do
  let fields ← fields? spare ["level", "format", "output", "span_events", "thread_ids",
    "file_location", "file_path", "rotation", "max_files", "filters"] v
  let maxFiles ← field? fields "max_files" 5 (integer? .u32)
  some {
    level := ← field? fields "level" .info level?
    format := ← field? fields "format" .compact (choice? LogFormat.all LogFormat.name)
    output := ← field? fields "output" .stdout (choice? LogOutput.all LogOutput.name)
    spanEvents := ← field? fields "span_events" {} (spanEvents? spare)
    threadIds := ← field? fields "thread_ids" false bool?
    fileLocation := ← field? fields "file_location" false bool?
    filePath? := ← field? fields "file_path" none path?
    rotation := ← field? fields "rotation" .never (choice? Rotation.all Rotation.name)
    maxFiles := maxFiles.toNat
    filters := ← field? fields "filters" [] filters? }

def dispatch? (spare : Bool) (v : Json) : Option DispatchSettings := do
  let fields ← fields? spare ["default_priority", "resolve_policy"] v
  some {
    defaultPriority := ← field? fields "default_priority" 500 (integer? .i64)
    resolvePolicy := ←
      field? fields "resolve_policy" .warn (choice? ResolvePolicy.all ResolvePolicy.name) }

def ofJson? (spare : Bool) (v : Json) : Option Settings := do
  let fields ← fields? spare ["logging", "dispatch"] v
  some {
    logging := ← field? fields "logging" {} (logging? spare)
    dispatch := ← field? fields "dispatch" {} (dispatch? spare) }

/-- The plan of dispatchers under the settings. -/
def plan (s : Settings) : DispatcherPlan :=
  { resolves := true, policy := s.dispatch.resolvePolicy,
    defaultPriority? := some s.dispatch.defaultPriority }

end Settings

end Switchboard
