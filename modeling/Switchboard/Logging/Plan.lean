import Switchboard.File.Tree
import Switchboard.Logging.Directive
import Switchboard.Notice.Basic
import Switchboard.Settings.Basic
import Switchboard.Text.Quoted

/-!
# Plans of logging

A plan says how log lines are filtered, laid out and where they go. Starting it checks the
directives, of which the ones that are none are ignored, and makes the log file.

    plan.start tree    the notices and the files; logging that is in place already stays there
-/

namespace Switchboard

/-- Why logging was not started. -/
inductive LoggingError where
  | blockedDirectory
  | fileIsDirectory
  /-- Some logging is in place already. -/
  | inPlace
deriving DecidableEq, Repr

def LoggingError.message : LoggingError → String
  | blockedDirectory =>
    "Failed to initialize logging: failed to create log directory: File exists (os error 17)"
  | fileIsDirectory =>
    "Failed to initialize logging: failed to create initial log file: Is a directory (os error 21)"
  | inPlace =>
    "Failed to initialize logging: a global default trace dispatcher has already been set"

namespace SpanEvents

def none : SpanEvents := {}

/-- The beginning and the end of a span. -/
def lifecycle : SpanEvents := { new := true, close := true }

def full : SpanEvents := { new := true, enter := true, exit := true, close := true }

/-- The times in between at which a span is at work. -/
def active : SpanEvents := { enter := true, exit := true }

/-- How span events are shown. -/
def outline (s : SpanEvents) : String :=
  "SpanEvents \x7b new: " ++ toString s.new ++ ", enter: " ++ toString s.enter ++ ", exit: "
    ++ toString s.exit ++ ", close: " ++ toString s.close ++ " \x7d"

end SpanEvents

namespace Level

/-- How a level is shown. -/
def outline : Level → String
  | error => "Level(Error)"
  | warn => "Level(Warn)"
  | info => "Level(Info)"
  | debug => "Level(Debug)"
  | trace => "Level(Trace)"

end Level

/-- Where log lines go. -/
inductive LogDestination where
  | stdout
  | stderr
  /-- A file in a directory; when files are rotated, so many are kept. -/
  | file (directory : List FilePath.Component) (name : String) (kept? : Option Nat)
deriving DecidableEq, Repr

structure LoggingPlan where
  directives : List String := []
  level? : Option Level := none
  spanEvents : SpanEvents := {}
  format : LogFormat := .compact
  output : LogOutput := .stdout
  target : Bool := true
  threadIds : Bool := false
  file : Bool := false
  lineNumber : Bool := false
  filePath? : Option LogPath := none
  rotation : Rotation := .never
  maxFiles : Nat := 5

namespace LoggingPlan

/-- The plan of settings. -/
def ofSettings (s : LoggingSettings) : LoggingPlan :=
  { directives := s.filters.map fun (module, level) => module ++ "=" ++ level.name
    level? := some s.level
    spanEvents := s.spanEvents
    format := s.format
    output := s.output
    threadIds := s.threadIds
    file := s.fileLocation
    lineNumber := s.fileLocation
    filePath? := s.filePath?
    rotation := s.rotation
    maxFiles := s.maxFiles }

def addDirective (p : LoggingPlan) (directive : String) : LoggingPlan :=
  { p with directives := p.directives ++ [directive] }

/-! ## Starting -/

/-- The notices of directives that are none. -/
def ignored (directives : List String) : List Notice :=
  directives.filterMap fun directive =>
    match Directive.check directive with
    | .ok _ => none
    | .error e => some (.ignoredDirective directive e.message)

/-- The name of a log file whose path has none. -/
def standardName : String := "beacon.log"

/-- What rotation adds to the name of a file: the parts of the date, each digit as a number sign. -/
def rotationSuffix : Rotation → String
  | .never => ""
  | .daily => ".####-##-##"
  | .hourly => ".####-##-##-##"
  | .minutely => ".####-##-##-##-##"

/-- The name of the log file of a path. -/
def fileName (p : LoggingPlan) (path : String) : String :=
  (FilePath.fileName? path).getD standardName ++ rotationSuffix p.rotation

/-- How many rotated files are kept: at least one. -/
def kept? (p : LoggingPlan) : Option Nat :=
  if p.rotation = .never then none else some (max 1 p.maxFiles)

/-- Where log lines go; to the error stream when they should go to a file that is not named. -/
def destination (p : LoggingPlan) : LogDestination :=
  match p.output, p.filePath? with
  | .stdout, _ => .stdout
  | .stderr, _ | .file, none => .stderr
  | .file, some path => .file (FilePath.directory path.shown) (p.fileName path.shown) p.kept?

/-- The files after the log file has been made. -/
def makeFile (p : LoggingPlan) (tree : FileTree) : Except LoggingError FileTree :=
  match p.destination with
  | .file directory name _ =>
    match tree.create directory name with
    | .ok tree => .ok tree
    | .error .blocked => .error .blockedDirectory
    | .error .isDirectory => .error .fileIsDirectory
  | .stdout | .stderr => .ok tree

/-- Starts logging where some is in place already. -/
def start (p : LoggingPlan) (tree : FileTree) : LoggingError × FileTree × List Notice :=
  match p.makeFile tree with
  | .ok tree => (.inPlace, tree, ignored p.directives)
  | .error e => (e, tree, ignored p.directives)

/-- How a plan is shown. -/
def outline (p : LoggingPlan) : String :=
  "LoggingBuilder \x7b directives: [" ++ ", ".intercalate (p.directives.map Quoted.quoted)
    ++ "], level: " ++ (match p.level? with
      | some level => "Some(" ++ level.outline ++ ")"
      | none => "None")
    ++ ", span_events: " ++ p.spanEvents.outline
    ++ ", format: " ++ p.format.outline
    ++ ", output: " ++ p.output.outline
    ++ ", with_target: " ++ toString p.target
    ++ ", with_thread_ids: " ++ toString p.threadIds
    ++ ", with_file: " ++ toString p.file
    ++ ", with_line_number: " ++ toString p.lineNumber
    ++ ", file_path: " ++ (match p.filePath? with
      | some path => "Some(" ++ path.quoted ++ ")"
      | none => "None")
    ++ ", rotation: " ++ p.rotation.outline
    ++ ", max_files: " ++ toString p.maxFiles ++ " \x7d"

end LoggingPlan

end Switchboard
