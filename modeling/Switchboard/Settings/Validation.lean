import Switchboard.File.Path
import Switchboard.Logging.Directive
import Switchboard.Settings.Basic

/-!
# Validation of settings

Settings are valid if logging can do what they ask for: a log file has a name, at least one rotated
file is kept, and every filter is a directive.
-/

namespace Switchboard

/-- Why a filter is no directive. -/
inductive FilterError where
  | emptyModule
  | badModule
  | directive (error : DirectiveError)
deriving DecidableEq, Repr

def FilterError.message : FilterError → String
  | emptyModule => "module name is empty"
  | badModule => "module name contains whitespace, '=' or ','"
  | directive e => e.message

/-- Why there are no settings, or no valid ones. -/
inductive SettingsError where
  | fileNotFound (path : String)
  | unsupportedFormat (extension : String)
  /-- A source cannot be read, or the sources together do not make up settings. -/
  | unreadable
  | missingLogPath
  | unnamedLogFile (path : String)
  | noRotatedFiles
  | invalidFilter (filter : String) (error : FilterError)
deriving DecidableEq, Repr

namespace SettingsError

/-- The text of the error, if it has one of its own. -/
def message? : SettingsError → Option String
  | fileNotFound path => some ("Configuration file not found: " ++ path)
  | unsupportedFormat e => some ("Unsupported or disabled configuration file format: ." ++ e)
  | unreadable => none
  | missingLogPath => some "Missing required configuration field: logging.file_path"
  | unnamedLogFile path =>
    some ("Invalid configuration: Log file path has no file name: " ++ path)
  | noRotatedFiles =>
    some ("Invalid configuration: logging.max_files must be at least 1 when rotation is " ++
      "enabled")
  | invalidFilter filter e => some ("Invalid log filter '" ++ filter ++ "': " ++ e.message)

/-- The text of the error when a program could not start because of it. -/
def startMessage? (e : SettingsError) : Option String :=
  e.message?.map ("Configuration error: " ++ ·)

end SettingsError

namespace Settings

/-- The directive of a filter. -/
def filterText (filter : String × Level) : String := filter.1 ++ "=" ++ filter.2.name

def checkFilter (filter : String × Level) : Except FilterError Unit :=
  let cs := filter.1.toList
  if cs.all isBlank then .error .emptyModule
  else if cs.any fun c => isBlank c || c == '=' || c == ',' then .error .badModule
  else
    match Directive.check (filterText filter) with
    | .ok _ => .ok ()
    | .error e => .error (.directive e)

/-- The first filter that is no directive counts. -/
def checkFilters : List (String × Level) → Except SettingsError Unit
  | [] => .ok ()
  | filter :: rest =>
    match checkFilter filter with
    | .ok _ => checkFilters rest
    | .error e => .error (.invalidFilter (filterText filter) e)

def checkOutput (s : LoggingSettings) : Except SettingsError Unit :=
  match s.output, s.filePath? with
  | .file, none => .error .missingLogPath
  | .file, some path =>
    if (FilePath.fileName? path.shown).isNone then .error (.unnamedLogFile path.shown) else .ok ()
  | _, _ => .ok ()

def checkRotation (s : LoggingSettings) : Except SettingsError Unit :=
  if s.rotation != .never && s.maxFiles == 0 then .error .noRotatedFiles else .ok ()

/-- Whether settings are valid, and if not, why. -/
def validate (s : Settings) : Except SettingsError Unit := do
  checkOutput s.logging
  checkRotation s.logging
  checkFilters s.logging.filters

end Settings

end Switchboard
