import Switchboard.File.Tree
import Switchboard.Json.Overlay
import Switchboard.Settings.Profile
import Switchboard.Settings.Validation
import Switchboard.Settings.Variables

/-!
# Sources of settings

Settings come from layers, each laid over the ones before it.

    1. the defaults
    2. the files: one that is named, or the ones that a search finds
    3. the variables
    4. the overrides, in their order

A search goes through directories and, in each, through two names. Of every candidate the variant
for the profile is read if it is there; the first candidate that is there is read last. -/

namespace Switchboard

/-- What settings are loaded from. -/
structure Sources where
  profile : Profile := .development
  /-- Where files are searched for, if not in the usual places. -/
  searchPaths : List String := []
  useVariables : Bool := true
  /-- The file that is read instead of a search. -/
  file? : Option String := none
  /-- The members that differ from the defaults, as a document. -/
  overrides : Json := .object []

/-- What a program finds around it. -/
structure Surroundings where
  assignments : List (String × String)
  disk : Disk
  /-- The directory for the settings of the user. -/
  userDirectory? : Option String

namespace Sources

/-! ## Building -/

/-- The sources that a program starts with. -/
def standard (around : Surroundings) : Sources :=
  { profile := .ofVariables around.assignments }

def addSearchPath (s : Sources) (path : String) : Sources :=
  { s with searchPaths := s.searchPaths ++ [path] }

/-- Searches the directory of the user as well. -/
def addUserDirectory (s : Sources) (around : Surroundings) : Sources :=
  match around.userDirectory? with
  | some path => s.addSearchPath path
  | none => s

/-- The document of what differs from the defaults. Of settings that cannot be written it has
nothing. -/
def changedFields (settings : Settings) : Json :=
  match settings.toJson?, ({} : Settings).toJson? with
  | some set, some base => set.changes base
  | _, _ => .object []

/-- Lays what differs from the defaults over everything else. -/
def merge (s : Sources) (settings : Settings) : Sources :=
  { s with overrides := s.overrides.overlay (changedFields settings) }

/-! ## Files -/

/-- The directories of a search. -/
def directories (s : Sources) (around : Surroundings) : List String :=
  if s.searchPaths.isEmpty then "" :: around.userDirectory?.toList else s.searchPaths

/-- The names of settings files, without their extension. -/
def stems : List String := ["beacon", "config"]

/-- The candidates of a search, each with its variant for the profile in front. -/
def candidates (s : Sources) (around : Surroundings) : List (String × String) :=
  (s.directories around).flatMap fun directory =>
    stems.map fun stem =>
      (FilePath.join directory (stem ++ "." ++ s.profile.name ++ ".toml"),
        FilePath.join directory (stem ++ ".toml"))

/-- The files that a search reads, in their order. -/
def found (disk : Disk) : List (String × String) → List String
  | [] => []
  | (variant, main) :: rest =>
    (if (disk variant).isSome then [variant] else []) ++
      if (disk main).isSome then [main] else found disk rest

/-- The files that are read, in their order. -/
def files (s : Sources) (around : Surroundings) : Except SettingsError (List String) :=
  match s.file? with
  | none => .ok (found around.disk (s.candidates around))
  | some path =>
    if (around.disk path).isNone then .error (.fileNotFound path)
    else
      let extension := (FilePath.extension? path).getD ""
      if extension = "toml" then .ok [path] else .error (.unsupportedFormat extension)

/-- The document of a file; a directory holds nothing. -/
def readFile? (disk : Disk) (path : String) : Option Json :=
  match disk path with
  | some (.file text) => Toml.read? text
  | _ => some (.object [])

/-! ## Loading -/

/-- The layers over the defaults, from the lowest to the highest. -/
def layers (s : Sources) (around : Surroundings) : Except SettingsError (List Json) := do
  let paths ← s.files around
  match paths.mapM (readFile? around.disk) with
  | none => .error .unreadable
  | some documents =>
    let assigned :=
      if s.useVariables then [Variables.document around.assignments] else []
    .ok (documents ++ assigned ++ [s.overrides])

/-- The layers laid over the defaults. -/
def document (layers : List Json) : Json := layers.foldl Json.overlay ({} : Settings).toJson

def load (s : Sources) (around : Surroundings) : Except SettingsError Settings := do
  match Settings.ofJson? true (document (← s.layers around)) with
  | some settings => .ok settings
  | none => .error .unreadable

end Sources

end Switchboard
