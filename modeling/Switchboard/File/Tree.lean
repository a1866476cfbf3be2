import Switchboard.File.Path

/-!
# Files

A disk tells what stands at a path. A file tree is a disk that knows all files below the directory
at work in, and nothing outside of it.

    tree.disk path     follows the path segment by segment, through directories only
    tree.create dir f  makes the directories on the way, then the file unless it is there
-/

namespace Switchboard

/-- What stands at a path. -/
inductive DiskEntry where
  | directory
  | file (text : String)
deriving DecidableEq, Repr

/-- What stands at each path, if anything does. -/
abbrev Disk := String → Option DiskEntry

/-- A place below the directory at work in: the names that lead there. -/
abbrev Place := List String

structure FileTree where
  files : List (Place × String)

/-- Why a file could not be made. -/
inductive CreateError where
  /-- A file stands where a directory is needed. -/
  | blocked
  /-- A directory stands where the file is to be. -/
  | isDirectory
deriving DecidableEq, Repr

namespace FileTree

/-- The tree of files given by their paths. -/
def ofPaths (files : List (String × String)) : FileTree :=
  ⟨files.map fun (path, text) =>
    (((FilePath.segments path).filter fun s => s != "" && s != "."), text)⟩

/-- What stands at a place. -/
def at? (t : FileTree) (place : Place) : Option DiskEntry :=
  match t.files.lookup place with
  | some text => some (.file text)
  | none =>
    if place.isEmpty || t.files.any (fun (p, _) => place.isPrefixOf p) then some .directory
    else none

/-- Follows segments from a place on. -/
def follow (t : FileTree) : Place → List String → Option DiskEntry
  | place, [] => t.at? place
  | place, segment :: rest =>
    match t.at? place with
    | some .directory =>
      if segment = "" ∨ segment = "." then t.follow place rest
      else if segment = ".." then
        if place.isEmpty then none else t.follow place.dropLast rest
      else t.follow (place ++ [segment]) rest
    | _ => none

/-- What stands at a path. -/
def disk (t : FileTree) : Disk := fun path =>
  match FilePath.components path with
  | [] | .root :: _ => none
  | _ => t.follow [] (FilePath.segments path)

/-! ## Making files -/

/-- The place of a directory, made where it is missing; there is none outside of the tree. -/
def makeDirectory (t : FileTree) : Place → List FilePath.Component →
    Except CreateError (Option Place)
  | place, [] => .ok (some place)
  | place, .current :: rest => t.makeDirectory place rest
  | _, .root :: _ => .ok none
  | place, .parent :: rest =>
    if place.isEmpty then .ok none else t.makeDirectory place.dropLast rest
  | place, .name s :: rest =>
    match t.at? (place ++ [s]) with
    | some (.file _) => .error .blocked
    | _ => t.makeDirectory (place ++ [s]) rest

/-- Makes an empty file unless it is there. -/
def create (t : FileTree) (directory : List FilePath.Component) (name : String) :
    Except CreateError FileTree :=
  match t.makeDirectory [] directory with
  | .error e => .error e
  | .ok none => .ok t
  | .ok (some place) =>
    match t.at? (place ++ [name]) with
    | some .directory => .error .isDirectory
    | some (.file _) => .ok t
    | none => .ok ⟨t.files ++ [(place ++ [name], "")]⟩

/-- The paths of all files, sorted. -/
def paths (t : FileTree) : List String :=
  (t.files.map fun (place, _) => "/".intercalate place).mergeSort (· ≤ ·)

end FileTree

end Switchboard
