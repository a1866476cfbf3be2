/-!
# File paths

A path is read as its components. Empty components and dots are dropped, except a dot in front.

    components "a//./b/" = [name "a", name "b"]
    fileName? "logs/.."  = none
    extension? ".toml"   = none
-/

namespace Switchboard.FilePath

inductive Component where
  | root
  | current
  | parent
  | name (s : String)
deriving DecidableEq, Repr

/-- The texts between slashes; the first is the one under way, in reverse. -/
def segmentsFrom (current : List Char) : List Char → List (List Char)
  | [] => [current.reverse]
  | c :: cs =>
    if c = '/' then current.reverse :: segmentsFrom [] cs else segmentsFrom (c :: current) cs

/-- The texts between the slashes of a path. -/
def segments (path : String) : List String := (segmentsFrom [] path.toList).map String.ofList

/-- The component of a segment that does not stand in front. -/
def component? (segment : String) : Option Component :=
  if segment = "" ∨ segment = "." then none
  else if segment = ".." then some .parent
  else some (.name segment)

def components (path : String) : List Component :=
  match segments path with
  | [] => []
  | first :: rest =>
    let front : List Component :=
      if path = "" then []
      else if first = "" then [.root]
      else if first = "." then [.current]
      else (component? first).toList
    front ++ rest.filterMap component?

/-- The last component, if it is a name. -/
def fileName? (path : String) : Option String :=
  match (components path).getLast? with
  | some (.name s) => some s
  | _ => none

/-- The components in front of the last one. -/
def directory (path : String) : List Component := (components path).dropLast

/-- The text behind the last dot of a file name, if something stands before that dot. -/
def extension? (path : String) : Option String :=
  (fileName? path).bind fun name =>
    let reversed := name.toList.reverse
    match reversed.dropWhile (· != '.') with
    | '.' :: _ :: _ => some (String.ofList (reversed.takeWhile (· != '.')).reverse)
    | _ => none

/-- A file of a directory; the empty directory is the one at work in. -/
def join (directory name : String) : String :=
  if directory = "" then name
  else if directory.toList.getLast? = some '/' then directory ++ name
  else directory ++ "/" ++ name

end Switchboard.FilePath
