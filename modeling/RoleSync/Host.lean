/-!
Paths on the host. A path is read as its pieces, the texts between slashes, and followed one
piece at a time from the root or the working directory: an empty piece and "." stay, ".."
steps back, and every step must start from a directory. The host knows a fixed set of
directories and files, and those added to it: that is what the library may assume of the
machine it runs on without looking.
-/

namespace RoleSync.Host

set_option autoImplicit false

/-- The texts between the slashes of a path, empty ones included. -/
def pieces (path : String) : List String := path.splitOn "/"

/-- The component texts of a path, the texts between slashes that are not empty. -/
def components (path : String) : List String := (pieces path).filter (· ≠ "")

/-- Whether a path starts at the root. -/
def isAbsolute (path : String) : Bool := path.startsWith "/"

/-- Resolves "." and ".." in a component list; ".." at the root stays at the root. -/
def normalize (parts : List String) : List String :=
  (parts.foldl (fun acc p =>
    if p = "." then acc
    else if p = ".." then acc.drop 1
    else p :: acc) []).reverse

/-- The directory that holds scratch files: database files whose path is given relative to it. -/
def scratchDirectory : String := "/tmp/.tmp0"

/-- The directories that every host has, as component lists from the root. -/
def knownDirectories : List (List String) :=
  [[], ["tmp"], ["root"], ["home"], ["etc"], ["usr"], ["var"], ["bin"], ["sbin"], ["lib"],
   ["lib64"], ["opt"], ["dev"], ["proc"], ["sys"], ["run"], ["srv"], ["mnt"], ["media"],
   ["boot"], ["usr", "bin"], ["usr", "lib"], ["usr", "local"], ["usr", "share"],
   ["usr", "sbin"], ["var", "tmp"], ["var", "lib"], ["var", "log"], ["dev", "shm"],
   ["tmp", ".tmp0"]]

/-- The files that every host has, as component lists from the root, with their text. -/
def knownFiles : List (List String × String) :=
  [(["dev", "null"], ""), (["etc", "passwd"], "root:x:0:0:root:/root:/bin/bash\n")]

/-- The directory that relative paths start from. -/
def workingDirectory : List String := ["root"]

/-- What a location on the host holds. -/
inductive Node where
  | directory
  | file
  deriving DecidableEq

/-- What stands at a location, given the files added to the host: a known directory, or one
that holds an added file, is a directory; a known or added file is a file. -/
def nodeAt (added : List (List String)) (loc : List String) : Option Node :=
  if knownDirectories.contains loc ||
      added.any (fun f => decide (loc.length < f.length) && f.take loc.length == loc) then
    some .directory
  else if knownFiles.any (·.1 == loc) || added.contains loc then some .file
  else none

/-- Why a path leads nowhere. -/
inductive WalkError where
  /-- A name on the way names nothing. -/
  | notFound
  /-- A step is taken from a file. -/
  | notDirectory

/-- Follows the pieces of a path from a location, as the system does: every step needs a
directory to start from; an empty piece and "." stay, ".." goes up (at the root, it stays),
and a name must exist. -/
def walk (added : List (List String)) :
    List String → Node → List String → Except WalkError (List String × Node)
  | loc, node, [] => .ok (loc, node)
  | _, .file, _ :: _ => .error .notDirectory
  | loc, .directory, p :: rest =>
    if p = "" || p = "." then walk added loc .directory rest
    else if p = ".." then walk added loc.dropLast .directory rest
    else
      match nodeAt added (loc ++ [p]) with
      | some n => walk added (loc ++ [p]) n rest
      | none => .error .notFound

/-- Follows a path, from the root when it is absolute and from the working directory
otherwise; the empty path names nothing. -/
def locate (added : List (List String)) (path : String) :
    Except WalkError (List String × Node) :=
  if path.isEmpty then .error .notFound
  else if isAbsolute path then walk added [] .directory ((pieces path).drop 1)
  else walk added workingDirectory .directory (pieces path)

/-- Whether a path leads to a directory of the host. -/
def isDirectory (path : String) : Bool :=
  match locate [] path with
  | .ok (_, .directory) => true
  | _ => false

/-- The length in bytes of the longest component of a path. -/
def longestComponent (path : String) : Nat :=
  (components path).foldl (fun m c => max m c.utf8ByteSize) 0

end RoleSync.Host
