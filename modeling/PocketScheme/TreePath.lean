import PocketScheme.Checksum
import PocketScheme.Text.LowerCase
import PocketScheme.Text.Quoted

/-!
Paths of the files in a commit. Not every path can be put on a disk: on some systems a backslash
divides names just as a slash does, and the directory that holds the repository has a second name.

* `TreePath.parts`: the names in a path;
* `TreePath.Fault`: why a path is refused;
* `TreePath.firstFault?`: the first of the paths in a commit that is refused.
-/

namespace PocketScheme.TreePath

/-- The names in a path between slashes and backslashes, without empty ones. -/
def parts (path : Text) : List Text :=
  let pieces : List (List Glyph) := path.toList.foldr (fun g ps =>
    match ps with
    | p :: ps => if g == .char '/' || g == .char '\\' then [] :: p :: ps else (g :: p) :: ps
    | [] => [[g]]) [[]]
  (pieces.filter fun p => !p.isEmpty).map Text.ofList

/-- Why a path is refused. -/
inductive Cause where
  /-- It has no names. -/
  | empty
  /-- It starts in the directory that holds the repository. -/
  | reserved
  /-- It leads upwards somewhere. -/
  | upwards
  deriving DecidableEq, Repr

/-- A refused path. -/
structure Fault where
  cause : Cause
  path : Text
  deriving DecidableEq, Repr

/-- The text of a fault. -/
def Fault.message (f : Fault) : String :=
  match f.cause with
  | .empty => "invalid path: " ++ Text.quote f.path
  | .reserved => "invalid path prefix: " ++ Text.quote f.path
  | .upwards => "invalid path " ++ Text.quote f.path ++ ": cannot use '..'"

/-- The two names of the directory that holds the repository. -/
def reservedNames : List Text := [".git", "git~1"]

/-- The path leads upwards somewhere. -/
def leadsUp (path : Text) : Bool :=
  (parts path).contains ".."

/-- Why a path is refused, if it is. -/
def fault? (path : Text) : Option Fault :=
  match parts path with
  | [] => some ⟨.empty, path⟩
  | first :: _ =>
    if reservedNames.contains first.lower then some ⟨.reserved, path⟩
    else if leadsUp path then some ⟨.upwards, path⟩
    else none

/-- The first path that is refused, in the order of a walk through directories. -/
def firstFault? (paths : List Text) : Option Fault :=
  let places := (paths.map FileSystem.placeOf).mergeSort Checksum.comesFirst
  places.findSome? fun p => fault? (Text.intercalate "/" p)

end PocketScheme.TreePath
