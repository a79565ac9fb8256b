import PocketScheme.Segment
import PocketScheme.Manifest.Basic

/-!
Lockfiles: what the dependencies of a project were resolved to.

* `LockedPackage`, `Lockfile`;
* `Lockfile.normalize`: the form in which lockfiles are kept;
* `Lockfile.find?`: the entry of a package;
* `Lockfile.pinned`: the commit that a dependency is pinned to.
-/

namespace PocketScheme

/-- One resolved dependency. -/
structure LockedPackage where
  name : Text
  version : Text
  source : Text
  checksum : Text
  deriving DecidableEq, Repr

/-- The resolved dependencies of a project. An entry may be void. -/
structure Lockfile where
  path : Text
  root : Text
  generated : Text
  packages : List (Option LockedPackage)
  deriving DecidableEq, Repr

/-- A package with its name sanitized and no blanks around the rest. -/
def LockedPackage.normalize (p : LockedPackage) : LockedPackage :=
  ⟨Segment.sanitize p.name, p.version.trim, p.source.trim, p.checksum.trim⟩

namespace Lockfile

/-- The name of lockfiles. -/
def fileName : Text := "package.lock"

/-- A lockfile without packages, made at the time `now`. -/
def new (root now : Text) : Lockfile :=
  ⟨"", Segment.sanitize root, now, []⟩

/-- The entries that are not void. -/
def entries (l : Lockfile) : List LockedPackage :=
  l.packages.filterMap id

/-- The normal form: no void entries, each entry normalized, in order of the names. -/
def normalize (l : Lockfile) : Lockfile :=
  let sorted := (l.entries.map LockedPackage.normalize).mergeSort
    (fun a b => Text.comesFirst a.name b.name)
  { l with root := Segment.sanitize l.root, packages := sorted.map some }

/-- The entry of a package, under any spelling of its name. -/
def find? (l : Lockfile) (name : Text) : Option LockedPackage :=
  l.entries.find? (fun p => p.name == Segment.sanitize name)

/-! ### Pins -/

/-- How the source of a fetched package starts. -/
def gitMark : Text := "git+"

/-- The source of a package from a repository at a commit. -/
def gitSource (address commit : Text) : Text :=
  gitMark ++ address ++ "@" ++ commit

/-- The text in front of the last `@`, and behind it. -/
def splitLastAt (gs : List Glyph) : Option (List Glyph × List Glyph) :=
  let back := gs.reverse
  match back.dropWhile (· != .char '@') with
  | _ :: front => some (front.reverse, (back.takeWhile (· != .char '@')).reverse)
  | [] => none

/-- The address and the commit in the source of a package from a repository. -/
def gitSource? (source : Text) : Option (Text × Text) := do
  let rest ← gitMark.dropFront? source
  let (address, commit) ← splitLastAt rest.toList
  return (Text.ofList address, Text.ofList commit)

/-- The entry and the commit that a dependency is pinned to, if the lockfile has it from the same
repository. -/
def pinned (l : Option Lockfile) (name : Text) (dep : Dependency) :
    Option (LockedPackage × Text) := do
  let entry ← (← l).find? name
  let (address, commit) ← gitSource? entry.source
  if address == dep.git.trim then some (entry, commit) else none

end Lockfile

end PocketScheme
