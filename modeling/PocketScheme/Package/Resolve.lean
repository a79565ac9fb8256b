import PocketScheme.Form
import PocketScheme.Lockfile.Store
import PocketScheme.Manifest.Load
import PocketScheme.Package.Fetch

/-!
Resolving dependencies. The dependencies of a manifest are taken in order of their names, each one
followed by its own before it counts as resolved, so that the result lists every package after
those that it needs. A name that comes up again while its own dependencies are being resolved is a
cycle.

* `PackageFault`: why packages could not be loaded;
* `Resolution`: the state of resolving;
* `Resolution.locate`: the directory of one dependency;
* `Resolution.enter`, `Resolution.leave`: what is done before and after a package's own
  dependencies;
* `Resolution.resolveEach`: dependencies one after the other;
* `resolve`: all packages that a project needs.

Nothing bounds the depth of nested dependencies but the number of manifests that there are. Where a
fetcher makes up new ones without end, there is no result.
-/

namespace PocketScheme

/-- Why packages or programs could not be loaded. -/
inductive PackageFault where
  | noFiles
  | unreadSource (path : Text) (fault : PathFault)
  | unparsedSource (path : Text) (fault : SyntaxFault)
  | manifest (fault : Manifest.LoadFault)
  | noTarget (fault : Manifest.TargetFault)
  | unknownTarget (name : Text)
  | lockfile (fault : Lockfile.LoadFault)
  | unsaved (fault : Lockfile.SaveFault)
  | cycle (name : Text)
  | noManifest (name : Text)
  | unreadDependency (name : Text) (fault : PathFault)
  | noCache (name : Text)
  | fetch (fault : FetchFault)
  /-- The dependencies go on without end. -/
  | endless

namespace PackageFault

/-- The text of a fault. -/
def message : PackageFault → Text
  | noFiles => "loader: no files given"
  | unreadSource path fault => "loader: read " ++ path ++ ": " ++ fault.message
  | unparsedSource path fault => "loader: parse " ++ path ++ ": " ++ fault.message
  | manifest fault => fault.message
  | noTarget fault => fault.message
  | unknownTarget name => "loader: unknown target " ++ Text.quote name
  | lockfile fault => fault.message
  | unsaved fault => fault.message
  | cycle name => "loader: dependency cycle through " ++ Text.quote name
  | noManifest name =>
    "loader: dependency " ++ Text.quote name ++ " has no " ++ Manifest.fileName
  | unreadDependency name fault =>
    "loader: dependency " ++ Text.quote name ++ ": " ++ fault.message
  | noCache name =>
    "loader: dependency " ++ Text.quote name ++ ": git dependencies need a cache directory (set " ++
      World.homeVariable ++ ")"
  | fetch fault => fault.message
  | endless => "loader: dependencies without end"

/-- Loading went wrong in a way that ends everything. -/
def isCrash : PackageFault → Bool
  | manifest fault => fault.isCrash
  | lockfile fault => fault.isCrash
  | _ => false

end PackageFault

/-- A package with its manifest and how it is locked. -/
structure ResolvedPackage where
  name : Text
  manifest : Manifest
  locked : LockedPackage

/-- The state of resolving. -/
structure Resolution where
  world : World
  /-- The packages whose dependencies are being resolved. -/
  visiting : List Text
  /-- The resolved packages, each after those that it needs. -/
  order : List ResolvedPackage
  /-- What was asked of the fetcher, in order. -/
  requests : List (Text × Dependency)

namespace Resolution

/-- The package is resolved. -/
def isDone (s : Resolution) (key : Text) : Bool :=
  s.order.any (fun p => p.name == key)

/-- Asks the fetcher for a dependency. -/
def request (s : Resolution) (f : Fetcher) (name : Text) (d : Dependency) :
    Except PackageFault Fetched × Resolution :=
  let s := { s with requests := s.requests ++ [(name, d)] }
  match f.fetch name d s.world with
  | (.ok found, w) => (.ok found, { s with world := w })
  | (.error fault, w) => (.error (.fetch fault), { s with world := w })

/-- A dependency in a directory, which a relative path names from the directory of its owner. -/
def locatePath (s : Resolution) (owner : Manifest) (name : Text) (d : Dependency) :
    Except PackageFault Fetched :=
  let dir := if Path.isAbsolute d.path then Path.clean d.path else Path.join [owner.dir, d.path]
  match Checksum.ofPath s.world.files s.world.cwd dir with
  | .error fault => .error (.unreadDependency name fault)
  | .ok checksum => .ok ⟨dir, ⟨Segment.sanitize name, "", "path+" ++ dir, checksum⟩⟩

/-- The directory of a dependency and how it is locked. What a lockfile pins is fetched at that
commit, and keeps its version. -/
def locate (s : Resolution) (fetcher : Option Fetcher) (lock : Option Lockfile) (owner : Manifest)
    (name : Text) (d : Dependency) : Except PackageFault Fetched × Resolution :=
  if !d.path.isEmpty then (s.locatePath owner name d, s)
  else match fetcher with
    | none => (.error (.noCache name), s)
    | some f =>
      match Lockfile.pinned lock name d with
      | none => s.request f name d
      | some (entry, commit) =>
        if commit.isEmpty then s.request f name d
        else match s.request f name ⟨"", d.git, commit, "", ""⟩ with
          | (.ok found, s) =>
            (.ok { found with package := { found.package with version := entry.version } }, s)
          | (.error fault, s) => (.error fault, s)

/-- The manifest of a located dependency. -/
def loadManifest (s : Resolution) (name dir : Text) : Except PackageFault Manifest :=
  match Manifest.load s.world (Path.join [dir, Manifest.fileName]) with
  | .ok m => .ok m
  | .error fault =>
    if fault.isNotExist then .error (.noManifest name) else .error (.manifest fault)

/-- A package without a version has that of its manifest. -/
def withVersion (locked : LockedPackage) (m : Manifest) : LockedPackage :=
  if locked.version.isEmpty then { locked with version := m.version } else locked

/-- What comes of looking at a dependency. -/
inductive Entered where
  /-- It is resolved. -/
  | done
  | failed (fault : PackageFault)
  /-- Its manifest, and how it is locked. Its own dependencies come next. -/
  | opened (manifest : Manifest) (locked : LockedPackage)

/-- Looks at a dependency of a manifest. From here on it counts as being resolved. -/
def enter (s : Resolution) (fetcher : Option Fetcher) (lock : Option Lockfile) (owner : Manifest)
    (name : Text) (d : Dependency) : Entered × Resolution :=
  let key := Segment.sanitize name
  if s.isDone key then (.done, s)
  else if s.visiting.contains key then (.failed (.cycle name), s)
  else
    match { s with visiting := key :: s.visiting }.locate fetcher lock owner name d with
    | (.error fault, s) => (.failed fault, s)
    | (.ok found, s) =>
      match s.loadManifest name found.dir with
      | .error fault => (.failed fault, s)
      | .ok m => (.opened m (withVersion found.package m), s)

/-- A package is resolved once its own dependencies are. -/
def leave (s : Resolution) (key : Text) (m : Manifest) (locked : LockedPackage) : Resolution :=
  { s with visiting := s.visiting.erase key, order := s.order ++ [⟨key, m, locked⟩] }

/-- Resolves dependencies of a manifest one after the other, each one after its own. -/
def resolveEach (fetcher : Option Fetcher) (lock : Option Lockfile) (owner : Manifest) :
    List (Text × Dependency) → Resolution → Option (Except PackageFault Unit × Resolution)
  | [], s => some (.ok (), s)
  | (name, d) :: deps, s =>
    match s.enter fetcher lock owner name d with
    | (.done, s) => s |>.resolveEach fetcher lock owner deps
    | (.failed fault, s) => some (.error fault, s)
    | (.opened m locked, s) => do
      match ← s |>.resolveEach fetcher lock m m.dependencies with
      | (.ok (), s) =>
        s.leave (Segment.sanitize name) m locked |>.resolveEach fetcher lock owner deps
      | (.error fault, s) => some (.error fault, s)
partial_fixpoint

end Resolution

/-- Resolves all dependencies of a project. There is no result if they go on without end. -/
def resolve (fetcher : Option Fetcher) (lock : Option Lockfile) (root : Manifest) (w : World) :
    Option (Except PackageFault (List ResolvedPackage) × Resolution) := do
  match ← Resolution.resolveEach fetcher lock root root.dependencies
      ⟨w, [Segment.sanitize root.name], [], []⟩ with
  | (.ok (), s) => some (.ok s.order, s)
  | (.error fault, s) => some (.error fault, s)

end PocketScheme
