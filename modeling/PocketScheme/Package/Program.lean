import PocketScheme.Package.Resolve
import PocketScheme.Session

/-!
Programs: the sources that are evaluated one after the other. The program of a target holds the
prelude of every package that the project needs, then the project's own, and then the target's
file.

* `Program.ofFiles`: files by themselves;
* `Program.ofTarget`: a target of a manifest;
* `install`: resolves a project's dependencies and writes its lockfile.
-/

namespace PocketScheme

/-- Sources in the order in which they are evaluated, and the packages that they come from. -/
structure Program where
  name : Text
  sources : List Source
  packages : List LockedPackage

/-- What loading comes to: a result, the world after it, and what was asked of the fetcher. -/
structure Loaded (α : Type) where
  result : Except PackageFault α
  world : World
  requests : List (Text × Dependency)

namespace Program

/-- The parsed file at a path. -/
def readSource (w : World) (package path : Text) : Except PackageFault Source :=
  match w.contentOf path with
  | .error fault => .error (.unreadSource path fault)
  | .ok content =>
    match Form.readAll (Text.decode content) with
    | (forms, none) => .ok ⟨path, package, forms⟩
    | (_, some fault) => .error (.unparsedSource path fault)

/-- The parsed files at paths, in order. -/
def readSources (w : World) (package : Text) (paths : List Text) :
    Except PackageFault (List Source) :=
  paths.mapM (readSource w package)

/-- The program of files, named for the first one. -/
def ofFiles (w : World) : List Text → Except PackageFault Program
  | [] => .error .noFiles
  | path :: paths =>
    match readSources w "" (path :: paths) with
    | .ok sources => .ok ⟨Path.stem path, sources, []⟩
    | .error fault => .error fault

/-- The prelude of a manifest. -/
def preludeSources (w : World) (m : Manifest) : Except PackageFault (List Source) :=
  readSources w m.name (m.prelude.map fun p => Path.join [m.dir, p])

/-- The preludes of packages, one after the other. -/
def packageSources (w : World) (packages : List ResolvedPackage) :
    Except PackageFault (List Source) :=
  List.flatten <$> packages.mapM fun p => preludeSources w p.manifest

/-- The target that is asked for; an empty name asks for the default one. -/
def chooseTarget (m : Manifest) (target : Text) : Except PackageFault Target :=
  if target.isEmpty then
    match m.defaultTarget with
    | .ok t => .ok t
    | .error fault => .error (.noTarget fault)
  else match m.findTarget target with
    | some t => .ok t
    | none => .error (.unknownTarget target)

/-- The lockfile beside a manifest, if there is one. -/
def lockBeside (w : World) (m : Manifest) : Except PackageFault (Option Lockfile) :=
  match Lockfile.load w (Path.join [m.dir, Lockfile.fileName]) with
  | .ok lock => .ok (some lock)
  | .error fault => if fault.isNotExist then .ok none else .error (.lockfile fault)

/-- The manifest, its target and its lockfile, before anything is fetched. -/
def prepare (w : World) (path target : Text) :
    Except PackageFault (Manifest × Target × Option Lockfile) := do
  let m ← match Manifest.load w path with
    | .ok m => .ok m
    | .error fault => .error (.manifest fault)
  let t ← chooseTarget m target
  let lock ← lockBeside w m
  return (m, t, lock)

/-- The program of a target, once its packages are resolved. -/
def assemble (w : World) (m : Manifest) (t : Target) (packages : List ResolvedPackage) :
    Except PackageFault Program := do
  let dependencies ← packageSources w packages
  let own ← preludeSources w m
  let main ← readSource w m.name (Path.join [m.dir, t.main])
  return ⟨m.name, dependencies ++ own ++ [main], packages.map ResolvedPackage.locked⟩

/-- The program of a target of the manifest at a path. -/
def ofTarget (fetcher : Option Fetcher) (w : World) (path target : Text) : Loaded Program :=
  match prepare w path target with
  | .error fault => ⟨.error fault, w, []⟩
  | .ok (m, t, lock) =>
    match resolve fetcher lock m w with
    | none => ⟨.error .endless, w, []⟩
    | some (.error fault, s) => ⟨.error fault, s.world, s.requests⟩
    | some (.ok packages, s) => ⟨assemble s.world m t packages, s.world, s.requests⟩

end Program

/-- The lockfile of resolved packages. -/
def lockOf (m : Manifest) (now : Text) (packages : List ResolvedPackage) : Lockfile :=
  { Lockfile.new m.name now with packages := packages.map fun p => some p.locked }

/-- Resolves the dependencies of the manifest at a path and writes the lockfile beside it. -/
def install (fetcher : Option Fetcher) (w : World) (path : Text) : Loaded Lockfile :=
  match Manifest.load w path with
  | .error fault => ⟨.error (.manifest fault), w, []⟩
  | .ok m =>
    match resolve fetcher none m w with
    | none => ⟨.error .endless, w, []⟩
    | some (.error fault, s) => ⟨.error fault, s.world, s.requests⟩
    | some (.ok packages, s) =>
      let lock := lockOf m w.now packages
      match Lockfile.save s.world (some lock) (Path.join [m.dir, Lockfile.fileName]) with
      | (.ok lock, w) => ⟨.ok lock, w, s.requests⟩
      | (.error fault, w) => ⟨.error (.unsaved fault), w, s.requests⟩

end PocketScheme
