import PocketScheme.Path
import PocketScheme.Segment
import PocketScheme.Number.Printer
import PocketScheme.Text.CaseFold
import PocketScheme.Text.Quoted

/-!
Manifests: what a project says about itself. A manifest file is read as it is written, then names
are sanitized, and what is left is checked.

* `Dependency`, `Target`, `Targets`, `Manifest.File`, `Manifest`;
* `Manifest.ofFile`: the manifest that a file describes;
* `Manifest.issues`: what is wrong with a manifest;
* `Manifest.defaultTarget`, `Manifest.findTarget`: choosing a target.
-/

namespace PocketScheme

/-! ### Dependencies -/

/-- Where a dependency comes from: a directory, or a repository and a pin in it. Empty texts are
not set. -/
structure Dependency where
  path : Text
  git : Text
  rev : Text
  tag : Text
  branch : Text
  deriving DecidableEq, Repr

namespace Dependency

/-- A dependency in a directory. -/
def ofPath (path : Text) : Dependency :=
  ⟨path, "", "", "", ""⟩

/-- What is wrong with a dependency. -/
inductive Issue where
  | pathAndGit
  | noSource
  | pinnedPath
  | pins
  deriving DecidableEq, Repr

/-- The text of an issue. -/
def Issue.message : Issue → Text
  | pathAndGit => "path dependencies cannot also specify git"
  | noSource => "must specify path or git"
  | pinnedPath => "rev, tag and branch apply only to git dependencies"
  | pins => "git dependencies require exactly one of rev, tag, or branch"

/-- The pins that are set. -/
def setPins (d : Dependency) : List Text :=
  [d.rev, d.tag, d.branch].filter (fun p => !p.isEmpty)

/-- What is wrong with a dependency: it needs one source, and a pin if and only if that is a
repository. -/
def issues (d : Dependency) : List Issue :=
  let hasPath := !d.path.isEmpty
  let hasGit := !d.git.isEmpty
  (if hasPath && hasGit then [.pathAndGit] else if !hasPath && !hasGit then [.noSource] else []) ++
    (if hasPath && !d.setPins.isEmpty then [.pinnedPath] else []) ++
    (if hasGit && d.setPins.length != 1 then [.pins] else [])

end Dependency

/-! ### Manifests -/

/-- Something that can be run: its name, the name as it is written, and the file to start with. -/
structure Target where
  name : Text
  written : Text
  main : Text
  deriving DecidableEq, Repr

/-- The targets of a project. -/
structure Targets where
  /-- The targets by their keys. -/
  byKey : List (Text × Target)
  /-- The keys in the order in which they came up. -/
  order : List Text
  /-- All targets as they are declared. -/
  declared : List Target
  deriving DecidableEq, Repr

namespace Targets

/-- No targets. -/
def empty : Targets :=
  ⟨[], [], []⟩

/-- The target with a key. -/
def get? (ts : Targets) (key : Text) : Option Target :=
  ts.byKey.lookup key

/-- The targets with one more: it gets its name as a key, unless that is taken. -/
def add (ts : Targets) (t : Target) : Targets :=
  if (ts.get? t.name).isSome then { ts with declared := ts.declared ++ [t] }
  else ⟨(t.name, t) :: ts.byKey, ts.order ++ [t.name], ts.declared ++ [t]⟩

end Targets

/-- A project's description of itself. -/
structure Manifest where
  path : Text
  name : Text
  version : Text
  authors : List Text
  prelude : List Text
  targets : Targets
  /-- The dependencies by name, in order of the names. -/
  dependencies : List (Text × Dependency)

/-- A manifest file as it is written. Of dependencies with one name the last one counts. -/
structure Manifest.File where
  name : Text
  version : Text
  authors : List Text
  prelude : List Text
  targets : List (Text × Text)
  dependencies : List (Text × Dependency)

namespace Manifest

/-- The name of manifest files. -/
def fileName : Text := "package.yml"

/-- A file that says nothing. -/
def File.empty : File :=
  ⟨"", "", [], [], [], []⟩

/-- The directory of a manifest. -/
def dir (m : Manifest) : Text :=
  Path.dir m.path

/-- The elements whose keys no earlier element has. -/
def firstByKey {α : Type} (key : α → Text) : List α → List α
  | [] => []
  | a :: as => a :: (firstByKey key as).filter (fun b => key b != key a)

/-- Pairs in order of their keys, of equal keys the last one. -/
def sortPairs {α : Type} (pairs : List (Text × α)) : List (Text × α) :=
  (firstByKey Prod.fst pairs.reverse).mergeSort (fun a b => Text.comesFirst a.1 b.1)

/-- The keys of the targets in order. -/
def targetOrder (m : Manifest) : List Text :=
  m.targets.order

/-- The target with a key. -/
def target? (m : Manifest) (key : Text) : Option Target :=
  m.targets.get? key

/-- The target that a line of a file declares. -/
def declaredTarget (entry : Text × Text) : Target :=
  ⟨Segment.sanitize entry.1, entry.1, entry.2.trim⟩

/-- The manifest that a file at a path describes. -/
def ofFile (path : Text) (f : File) : Manifest :=
  { path := path
    name := Segment.sanitize f.name
    version := f.version.trim
    authors := f.authors
    prelude := f.prelude.filter (fun p => !p.isEmpty)
    targets := (f.targets.map declaredTarget).foldl .add .empty
    dependencies := sortPairs f.dependencies }

/-! ### Checking -/

/-- What is wrong with a manifest. -/
inductive Issue where
  | noName
  | emptyAuthor (index : Nat)
  | absolutePrelude (index : Nat)
  | sameTarget (first second : Text)
  | noMain (target : Text)
  | dependency (name : Text) (issue : Dependency.Issue)
  deriving DecidableEq, Repr

/-- The text of an issue. -/
def Issue.message : Issue → Text
  | noName => "name must be provided"
  | emptyAuthor i => "authors[" ++ Number.natText i ++ "] must be a non-empty string"
  | absolutePrelude i => "prelude[" ++ Number.natText i ++ "] must be relative to the manifest"
  | sameTarget first second =>
    "targets " ++ Text.quote first ++ " and " ++ Text.quote second ++ " collide after sanitization"
  | noMain target => "target " ++ Text.quote target ++ " requires a main entrypoint"
  | dependency name issue => "dependencies." ++ name ++ ": " ++ issue.message

/-- One issue for each element that satisfies `p`, with its index. -/
def indexed (p : Text → Bool) (issue : Nat → Issue) (xs : List Text) : List Issue :=
  xs.zipIdx.filterMap fun x => if p x.1 then some (issue x.2) else none

/-- What is wrong with targets, after those in `seen`: a name that is taken, or no file to start
with. -/
def targetIssues (seen : List Target) : List Target → List Issue
  | [] => []
  | t :: ts =>
    match seen.find? (fun s => s.name == t.name) with
    | some s => .sameTarget s.written t.written :: targetIssues seen ts
    | none =>
      (if t.main.isEmpty then [.noMain t.written] else []) ++ targetIssues (t :: seen) ts

/-- What is wrong with a manifest. -/
def issues (m : Manifest) : List Issue :=
  (if m.name.isEmpty then [.noName] else []) ++
    indexed Text.isEmpty .emptyAuthor m.authors ++
    indexed Path.isAbsolute .absolutePrelude m.prelude ++
    targetIssues [] m.targets.declared ++
    m.dependencies.flatMap fun d => d.2.issues.map (.dependency d.1)

/-- The text of a list of issues. -/
def invalidMessage (issues : List Text) : Text :=
  if issues.isEmpty then "manifest: invalid configuration"
  else "manifest validation failed:" ++ Text.join (issues.map ("\n- " ++ ·))

/-! ### Choosing a target -/

/-- Why there is no default target. -/
inductive TargetFault where
  | noTargets
  | ambiguous (names : List Text)
  deriving DecidableEq, Repr

/-- The text of a missing default target. -/
def TargetFault.message : TargetFault → Text
  | noTargets => "manifest: no targets defined"
  | ambiguous names =>
    "manifest: " ++ Number.natText names.length ++
      " targets defined and none is named main; choose one of " ++ Text.intercalate ", " names

/-- The target named `main`, or the only one there is. -/
def defaultTarget (m : Manifest) : Except TargetFault Target :=
  match m.targetOrder with
  | [] => .error .noTargets
  | key :: keys =>
    match m.target? "main", keys, m.target? key with
    | some main, _, _ => .ok main
    | none, [], some only => .ok only
    | none, _, _ => .error (.ambiguous (key :: keys))

/-- The target with a name, which may be written as it was declared, in letters of either case. -/
def findTarget (m : Manifest) (name : Text) : Option Target :=
  let name := name.trim
  match m.target? (Segment.sanitize name) with
  | some t => some t
  | none => (m.targetOrder.filterMap m.target?).find? fun t => Text.equalFold t.written name

end Manifest

end PocketScheme
