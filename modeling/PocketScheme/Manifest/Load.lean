import PocketScheme.World

/-!
Finding manifests on disk and loading them.

* `Manifest.LoadFault`: why a manifest could not be loaded;
* `Manifest.load`: the checked manifest at a path;
* `Manifest.find`: the nearest manifest above a path.
-/

namespace PocketScheme.Manifest

/-- Why a manifest could not be loaded. -/
inductive LoadFault where
  | emptyPath
  | unresolved (path : Text)
  | unopened (path : Text) (fault : PathFault)
  | emptyFile (path : Text)
  | unread (path : Text) (refusal : Yaml.Refusal Refusal)
  | invalid (issues : List Issue)

namespace LoadFault

/-- The text of a fault. -/
def message : LoadFault → Text
  | emptyPath => "manifest: empty path"
  | unresolved path => "manifest: resolve " ++ path ++ ": " ++ World.goneText
  | unopened path fault => "manifest: open " ++ path ++ ": " ++ fault.message
  | emptyFile path => "manifest: " ++ path ++ " is empty"
  | unread _ (.incomparable type) => Yaml.Refusal.incomparableText type
  | unread path refusal => "manifest: parse " ++ path ++ ": " ++ refusal.message Refusal.message
  | invalid issues => invalidMessage (issues.map Issue.message)

/-- The manifest is not there. -/
def isNotExist : LoadFault → Bool
  | unresolved _ => true
  | unopened _ fault => fault.cause == .notExist
  | _ => false

/-- Reading went wrong in a way that ends everything. -/
def isCrash : LoadFault → Bool
  | unread _ (.incomparable _) => true
  | _ => false

end LoadFault

/-- The manifest in the content of the file at a path. -/
def parse (codec : Codec) (path : Text) (content : Text.Bytes) : Except LoadFault Manifest :=
  match codec.readManifest content with
  | none => .error (.emptyFile path)
  | some (.error refusal) => .error (.unread path refusal)
  | some (.ok f) =>
    let m := ofFile path f
    if m.issues.isEmpty then .ok m else .error (.invalid m.issues)

/-- The checked manifest at a path. A directory opens but cannot be read. -/
def load (w : World) (path : Text) : Except LoadFault Manifest :=
  if path.isEmpty then .error .emptyPath
  else match w.absolute? path with
    | none => .error (.unresolved path)
    | some path =>
      match w.files.openAt w.cwd path with
      | .error fault => .error (.unopened path fault)
      | .ok (.file content) => parse w.codec path content
      | .ok _ => .error (.unread path .malformed)

/-! ### Searching upwards -/

/-- Why a search failed: it had nowhere to start, or looking at a path failed. -/
inductive FindFault where
  | unresolved (start : Text)
  | unseen (path : Text) (fault : PathFault)

/-- The text of a failed search. -/
def FindFault.message : FindFault → Text
  | unresolved start => "manifest: resolve " ++ start ++ ": " ++ World.goneText
  | unseen path fault => "manifest: stat " ++ path ++ ": " ++ fault.message

/-- A directory and those around it, the innermost one first, each by the names from the root. -/
def ancestors (p : Place) : List Place :=
  (List.range (p.length + 1)).map fun n => p.take (p.length - n)

/-- The path of a place. -/
def pathOf (p : Place) : Text :=
  "/" ++ Text.intercalate "/" p

/-- The first manifest in one of the directories, as a path. -/
def findIn (w : World) : List Place → Except FindFault (Option Text)
  | [] => .ok none
  | dir :: dirs =>
    let candidate := pathOf (dir ++ [fileName])
    match w.files.lookup w.cwd candidate with
    | .ok (_, e) => if e.isDirectory then findIn w dirs else .ok (some candidate)
    | .error cause =>
      if cause == .notExist then findIn w dirs
      else .error (.unseen candidate ⟨"stat", candidate, cause⟩)

/-- The nearest manifest in the directory `start` and those around it; from a file the search
starts in its directory. -/
def find (w : World) (start : Text) : Except FindFault (Option Text) :=
  match w.absolute? start with
  | none => .error (.unresolved start)
  | some path =>
    let place := FileSystem.placeOf path
    let dir := match w.files.lookup w.cwd path with
      | .ok (_, e) => if e.isDirectory then place else place.dropLast
      | .error _ => place
    findIn w (ancestors dir)

end PocketScheme.Manifest
