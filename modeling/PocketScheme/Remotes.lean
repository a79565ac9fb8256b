import PocketScheme.Address
import PocketScheme.Remote
import PocketScheme.Submodules
import PocketScheme.World

/-!
Version control for repositories on the disk. A path leads to a repository if there is one in the
directory `.git` at that path, or at the path itself, or if there is after `.git` is added to it. A
file in such a place names the directory that the repository is in. The repositories that it lists
inside itself would have to be cloned too, and of these there are none. Other hosts cannot be
reached.

* `Commit.tree`: the tree of a commit;
* `LinkCause`, `CloneCause`: why there is nothing to clone;
* `Remotes.repository`: the repository at an address;
* `Remotes.git`: version control;
* `Remotes.world`: what a run finds around it on such a disk.
-/

namespace PocketScheme

/-! ### Trees -/

/-- Entries with a file by its path, and the directories on the way to it. -/
def Commit.putFile (entries : FileSystem) (f : Text × Text.Bytes) : FileSystem :=
  let place := FileSystem.placeOf f.1
  let around := (List.range (place.length - 1)).map fun n => place.take (n + 1)
  (around.foldl (fun entries p => entries.put p .directory) entries).put place (.file f.2)

/-- The tree of a commit. -/
def Commit.tree (c : Commit) : Tree :=
  (Tree.ofEntries? (c.files.foldl putFile [])).getD .empty

/-! ### Failures -/

/-- Why a file leads to no repository. -/
inductive LinkCause where
  /-- The file at a path does not start as it should. -/
  | badFormat (path : Text)
  /-- The file at a path names nothing. -/
  | noPath (path : Text)
  /-- The directory that a file names is no repository. -/
  | notRepository (path : Text)
  deriving DecidableEq, Repr

/-- The text of a file's failure. -/
def LinkCause.message : LinkCause → Text
  | badFormat path => "invalid gitfile format: " ++ path
  | noPath path => "no path in gitfile: " ++ path
  | notRepository path => "not a git repository: " ++ path

/-- Why a repository could not be cloned. -/
inductive CloneCause where
  | address (fault : Address.Fault)
  | unsupportedScheme (scheme : Text)
  | notFound
  /-- The repository has no commits. -/
  | empty
  /-- The path is that of a file, and that leads nowhere. -/
  | link (cause : LinkCause)
  /-- A shell on another host needs an agent for keys, and there is none. -/
  | noAgent
  /-- A file has a path that is refused. -/
  | treePath (fault : TreePath.Fault)
  /-- The list of repositories inside the repository is not well-formed. -/
  | listing (fault : Submodules.Fault)
  /-- A repository that is listed is not there. -/
  | noSuchEntry
  | path (fault : PathFault)
  deriving DecidableEq, Repr

/-- The text of a failed clone's cause. -/
def CloneCause.message : CloneCause → Text
  | address fault => fault.message
  | unsupportedScheme scheme => "unsupported scheme " ++ Text.quote scheme
  | notFound => "repository not found"
  | empty => "remote repository is empty"
  | link cause => "unknown error: fatal: " ++ cause.message
  | noAgent =>
    "error creating SSH agent: " ++
      Text.quote "SSH agent requested but SSH_AUTH_SOCK not-specified"
  | treePath fault => fault.message
  | listing fault => fault.message
  | noSuchEntry => "entry not found"
  | path fault => fault.message

/-- What is said of a failed clone. -/
def CloneCause.fault (cause : CloneCause) : GitFault where
  message := cause.message
  isEnd := false
  isNotExist := match cause with
    | path fault => fault.cause == .notExist
    | _ => false

/-- The repositories by the places of their directories. -/
abbrev Remotes := List (Place × Remote)

namespace Remotes

/-! ### Finding repositories -/

/-- The schemes that can be cloned from. -/
def knownSchemes : List Text := ["file", "git", "http", "https", "ssh"]

/-- The path without slashes at its end. -/
def dropSlashes (path : Text) : Text :=
  match path.toList.reverse.dropWhile (· == .char '/') with
  | [] => if path.isEmpty then "" else "/"
  | gs => ⟨gs.reverse⟩

/-- The path with the home directory for a tilde at its front. -/
def expandHome (host : Host) (path : Text) : Option Text :=
  match path.toList with
  | .char '~' :: rest =>
    if rest.isEmpty || rest.head? == some (.char '/') then
      (host.vars.lookup "HOME").map fun home => home ++ ⟨rest⟩
    else none
  | _ => some path

/-- The paths at which a repository is looked for, in order. -/
def repositoryPaths (host : Host) (path : Text) : List Text :=
  match expandHome host (dropSlashes path) with
  | none => []
  | some p =>
    [p ++ "/" ++ repositoryName, p, p ++ repositoryName ++ "/" ++ repositoryName,
      p ++ repositoryName]

/-- The repository whose own directory is at a place. -/
def repositoryAt? (remotes : Remotes) (p : Place) : Option Remote :=
  if p.getLast? == some repositoryName then List.lookup p.dropLast remotes else none

/-- How a file starts that names the directory of a repository. -/
def linkMark : String := "gitdir: "

/-- The path that a file at a path names; a relative one starts in the directory of the file. -/
def linkTarget (path : Text) (content : Text.Bytes) : Except LinkCause Text :=
  match Text.dropFront? linkMark (.ofBytes content) with
  | none => .error (.badFormat path)
  | some rest =>
    let isEnd (g : Glyph) : Bool := g == .char '\n' || g == .char '\r'
    let target : Text := ⟨(rest.toList.reverse.dropWhile isEnd).reverse⟩
    if target.isEmpty then .error (.noPath path)
    else if Path.isAbsolute target then .ok target
    else
      let lead : Text := ⟨(path.toList.reverse.dropWhile (· != .char '/')).reverse⟩
      .ok (lead ++ target)

/-- The repository that a file at a path leads to. -/
def followLink (remotes : Remotes) (host : Host) (path : Text) (content : Text.Bytes) :
    Except LinkCause Remote := do
  let target ← linkTarget path content
  match host.files.lookup host.cwd target with
  | .ok (p, .directory) =>
    match remotes.repositoryAt? p with
    | some r => .ok r
    | none => .error (.notRepository target)
  | _ => .error (.notRepository target)

/-- The repository, which must not be empty. -/
def filled (r : Remote) : Except CloneCause Remote :=
  if r.commits.isEmpty then .error .empty else .ok r

/-- The repository at the first of the paths that leads to one. -/
def findRepository (remotes : Remotes) (host : Host) : List Text → Except CloneCause Remote
  | [] => .error .notFound
  | path :: paths =>
    match host.files.lookup host.cwd path with
    | .ok (_, .file content) =>
      match remotes.followLink host path content with
      | .ok r => filled r
      | .error cause => .error (.link cause)
    | .ok (p, .directory) =>
      match remotes.repositoryAt? p with
      | some r => filled r
      | none => remotes.findRepository host paths
    | _ => remotes.findRepository host paths

/-- The repository at an address. -/
def repository (remotes : Remotes) (host : Host) (address : Text) : Except CloneCause Remote :=
  match Address.parse address with
  | .error fault => .error (.address fault)
  | .ok (.path path) => remotes.findRepository host (repositoryPaths host path)
  | .ok (.remote scheme) =>
    if !knownSchemes.contains scheme then .error (.unsupportedScheme scheme)
    else if scheme == "ssh" then .error .noAgent
    else .error .notFound

/-! ### Cloning -/

/-- Why the repositories that a commit lists cannot be cloned into a directory: the list is not a
file, or not well-formed, or it names a file or nothing. -/
def listingCause? (dir : Text) (c : Commit) : Option CloneCause :=
  let listing : Text := Submodules.fileName
  if c.files.any fun (path, _) => path.startsWith (listing ++ "/") then
    some (.path ⟨"read", Path.join [dir, listing], .isDirectory⟩)
  else match (c.files.lookup listing).map fun content => Submodules.paths (.ofBytes content) with
    | some (.error fault) => some (.listing fault)
    | some (.ok (path :: _)) =>
      if (c.files.lookup path).isSome then
        some (.path ⟨"mkdir", Path.join [dir, path], .notDirectory⟩)
      else some .noSuchEntry
    | some (.ok []) | none => none

/-- Why a commit cannot be put into a directory. -/
def checkoutCause? (dir : Text) (c : Commit) : Option CloneCause :=
  match c.fault? with
  | some fault => some (.treePath fault)
  | none => listingCause? dir c

/-- The commit that a revision names in a clone. -/
def resolveIn (r : Remote) (revision : Text) : Except GitFault Hash :=
  match r.resolve revision with
  | .error cause => .error ⟨cause.message, cause == .pastRoot, false⟩
  | .ok c =>
    match Hash.ofText? c.hash with
    | some hash => .ok hash
    | none => .error ⟨Remote.ResolveCause.notFound.message, false, false⟩

/-- Checks out a commit where the tree of another was. -/
def checkoutIn (r : Remote) (before : Tree) (hash : Hash) : Except GitFault Unit × Tree :=
  match r.commits.find? fun c => c.hash == hash.text with
  | none => (.error ⟨"object not found", false, false⟩, before)
  | some c =>
    match c.fault? with
    | some fault => (.error ⟨fault.message, false, false⟩, before)
    | none => (.ok (), c.tree)

/-- A clone of a repository. -/
def cloneOf (r : Remote) : Clone :=
  let tree := (r.head?.map Commit.tree).getD .empty
  { tree, resolve := resolveIn r, worktree := .ok ⟨checkoutIn r tree⟩ }

/-- Version control for repositories on the disk. -/
def git (remotes : Remotes) : Git where
  clone host address dir :=
    match remotes.repository host address with
    | .error cause => .error (cause.fault, none)
    | .ok r =>
      match r.head?.bind (checkoutCause? dir) with
      | some cause => .error (cause.fault, none)
      | none => .ok (cloneOf r)

/-- What a run finds around it on a disk with some repositories, where nothing lacks space. -/
def world (remotes : Remotes) (files : FileSystem) (cwd : Text) : World where
  files := files
  cwd := cwd
  vars := []
  now := ""
  numbers := UInt32.ofNat
  space _ := none
  git := remotes.git
  codec := .yaml

end Remotes

end PocketScheme
