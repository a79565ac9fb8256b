import PocketScheme.Checksum
import PocketScheme.World

/-!
Fetching dependencies. The fetcher for repositories keeps a cache: each commit that was asked for
has a directory of its own, below one for the dependency.

* `FetchFault`: why a dependency could not be fetched;
* `Fetcher`: a way of fetching dependencies;
* `Dependency.revision`: the revision that a dependency asks for;
* `pinnedVersion`: the version of a commit;
* `Fetcher.cached`: the fetcher with a cache in a directory.
-/

namespace PocketScheme

/-- Why a dependency could not be fetched. -/
inductive FetchFault where
  /-- There is no fetcher. -/
  | unavailable
  /-- The dependency has no address. -/
  | noAddress (name : Text)
  /-- The dependency has no pin. -/
  | noPin
  /-- A directory of the cache could not be made or read. -/
  | path (fault : PathFault)
  | clone (address : Text) (fault : GitFault)
  | unresolved (revision : Text) (fault : GitFault)
  /-- A clone has no working directory. -/
  | noWorktree (fault : GitFault)
  | checkout (revision : Text) (fault : GitFault)
  /-- A clone could not be moved to its place. -/
  | unmoved (source target : Text) (cause : PathCause)
  /-- A fetcher's own reason. -/
  | refused (reason : Text)

namespace FetchFault

/-- The text of a fault. -/
def message : FetchFault → Text
  | unavailable => "git fetcher unavailable"
  | noAddress name => "dependency " ++ Text.quote name ++ ": git URL required"
  | noPin => "git dependencies require rev, tag, or branch"
  | path fault => fault.message
  | clone address fault => "git clone " ++ address ++ ": " ++ fault.message
  | unresolved revision fault => "resolve revision " ++ revision ++ ": " ++ fault.message
  | noWorktree fault => fault.message
  | checkout revision fault => "git checkout " ++ revision ++ ": " ++ fault.message
  | unmoved source target cause =>
    "rename " ++ source ++ " " ++ target ++ ": " ++ cause.message
  | refused reason => reason

/-- The failure of version control that the fault is about. -/
def gitFault? : FetchFault → Option GitFault
  | clone _ fault | unresolved _ fault | noWorktree fault | checkout _ fault => some fault
  | _ => none

/-- A walk through commits went past the first one. -/
def isPastRoot (f : FetchFault) : Bool :=
  f.gitFault?.any GitFault.isEnd

/-- Something that the fetcher needs is not there. -/
def isNotExist : FetchFault → Bool
  | path fault => fault.cause == .notExist
  | unmoved _ _ cause => cause == .notExist
  | f => f.gitFault?.any GitFault.isNotExist

end FetchFault

/-- A fetched dependency: its directory, and how it is locked. -/
structure Fetched where
  dir : Text
  package : LockedPackage

/-- A way of fetching a dependency by name. -/
structure Fetcher where
  fetch : Text → Dependency → World → Except FetchFault Fetched × World

/-! ### Revisions -/

/-- The revision that a dependency asks for, and how its pin is written: a commit, a tag or a
branch, the first one that is set. -/
def Dependency.revision (d : Dependency) : Except FetchFault (Text × Text) :=
  let rev := Text.trim d.rev
  let tag := Text.trim d.tag
  let branch := Text.trim d.branch
  if !rev.isEmpty then .ok (rev, rev)
  else if !tag.isEmpty then .ok ("refs/tags/" ++ tag, tag)
  else if !branch.isEmpty then .ok ("refs/heads/" ++ branch, branch)
  else .error .noPin

/-- The version of a commit that was asked for by the given pin. -/
def pinnedVersion (pin commit : Text) : Text :=
  let pin := Text.trim pin
  let commit := Text.trim commit
  if commit.isEmpty then pin
  else if pin.isEmpty || pin == commit then commit
  else pin ++ "@" ++ commit

/-! ### The cache -/

namespace Cache

/-- The directory of a dependency in the cache. -/
def packageDir (cache name : Text) : Text :=
  Path.join [cache, "src", Segment.directoryName name]

/-- The directory of a version of a dependency. -/
def versionDir (base version : Text) : Text :=
  Path.join [base, Segment.directoryName version]

/-- The path leads somewhere. -/
def isThere (w : World) (path : Text) : Bool :=
  match w.files.lookup w.cwd path with
  | .ok _ => true
  | .error _ => false

/-- The front of the names of the directories that repositories are cloned into at first. -/
def draftFront : Text := "git-fetch-"

/-- The world without what is at a path, if that can be removed. -/
def discard (w : World) (path : Text) : World :=
  match w.files.removeAll w.cwd path with
  | .ok files => w.withFiles files
  | .error _ => w

/-- The world with a tree at a path. -/
def layAt (w : World) (path : Text) (t : Tree) : World :=
  match w.files.followTo w.cwd path with
  | .entry p _ | .free p => w.withFiles (w.files.lay p t)
  | .nowhere _ => w

/-- Checks out a commit in the clone at the path `draft`, and moves that to another path. -/
def settle (w : World) (draft target revision : Text) (c : Clone) (hash : Hash) :
    Except FetchFault Unit × World :=
  match c.worktree with
  | .error fault => (.error (.noWorktree fault), discard w draft)
  | .ok tree =>
    match tree.checkout hash with
    | (.error fault, t) => (.error (.checkout revision fault), discard (layAt w draft t) draft)
    | (.ok (), t) =>
      let w := layAt w draft t
      match w.files.moveDir w.cwd draft target with
      | .error cause => (.error (.unmoved draft target cause), discard w draft)
      | .ok files => (.ok (), w.withFiles files)

/-- Clones a repository into the directory `draft`, which is made a checkout of a revision, unless
there is one. Gives the version and the commit. -/
def obtain (w : World) (base draft address revision pin : Text) :
    Except FetchFault (Text × Text) × World :=
  match w.git.clone w.toHost address draft with
  | .error (fault, left) =>
    (.error (.clone address fault), discard ((left.map (layAt w draft)).getD w) draft)
  | .ok c =>
    let w := layAt w draft c.tree
    match c.resolve revision with
    | .error fault => (.error (.unresolved revision fault), discard w draft)
    | .ok hash =>
      let version := pinnedVersion pin hash.text
      let target := versionDir base version
      if isThere w target then (.ok (version, hash.text), discard w draft)
      else match settle w draft target revision c hash with
        | (.error fault, w) => (.error fault, w)
        | (.ok (), w) => (.ok (version, hash.text), w)

/-- Makes sure that a revision of a repository is in the cache, and gives its version and commit. A
commit that is there already needs no clone. -/
def ensure (base address : Text) (d : Dependency) (w : World) :
    Except FetchFault (Text × Text) × World :=
  match w.files.makeDirs w.cwd base with
  | (.error fault, files) => (.error (.path fault), w.withFiles files)
  | (.ok (), files) =>
    let w := w.withFiles files
    match d.revision with
    | .error fault => (.error fault, w)
    | .ok (revision, pin) =>
      let rev := Text.trim d.rev
      if !rev.isEmpty && isThere w (versionDir base rev) then (.ok (rev, rev), w)
      else match w.files.makeTemp w.cwd base draftFront w.numbers with
        | .error fault => (.error (.path fault), w)
        | .ok (draft, files) =>
          -- only the name is needed: what is cloned into must not be there
          match files.removeAll w.cwd draft with
          | .error fault => (.error (.path fault), w.withFiles files)
          | .ok files => obtain (w.withFiles files) base draft address revision pin

/-- Fetches a dependency through a cache. -/
def fetch (cache name : Text) (d : Dependency) (w : World) :
    Except FetchFault Fetched × World :=
  let address := Text.trim d.git
  if address.isEmpty then (.error (.noAddress name), w)
  else
    let base := packageDir cache name
    match ensure base address d w with
    | (.error fault, w) => (.error fault, w)
    | (.ok (version, commit), w) =>
      let dir := versionDir base version
      match Checksum.ofPath w.files w.cwd dir with
      | .error fault => (.error (.path fault), w)
      | .ok checksum =>
        (.ok ⟨dir,
          ⟨Segment.sanitize name, version, Lockfile.gitSource address commit, checksum⟩⟩, w)

end Cache

namespace Fetcher

/-- The fetcher with a cache in a directory; without a directory there is none. -/
def cached (cache : Text) : Option Fetcher :=
  if cache.isEmpty then none else some ⟨Cache.fetch cache⟩

/-- Fetches with a fetcher that may be missing. -/
def fetchWith (f : Option Fetcher) (name : Text) (d : Dependency) (w : World) :
    Except FetchFault Fetched × World :=
  match f with
  | some f => f.fetch name d w
  | none => (.error .unavailable, w)

end Fetcher

end PocketScheme
