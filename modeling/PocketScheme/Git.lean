import PocketScheme.Hash
import PocketScheme.Host
import PocketScheme.Tree

/-!
Version control, as far as fetching needs it: cloning a repository, finding the commit of a
revision in the clone, and checking that out. What comes of these is up to the version control, so
that all of this is about any one that there may be.

* `GitFault`: why one of them failed;
* `Clone`, `Worktree`: what can be asked of a clone;
* `Git`: cloning.
-/

namespace PocketScheme

/-- A failure of version control: its text, and what kind of failure it is. -/
structure GitFault where
  message : Text
  /-- A walk through commits went past the first one. -/
  isEnd : Bool
  /-- Something on disk is not there. -/
  isNotExist : Bool
  deriving DecidableEq

/-- A working directory. Checking out a commit changes what is in it, also where that fails. -/
structure Worktree where
  checkout : Hash → Except GitFault Unit × Tree

/-- A clone: what is in its directory at first, the commits of revisions, and its working
directory. -/
structure Clone where
  tree : Tree
  resolve : Text → Except GitFault Hash
  worktree : Except GitFault Worktree

/-- Version control clones the repository at an address into a directory, where nothing may be. It
writes to no other place. What a failed clone leaves in its directory comes with the fault. -/
structure Git where
  clone : Host → Text → Text → Except (GitFault × Option Tree) Clone

end PocketScheme
