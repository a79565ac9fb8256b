import PocketScheme.Revision
import PocketScheme.TreePath

/-!
Repositories and what a clone of one knows.

* `Remote`: commits, tags and branches;
* `Remote.references`: the names that a clone resolves, which are the main branch and all tags, and
  the other branches only below `refs/remotes/origin`;
* `Remote.plainFiles`: files of a clone that are taken for references that lead nowhere;
* `Remote.resolve`: the commit that a revision names in a clone.
-/

namespace PocketScheme

/-- A commit: its hash, the hashes of its parents, its message, and its files by their paths. -/
structure Commit where
  hash : String
  parents : List String
  message : String
  files : List (Text × Text.Bytes)

/-- The first file of a commit whose path is refused. -/
def Commit.fault? (c : Commit) : Option TreePath.Fault :=
  TreePath.firstFault? (c.files.map Prod.fst)

/-- A repository. Tags and branches name commits by hash. -/
structure Remote where
  commits : List Commit
  tags : List (String × String)
  branches : List (String × String)
  /-- The branch that a clone starts on. -/
  mainBranch : String

namespace Remote

/-- The commit with a hash. -/
def commit? (r : Remote) (hash : String) : Option Commit :=
  r.commits.find? (fun c => c.hash == hash)

/-- The last commit of the main branch. -/
def head? (r : Remote) : Option Commit :=
  (r.branches.lookup r.mainBranch).bind r.commit?

/-- What the names in a clone stand for. -/
def references (r : Remote) : List (String × String) :=
  let main := (r.branches.lookup r.mainBranch).toList.flatMap fun hash =>
    [("HEAD", hash), ("refs/heads/" ++ r.mainBranch, hash)]
  main ++ r.tags.map (fun t => ("refs/tags/" ++ t.1, t.2)) ++
    r.branches.map (fun b => ("refs/remotes/origin/" ++ b.1, b.2))

/-- The files of a clone that are no references. A name is looked up among all files first. -/
def plainFiles : List String := ["config", "index"]

/-- The full names that a short one may stand for, in order. -/
def candidates (name : String) : List String :=
  [name, "refs/" ++ name, "refs/tags/" ++ name, "refs/heads/" ++ name, "refs/remotes/" ++ name,
    "refs/remotes/" ++ name ++ "/HEAD"]

/-- The commit that a name stands for in a clone: a full hash, or a reference. -/
def named (r : Remote) (name : String) : Option Commit :=
  match r.commit? name with
  | some c => some c
  | none =>
    if plainFiles.contains name then none
    else ((candidates name).findSome? fun n => r.references.lookup n).bind r.commit?

/-! ### Revisions -/

/-- Why a revision names no commit. -/
inductive ResolveCause where
  | invalid (fault : Revision.Fault)
  | notFound
  /-- The steps lead past the first commit. -/
  | pastRoot
  | noMatch (pattern : String)
  deriving DecidableEq, Repr

/-- The text of a cause. -/
def ResolveCause.message : ResolveCause → String
  | invalid fault => fault.message
  | notFound => "reference not found"
  | pastRoot => "EOF"
  | noMatch pattern => "no commit message match regexp: " ++ Text.quote pattern

/-- The parent of a commit with a number, from 1. -/
def parent (r : Remote) (c : Commit) (number : Nat) : Except ResolveCause Commit :=
  match c.parents[number - 1]?.bind r.commit? with
  | some p => .ok p
  | none => .error .pastRoot

/-- The ancestor of a commit so many generations back, by first parents. -/
def ancestor (r : Remote) : Nat → Commit → Except ResolveCause Commit
  | 0, c => .ok c
  | n + 1, c => do
    let p ← r.parent c 1
    r.ancestor n p

/-- The first commit among a commit and its ancestors, at most `fuel` of them, whose message matches
the pattern with the given text, or does not match it. -/
def matching (r : Remote) (text : String) (pattern : Pattern) (negated : Bool) :
    Nat → Commit → Except ResolveCause Commit
  | 0, _ => .error (.noMatch text)
  | fuel + 1, c =>
    if pattern.isMatch c.message.toList != negated then .ok c
    else match c.parents.head?.bind r.commit? with
      | some p => r.matching text pattern negated fuel p
      | none => .error (.noMatch text)

/-- Where a part of a revision leads from a commit. -/
def follow (r : Remote) (c : Option Commit) (part : Revision.Part) :
    Except ResolveCause (Option Commit) :=
  match part, c with
  | .name name, _ =>
    match r.named name with
    | some c => .ok (some c)
    | none => .error .notFound
  | .ancestor count, some c => some <$> r.ancestor count c
  | .parent number, some c => if number == 0 then .ok (some c) else some <$> r.parent c number
  | .matching text pattern negated, some c =>
    some <$> r.matching text pattern negated r.commits.length c
  | _, c => .ok c

/-- The commit that a revision names in a clone. -/
def resolve (r : Remote) (revision : Text) : Except ResolveCause Commit :=
  match Revision.parse revision with
  | .error fault => .error (.invalid fault)
  | .ok parts =>
    match parts.foldlM r.follow none with
    | .error cause => .error cause
    | .ok none => .error .notFound
    | .ok (some c) => .ok c

end Remote

end PocketScheme
