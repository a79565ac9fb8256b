import PocketScheme.FileSystem

/-!
The tree of a commit: what a checkout of it puts below a directory, the repository's own directory
apart.

* `Tree`: entries by the names that lead to them, each in a directory of the tree;
* `FileSystem.lay`: puts a tree at a place.
-/

namespace PocketScheme

/-- The name of the directory that holds a repository. -/
def repositoryName : Text := ".git"

/-- The entry of a tree is in a directory of it, and is not in the repository's own one. What a
checkout makes has names that the system takes, and may be opened. -/
structure Tree.Fits (entries : List (Place × Entry)) (b : Place × Entry) : Prop where
  ne_nil : b.1 ≠ []
  outside : b.1.head? ≠ some repositoryName
  parent : b.1.dropLast = [] ∨ List.lookup b.1.dropLast entries = some .directory
  named : ∀ c ∈ b.1, Path.IsName c ∧ c.bytes.length ≤ FileSystem.nameLimit
  notBarred : ∀ isDir, b.2 ≠ .barred isDir

instance (entries : List (Place × Entry)) (b : Place × Entry) : Decidable (Tree.Fits entries b) :=
  decidable_of_iff
    (b.1 ≠ [] ∧ b.1.head? ≠ some repositoryName ∧
      (b.1.dropLast = [] ∨ List.lookup b.1.dropLast entries = some .directory) ∧
      (∀ c ∈ b.1, Path.IsName c ∧ c.bytes.length ≤ FileSystem.nameLimit) ∧
      ∀ isDir, b.2 ≠ .barred isDir)
    ⟨fun h => ⟨h.1, h.2.1, h.2.2.1, h.2.2.2.1, h.2.2.2.2⟩,
      fun h => ⟨h.ne_nil, h.outside, h.parent, h.named, h.notBarred⟩⟩

/-- The files, directories and links of a commit, by the names that lead to them. -/
structure Tree where
  entries : List (Place × Entry)
  distinct : (entries.map Prod.fst).Nodup
  fits : ∀ b ∈ entries, Tree.Fits entries b

namespace Tree

/-- The tree without entries. -/
def empty : Tree :=
  ⟨[], .nil, fun _ h => absurd h List.not_mem_nil⟩

/-- The tree of some entries, if they fit. -/
def ofEntries? (entries : List (Place × Entry)) : Option Tree :=
  if h : (entries.map Prod.fst).Nodup ∧ ∀ b ∈ entries, Fits entries b then
    some ⟨entries, h.1, h.2⟩
  else none

/-- What a directory holds that the tree was checked out into: the repository's own directory, and
the tree. -/
def checkedOut (t : Tree) : List (Place × Entry) :=
  ([], .directory) :: ([repositoryName], .directory) :: t.entries

end Tree

/-- Puts a tree at a place, instead of what was there. -/
def FileSystem.lay (fs : FileSystem) (p : Place) (t : Tree) : FileSystem :=
  fs.graft p t.checkedOut

end PocketScheme
