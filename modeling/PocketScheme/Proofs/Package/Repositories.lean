import PocketScheme.Proofs.Package.Checkouts

/-!
What is assumed of version control, and a simple one of which it is true.

* `Git.Honest`: checking out a commit gives the tree that its hash stands for;
* `Repository`: commits, tags and branches, as a host keeps them;
* `Repository.Mirrored`: a clone has all commits and tags, and the default branch only;
* `Repository.clone`, `Repository.mirrored_clone`: a clone that has these;
* `Git.serving`: version control for repositories by their addresses.
-/

namespace PocketScheme

/-- Whatever is cloned from wherever: checking out a commit gives what its hash stands for. -/
def Git.Honest (content : Cache.Contents) (git : Git) : Prop :=
  ∀ host address draft c, git.clone host address draft = .ok c →
    ∀ tree hash t, c.worktree = .ok tree → tree.checkout hash = (.ok (), t) →
      content hash = some t

/-- A repository as its host keeps it: its commits with their trees, and the commits of its tags and
branches. -/
structure Repository where
  commits : List (Hash × Tree)
  tags : List (Text × Hash)
  branches : List (Text × Hash)
  /-- The branch that is the default one. -/
  main : Text

namespace Repository

/-- The clone has all commits of a repository and can check them out. It has its tags, and keeps a
branch for the default one only. -/
structure Mirrored (r : Repository) (c : Clone) : Prop where
  hash : ∀ b ∈ r.commits, c.resolve b.1.text = .ok b.1
  tag : ∀ t h, r.tags.lookup t = some h → c.resolve ("refs/tags/" ++ t) = .ok h
  main : ∀ h, r.branches.lookup r.main = some h → c.resolve ("refs/heads/" ++ r.main) = .ok h
  other : ∀ b, b ≠ r.main → ∃ fault, c.resolve ("refs/heads/" ++ b) = .error fault
  checkout : ∀ b ∈ r.commits, ∃ tree, c.worktree = .ok tree ∧ tree.checkout b.1 = (.ok (), b.2)

/-- The names of commits in a clone. Of the branches it has the default one. -/
def refs (r : Repository) : List (Text × Hash) :=
  r.tags.map (fun b => (("refs/tags/" : Text) ++ b.1, b.2)) ++
    (r.branches.filter fun b => b.1 == r.main).map
      (fun b => (("refs/heads/" : Text) ++ b.1, b.2)) ++
    r.commits.map fun b => (b.1.text, b.1)

/-- What is said of a name that no commit has. -/
def noReference : GitFault := ⟨"reference not found", false, false⟩

/-- What is said of a hash that no commit has. -/
def noObject : GitFault := ⟨"object not found", false, false⟩

/-- A clone of a repository. -/
def clone (r : Repository) : Clone where
  tree := ((r.branches.lookup r.main).bind fun h => r.commits.lookup h).getD .empty
  resolve revision := match r.refs.lookup revision with
    | some h => .ok h
    | none => .error noReference
  worktree := .ok ⟨fun h => match r.commits.lookup h with
    | some t => (.ok (), t)
    | none => (.error noObject, .empty)⟩

lemma append_ne_append {front other : Text} (h : ¬ front.toList <+: other.toList)
    (h' : ¬ other.toList <+: front.toList) (a b : Text) : front ++ a ≠ other ++ b := by
  intro heq
  have hlist : front.toList ++ a.toList = other.toList ++ b.toList := congrArg Text.toList heq
  rcases List.prefix_or_prefix_of_prefix (List.prefix_append front.toList a.toList)
    (hlist ▸ List.prefix_append other.toList b.toList) with hp | hp
  · exact h hp
  · exact h' hp

lemma lookup_front (front name : Text) (names : List (Text × Hash)) :
    (names.map fun b => (front ++ b.1, b.2)).lookup (front ++ name) = names.lookup name := by
  induction names with
  | nil => rfl
  | cons b names ih =>
      rw [List.map_cons, List.lookup_cons, List.lookup_cons, ih]
      by_cases h : name = b.1
      · simp [h]
      · have hne : front ++ name ≠ front ++ b.1 := fun heq =>
          h (Text.eq_of_toList (List.append_cancel_left (congrArg Text.toList heq)))
        rw [beq_eq_false_iff_ne.mpr h, beq_eq_false_iff_ne.mpr hne]

lemma lookup_other_front {front name : Text} {names : List (Text × Hash)}
    (h : ∀ a, name ≠ front ++ a) : (names.map fun b => (front ++ b.1, b.2)).lookup name = none := by
  rw [List.lookup_eq_none_iff]
  intro b hb
  obtain ⟨b', -, rfl⟩ := List.mem_map.mp hb
  exact bne_iff_ne.mpr (h b'.1)

/-- A hash is not the full name of a tag or a branch. -/
lemma hash_ne_append (h : Hash) {front : Text} (hslash : Glyph.char '/' ∈ front.toList) (a : Text) :
    h.text ≠ front ++ a := by
  intro heq
  refine h.isHash.not_mem (g := .char '/') (by decide) ?_
  rw [heq]
  exact List.mem_append_left _ hslash

variable (r : Repository)

lemma lookup_tag (t : Text) (h : Hash) (ht : r.tags.lookup t = some h) :
    r.refs.lookup ("refs/tags/" ++ t) = some h := by
  rw [refs, List.lookup_append, List.lookup_append, lookup_front, ht]
  rfl

lemma lookup_main (h : Hash) (hmain : r.branches.lookup r.main = some h) :
    r.refs.lookup ("refs/heads/" ++ r.main) = some h := by
  have hkept : (r.branches.filter fun b => b.1 == r.main).lookup r.main =
      r.branches.lookup r.main := by
    generalize r.branches = branches
    induction branches with
    | nil => rfl
    | cons b branches ih =>
        by_cases hb : b.1 = r.main
        · rw [List.filter_cons_of_pos (by simpa using hb), List.lookup_cons, List.lookup_cons, ih]
        · rw [List.filter_cons_of_neg (by simpa using hb), ih, List.lookup_cons,
            beq_eq_false_iff_ne.mpr (Ne.symm hb)]
  rw [refs, List.lookup_append, List.lookup_append, lookup_other_front, lookup_front, hkept, hmain]
  · rfl
  · exact append_ne_append (by decide) (by decide) _

lemma lookup_other (b : Text) (hb : b ≠ r.main) :
    r.refs.lookup ("refs/heads/" ++ b) = none := by
  have hgone : (r.branches.filter fun b => b.1 == r.main).lookup b = none := by
    rw [List.lookup_eq_none_iff]
    intro b' hb'
    have hmain : b'.1 = r.main := by simpa using (List.mem_filter.mp hb').2
    rw [hmain]
    exact bne_iff_ne.mpr hb
  have hhash : (r.commits.map fun c => (c.1.text, c.1)).lookup ("refs/heads/" ++ b) = none := by
    rw [List.lookup_eq_none_iff]
    intro c hc
    obtain ⟨c', -, rfl⟩ := List.mem_map.mp hc
    exact bne_iff_ne.mpr (hash_ne_append c'.1 (by decide) b).symm
  rw [refs, List.lookup_append, List.lookup_append, lookup_other_front, lookup_front, hgone, hhash]
  · rfl
  · exact append_ne_append (by decide) (by decide) _

lemma lookup_hash {b : Hash × Tree} (hb : b ∈ r.commits) :
    r.refs.lookup b.1.text = some b.1 := by
  rw [refs, List.lookup_append, List.lookup_append,
    lookup_other_front (hash_ne_append b.1 (by decide)),
    lookup_other_front (hash_ne_append b.1 (by decide)), Option.none_or, Option.none_or]
  cases hlookup : (r.commits.map fun c => (c.1.text, c.1)).lookup b.1.text with
  | none =>
      have hnone := List.lookup_eq_none_iff.mp hlookup (b.1.text, b.1)
        (List.mem_map.mpr ⟨b, hb, rfl⟩)
      simp at hnone
  | some h =>
      obtain ⟨before, after, hsplit, -⟩ := List.lookup_eq_some_iff.mp hlookup
      have hmem : (b.1.text, h) ∈ r.commits.map fun c => (c.1.text, c.1) := by simp [hsplit]
      obtain ⟨c, -, hc⟩ := List.mem_map.mp hmem
      obtain ⟨htext, rfl⟩ := Prod.mk.inj hc
      rw [Hash.eq_of_text htext]

lemma resolve_clone {revision : Text} {h : Hash} (hlookup : r.refs.lookup revision = some h) :
    r.clone.resolve revision = .ok h := by
  rw [clone]
  dsimp only
  rw [hlookup]

/-- A clone has what is assumed of one. -/
lemma mirrored_clone (hdistinct : (r.commits.map Prod.fst).Nodup) : r.Mirrored r.clone where
  hash b hb := r.resolve_clone (r.lookup_hash hb)
  tag t h ht := r.resolve_clone (r.lookup_tag t h ht)
  main h hmain := r.resolve_clone (r.lookup_main h hmain)
  other b hb := by
    refine ⟨noReference, ?_⟩
    rw [clone]
    dsimp only
    rw [r.lookup_other b hb]
  checkout b hb := by
    refine ⟨_, rfl, ?_⟩
    dsimp only
    rw [FileSystem.lookup_of_mem hdistinct hb]

end Repository

namespace Git

/-- What is said of an address without a repository. -/
def noRepository : GitFault := ⟨"repository not found", false, false⟩

/-- Version control for repositories by their addresses. -/
def serving (repositories : List (Text × Repository)) : Git where
  clone _ address _ := match repositories.lookup address with
    | some r => .ok r.clone
    | none => .error (noRepository, none)

variable {content : Cache.Contents} {repositories : List (Text × Repository)}

lemma mem_of_clone_serving {host : Host} {address draft : Text} {c : Clone}
    (h : (serving repositories).clone host address draft = .ok c) :
    ∃ r, (address, r) ∈ repositories ∧ c = r.clone := by
  rw [serving] at h
  dsimp only at h
  split at h
  · rename_i r hlookup
    obtain ⟨before, after, hsplit, -⟩ := List.lookup_eq_some_iff.mp hlookup
    exact ⟨r, by simp [hsplit], (Except.ok.inj h).symm⟩
  · cases h

lemma honest_serving (h : ∀ b ∈ repositories, ∀ c ∈ b.2.commits, content c.1 = some c.2) :
    (serving repositories).Honest content := by
  intro host address draft c hclone tree hash t htree hcheckout
  obtain ⟨r, hr, rfl⟩ := mem_of_clone_serving hclone
  obtain rfl := Except.ok.inj htree
  dsimp only at hcheckout
  split at hcheckout
  · rename_i u hlookup
    obtain rfl := (Prod.mk.inj hcheckout).2
    obtain ⟨before, after, hsplit, -⟩ := List.lookup_eq_some_iff.mp hlookup
    exact h _ hr (hash, u) (by simp [hsplit])
  · cases (Prod.mk.inj hcheckout).1

end Git

end PocketScheme
