import PocketScheme.Proofs.Package.Fetching
import PocketScheme.Proofs.Package.Run

/-!
What resolving leaves behind in the file system, whether it works or not, and whatever comes of
cloning.

* `Cache.Puts`: what a fetch can put where;
* `Cache.fetch_stored`: a fetch puts nothing else, and nothing over something that is there;
* `Resolution.Fetches`, `Resolution.Resolves.fetches`: what a run puts where.
-/

namespace PocketScheme

open PocketScheme.FileSystem (Covered Grown Stored)

namespace Cache

/-! ### One fetch -/

/-- What a fetch puts into the files `fs`, so that they become `gs`: directories on the way to that
of the dependency, and what is below a directory in it that is named for a commit and was not there
before. -/
def Puts (cwd base : Text) (fs gs : FileSystem) (q : Place) (e : Entry) : Prop :=
  (e = .directory ∧ ∃ t ∈ FileSystem.steps base, gs.lookup cwd t = .ok (q, .directory)) ∨
    ∃ dir v hash, gs.lookup cwd base = .ok (dir, .directory) ∧ Names v hash ∧
      fs.get? (dir ++ [v]) = none ∧ dir ++ [v] <+: q

/-- What is put stays put, and what was free later on was free before. -/
lemma Puts.of_grown {cwd base : Text} {q : Place} {fs fs' gs gs' : FileSystem} {e : Entry}
    (hfs : Grown fs' fs) (hgs : Grown gs gs') (h : Puts cwd base fs gs q e) :
    Puts cwd base fs' gs' q e := by
  rcases h with ⟨he, t, ht, hlookup⟩ | ⟨dir, v, hash, hlookup, hnames, hfree, hq⟩
  · exact .inl ⟨he, t, ht, FileSystem.lookup_of_grown hgs hlookup⟩
  · exact .inr ⟨dir, v, hash, FileSystem.lookup_of_grown hgs hlookup, hnames, hfs.eq_none hfree, hq⟩

/-- A fetch puts nothing over something that is there, whether it works or not. -/
lemma fetch_stored {cache : Text} {w : World} (hw : Covered w.files)
    (hcache : cache.isEmpty = false) (name : Text) (d : Dependency) :
    ∃ files, (fetch cache name d w).2 = w.withFiles files ∧
      Stored (Puts w.cwd (packageDir cache name) w.files files) w.files files := by
  rcases fetch_cases hcache hw name d with hsame | ⟨r, made, hmake, hcases⟩
  · exact ⟨w.files, hsame, .refl⟩
  · have hmade := FileSystem.stored_makeDirs hw w.cwd (packageDir cache name)
    rw [hmake] at hmade
    have hdirs : Stored (Puts w.cwd (packageDir cache name) w.files made) w.files made :=
      hmade.mono fun q e hq => .inl hq
    rcases hcases with hfetch | ⟨-, dir, v, hash, t, hdir, hnames, hfree, hfetch⟩
    · exact ⟨made, hfetch, hdirs⟩
    · have hparent : made.get? (dir ++ [v]).dropLast ≠ none := by
        rw [List.dropLast_concat, (FileSystem.lookup_eq_ok_iff.mp hdir).2]
        exact Option.some_ne_none _
      have hlaid : Stored (fun q _ => dir ++ [v] <+: q) made (made.lay (dir ++ [v]) t) :=
        .lay (hmade.covered hw) hfree hparent fun rest _ => List.prefix_append _ rest
      refine ⟨_, hfetch, (hdirs.mono fun q e hq => ?_).trans (hlaid.mono fun q e hq => ?_)⟩
      · exact hq.of_grown (.refl _) hlaid.grown
      · exact .inr ⟨dir, v, hash, FileSystem.lookup_of_grown hlaid.grown hdir, hnames,
          hmade.grown.eq_none hfree, hq⟩

end Cache

/-! ### Runs -/

namespace Resolution

variable {cache name : Text} {lock : Option Lockfile} {owner : Manifest} {d : Dependency}
  {s t u : Resolution}

/-- What has become of the state `s`: requests were made, and what they put into the file system is
there. -/
structure Fetches (cache : Text) (s t : Resolution) : Prop where
  requests : s.requests ⊆ t.requests
  world : t.world = s.world.withFiles t.world.files
  stored : Stored (fun q e => ∃ r ∈ t.requests, cache.isEmpty = false ∧
    Cache.Puts s.world.cwd (Cache.packageDir cache r.1) s.world.files t.world.files q e)
    s.world.files t.world.files

namespace Fetches

lemma refl (cache : Text) (s : Resolution) : Fetches cache s s :=
  ⟨List.Subset.refl _, rfl, .refl⟩

lemma covered (h : Fetches cache s t) (hs : Covered s.world.files) : Covered t.world.files :=
  h.stored.covered hs

lemma trans (h : Fetches cache s t) (h' : Fetches cache t u) : Fetches cache s u := by
  have hcwd : t.world.cwd = s.world.cwd := by
    rw [h.world]
    rfl
  refine ⟨List.Subset.trans h.requests h'.requests, ?_, ?_⟩
  · rw [h'.world, h.world]
    rfl
  · refine (h.stored.mono ?_).trans (h'.stored.mono ?_)
    · rintro q e ⟨r, hr, hcache, hputs⟩
      exact ⟨r, h'.requests hr, hcache, hputs.of_grown (.refl _) h'.stored.grown⟩
    · rintro q e ⟨r, hr, hcache, hputs⟩
      rw [hcwd] at hputs
      exact ⟨r, hr, hcache, hputs.of_grown h.stored.grown (.refl _)⟩

end Fetches

lemma request_fetches (hs : Covered s.world.files) (hcache : cache.isEmpty = false) (name : Text)
    (d : Dependency) : Fetches cache s (s.request ⟨Cache.fetch cache⟩ name d).2 := by
  obtain ⟨files, hfetch, hstored⟩ := Cache.fetch_stored hs hcache name d
  rw [request_eq]
  dsimp only
  rw [hfetch]
  refine ⟨List.subset_append_left _ _, rfl, hstored.mono fun q e hputs => ?_⟩
  exact ⟨(name, d), by simp, hcache, hputs⟩

lemma locate_fetches (cache : Text) (hs : Covered s.world.files) (lock : Option Lockfile)
    (owner : Manifest) (name : Text) (d : Dependency) :
    Fetches cache s (s.locate (Fetcher.cached cache) lock owner name d).2 := by
  unfold locate
  rw [Fetcher.cached]
  split
  · exact .refl cache s
  · cases hcache : cache.isEmpty with
    | true => exact .refl cache s
    | false =>
        have hrequest := request_fetches hs hcache name
        rw [if_neg (by simp)]
        dsimp only
        split
        · exact hrequest d
        · split
          · exact hrequest d
          · rename_i commit _ _
            have hpinned := hrequest ⟨"", d.git, commit, "", ""⟩
            split
            · rename_i h
              rwa [h] at hpinned
            · rename_i h
              rwa [h] at hpinned

lemma enter_fetches {e : Entered} (hs : Covered s.world.files)
    (h : s.enter (Fetcher.cached cache) lock owner name d = (e, t)) : Fetches cache s t := by
  have hlocate : Fetches cache s
      ({ s with visiting := Segment.sanitize name :: s.visiting }.locate (Fetcher.cached cache) lock
        owner name d).2 := by
    obtain ⟨hrequests, hworld, hstored⟩ := locate_fetches cache
      (s := { s with visiting := Segment.sanitize name :: s.visiting }) hs lock owner name d
    exact ⟨hrequests, hworld, hstored⟩
  rw [enter] at h
  split at h
  · obtain ⟨-, rfl⟩ := Prod.mk.inj h
    exact .refl cache s
  · split at h
    · obtain ⟨-, rfl⟩ := Prod.mk.inj h
      exact .refl cache s
    · split at h
      · rename_i hfound
        rw [hfound] at hlocate
        obtain ⟨-, rfl⟩ := Prod.mk.inj h
        exact hlocate
      · rename_i hfound
        rw [hfound] at hlocate
        split at h
        · obtain ⟨-, rfl⟩ := Prod.mk.inj h
          exact hlocate
        · obtain ⟨-, rfl⟩ := Prod.mk.inj h
          exact hlocate

/-- A package that is resolved was fetched before. -/
lemma leave_fetches (cache : Text) (u : Resolution) (key : Text) (m : Manifest)
    (locked : LockedPackage) : Fetches cache u (u.leave key m locked) :=
  ⟨List.Subset.refl _, rfl, .refl⟩

/-- However a run ends, its requests account for all that is new in the file system. -/
lemma Resolves.fetches {deps : List (Text × Dependency)} {r : Except PackageFault Unit}
    (h : Resolves (Fetcher.cached cache) lock owner deps s r t) (hs : Covered s.world.files) :
    Fetches cache s t := by
  induction h with
  | nil => exact .refl cache _
  | done h _ ih =>
      have hentered := enter_fetches hs h
      exact hentered.trans (ih (hentered.covered hs))
  | failed h => exact enter_fetches hs h
  | @opened _ m name _ locked _ _ _ u _ _ h _ _ ihinner ih =>
      have hentered := enter_fetches hs h
      have hinner := hentered.trans (ihinner (hentered.covered hs))
      have hleft := hinner.trans (leave_fetches cache u (Segment.sanitize name) m locked)
      exact hleft.trans (ih (hleft.covered hs))
  | broken h _ ihinner =>
      have hentered := enter_fetches hs h
      exact hentered.trans (ihinner (hentered.covered hs))

end Resolution

end PocketScheme
