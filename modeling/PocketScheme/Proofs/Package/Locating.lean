import PocketScheme.Proofs.Package.Fetching
import PocketScheme.Proofs.Package.Run

/-!
What locating a dependency comes to, and what is known of the packages that are listed.

* `locatePath_eq_ok_iff`, `materialise_path`: dependencies in directories;
* `materialise_unpinned`, `materialise_pinned`, `fetch_of_materialise`: dependencies that are
  fetched;
* `Resolution.of_enter_eq_opened`, `Resolution.exists_enter_eq_opened`: opened packages;
* `Resolution.Resolves.named`: packages are locked under the names that they are listed under.
-/

namespace PocketScheme

/-! ### Locating -/

section

variable {fetcher : Option Fetcher} {lock : Option Lockfile} {owner : Manifest} {cache name : Text}
  {d : Dependency} {w w' : World} {found : Fetched}

/-- The directory of a dependency that is given by its path. -/
def Dependency.dirFrom (d : Dependency) (owner : Manifest) : Text :=
  if Path.isAbsolute d.path then Path.clean d.path else Path.join [owner.dir, d.path]

lemma locatePath_eq_ok_iff {s : Resolution} :
    s.locatePath owner name d = .ok found ↔ ∃ checksum,
      Checksum.ofPath s.world.files s.world.cwd (d.dirFrom owner) = .ok checksum ∧
      found = ⟨d.dirFrom owner,
        ⟨Segment.sanitize name, "", "path+" ++ d.dirFrom owner, checksum⟩⟩ := by
  rw [Resolution.locatePath, ← Dependency.dirFrom]
  cases Checksum.ofPath s.world.files s.world.cwd (d.dirFrom owner) with
  | error fault => simp
  | ok checksum => simp [eq_comm]

lemma materialise_path (hd : d.path.isEmpty = false) :
    materialise fetcher lock owner name d w =
      (Resolution.locatePath ⟨w, [], [], []⟩ owner name d, w) := by
  unfold materialise Resolution.locate
  rw [if_pos (by rw [hd]; rfl)]

section

variable (hcache : cache.isEmpty = false) (hd : d.path.isEmpty = true)

include hcache hd

lemma materialise_unpinned (hpin : Lockfile.pinned lock name d = none)
    (hfetch : Cache.fetch cache name d w = (.ok found, w')) :
    materialise (Fetcher.cached cache) lock owner name d w = (.ok found, w') := by
  rw [Fetcher.cached, if_neg (by rw [hcache]; simp), materialise, Resolution.locate,
    if_neg (by rw [hd]; simp)]
  dsimp only
  rw [hpin]
  dsimp only
  rw [Resolution.request_eq]
  dsimp only
  rw [hfetch]
  rfl

lemma materialise_pinned {entry : LockedPackage} {commit : Text}
    (hpin : Lockfile.pinned lock name d = some (entry, commit)) (hcommit : commit.isEmpty = false)
    (hfetch : Cache.fetch cache name ⟨"", d.git, commit, "", ""⟩ w = (.ok found, w')) :
    materialise (Fetcher.cached cache) lock owner name d w =
      (.ok { found with package := { found.package with version := entry.version } }, w') := by
  rw [Fetcher.cached, if_neg (by rw [hcache]; simp), materialise, Resolution.locate,
    if_neg (by rw [hd]; simp)]
  dsimp only
  rw [hpin]
  dsimp only
  rw [if_neg (by rw [hcommit]; simp), Resolution.request_eq]
  dsimp only
  rw [hfetch]
  rfl

end

lemma fetch_of_materialise (hd : d.path.isEmpty = true)
    (h : materialise (Fetcher.cached cache) none owner name d w = (.ok found, w')) :
    cache.isEmpty = false ∧ Cache.fetch cache name d w = (.ok found, w') := by
  rw [Fetcher.cached] at h
  cases hcache : cache.isEmpty with
  | true =>
      rw [hcache, if_pos rfl, materialise, Resolution.locate, if_neg (by rw [hd]; simp)] at h
      cases h
  | false =>
      rw [hcache, if_neg (by simp), materialise, Resolution.locate,
        if_neg (by rw [hd]; simp)] at h
      dsimp only [Lockfile.pinned, Option.bind_eq_bind, Option.bind_none] at h
      rw [Resolution.request_eq] at h
      dsimp only at h
      rcases hr : Cache.fetch cache name d w with ⟨r | r, w₂⟩
      · rw [hr] at h
        cases h
      · rw [hr] at h
        cases h
        exact ⟨rfl, rfl⟩

/-- A dependency is locked under its own name. -/
lemma materialise_name
    (h : materialise (Fetcher.cached cache) none owner name d w = (.ok found, w')) :
    found.package.name = Segment.sanitize name := by
  cases hd : d.path.isEmpty with
  | false =>
      rw [materialise_path hd] at h
      obtain ⟨_, -, rfl⟩ := locatePath_eq_ok_iff.mp (Prod.mk.inj h).1
      rfl
  | true =>
      obtain ⟨-, _, _, _, -, -, rfl⟩ := Cache.fetch_eq_ok (fetch_of_materialise hd h).2
      rfl

/-- What is not given by its path is locked as fetched. -/
lemma materialise_isFetched (hd : d.path.isEmpty = true)
    (h : materialise (Fetcher.cached cache) none owner name d w = (.ok found, w')) :
    found.package.isFetched = true := by
  obtain ⟨-, _, commit, _, -, -, rfl⟩ := Cache.fetch_eq_ok (fetch_of_materialise hd h).2
  rw [LockedPackage.isFetched, Lockfile.gitSource, Text.append_assoc, Text.append_assoc]
  exact Text.startsWith_append _ _

end

lemma withVersion_eq (p : LockedPackage) (m : Manifest) :
    ∃ version, Resolution.withVersion p m = { p with version := version } := by
  rw [Resolution.withVersion]
  split
  · exact ⟨_, rfl⟩
  · exact ⟨p.version, rfl⟩

/-! ### Packages that are listed -/

/-- The package is listed under the name that it is locked under. -/
structure ResolvedPackage.Named (p : ResolvedPackage) : Prop where
  locked : p.locked.name = p.name
  sanitize : Segment.sanitize p.name = p.name

namespace Resolution

variable {fetcher : Option Fetcher} {lock : Option Lockfile} {owner m : Manifest}
  {cache name : Text} {d : Dependency} {deps : List (Text × Dependency)} {locked : LockedPackage}
  {s t : Resolution}

lemma enter_order {e : Entered} (h : s.enter fetcher lock owner name d = (e, t)) :
    t.order = s.order := by
  cases enters h <;> rfl

lemma of_enter_eq_opened (h : s.enter fetcher lock owner name d = (.opened m locked, t)) :
    s.isDone (Segment.sanitize name) = false ∧ Segment.sanitize name ∉ s.visiting ∧
      t.visiting = Segment.sanitize name :: s.visiting ∧ t.order = s.order ∧
      ∃ found, materialise fetcher lock owner name d s.world = (.ok found, t.world) ∧
        Manifest.load t.world (Path.join [found.dir, Manifest.fileName]) = .ok m ∧
        locked = withVersion found.package m := by
  cases enters h with
  | @opened _ found _ _ hdone hnew hmat hload =>
      exact ⟨hdone, hnew, rfl, rfl, found, hmat, loadManifest_eq_ok_iff.mp hload, rfl⟩

lemma exists_enter_eq_opened (hdone : s.isDone (Segment.sanitize name) = false)
    (hnew : Segment.sanitize name ∉ s.visiting) {found : Fetched} {w : World}
    (hmat : materialise fetcher lock owner name d s.world = (.ok found, w))
    (hload : Manifest.load w (Path.join [found.dir, Manifest.fileName]) = .ok m) :
    ∃ rs, s.enter fetcher lock owner name d = (.opened m (withVersion found.package m),
      ⟨w, Segment.sanitize name :: s.visiting, s.order, rs⟩) := by
  obtain ⟨rs, hlocate⟩ := locate_eq { s with visiting := Segment.sanitize name :: s.visiting }
    fetcher lock owner name d
  have hopen : loadManifest ⟨w, Segment.sanitize name :: s.visiting, s.order, rs⟩ name found.dir =
      .ok m := by
    rw [loadManifest_eq_ok_iff]
    exact hload
  refine ⟨rs, ?_⟩
  rw [enter, if_neg (by rw [hdone]; simp), if_neg (by rw [List.contains_iff_mem]; exact hnew),
    hlocate]
  dsimp only
  rw [hmat]
  dsimp only
  rw [hopen]

lemma named_of_opened
    (h : s.enter (Fetcher.cached cache) none owner name d = (.opened m locked, t)) :
    ResolvedPackage.Named ⟨Segment.sanitize name, m, locked⟩ := by
  obtain ⟨-, -, -, -, found, hmat, -, rfl⟩ := of_enter_eq_opened h
  obtain ⟨version, hversion⟩ := withVersion_eq found.package m
  refine ⟨?_, Segment.sanitize_sanitize name⟩
  rw [hversion]
  exact materialise_name hmat

/-- Packages are locked under the names that they are listed under. -/
lemma Resolves.named {r : Except PackageFault Unit}
    (h : Resolves (Fetcher.cached cache) none owner deps s r t)
    (hs : ∀ p ∈ s.order, p.Named) : ∀ p ∈ t.order, p.Named := by
  induction h with
  | nil => exact hs
  | done h _ ih =>
      cases enters h with
      | done => exact ih hs
  | failed h => exact enter_order h ▸ hs
  | broken h _ ih => exact ih (enter_order h ▸ hs)
  | opened h _ _ ihinner ih =>
      exact ih (List.forall_mem_append.mpr
        ⟨ihinner (enter_order h ▸ hs), List.forall_mem_singleton.mpr (named_of_opened h)⟩)

end Resolution

end PocketScheme
