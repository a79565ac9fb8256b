import PocketScheme.Package.Program
import Mathlib.Tactic.Common

/-!
Runs of the resolver, as derivations.

* `materialise`: what locating a dependency does to the world;
* `Resolution.Enters`: all that looking at a dependency can come to;
* `Resolution.Resolves`: resolving dependencies one after the other, as a relation between states;
* `Resolution.resolveEach_eq_some_iff`: the relation is what the resolver computes;
* `Resolution.resolveWithin`: the resolver with a bound on the length of a run, which can be
  evaluated.
-/

namespace PocketScheme

/-- Locates a dependency, as far as the world is concerned. -/
def materialise (fetcher : Option Fetcher) (lock : Option Lockfile) (owner : Manifest) (name : Text)
    (d : Dependency) (w : World) : Except PackageFault Fetched × World :=
  let r := Resolution.locate ⟨w, [], [], []⟩ fetcher lock owner name d
  (r.1, r.2.world)

namespace Resolution

variable {fetcher : Option Fetcher} {lock : Option Lockfile} {owner : Manifest}
  {name : Text} {d : Dependency} {s t : Resolution}

/-! ### Looking at a dependency -/

lemma request_eq (s : Resolution) (f : Fetcher) (name : Text) (d : Dependency) :
    s.request f name d =
      ((f.fetch name d s.world).1.mapError .fetch,
        { s with world := (f.fetch name d s.world).2, requests := s.requests ++ [(name, d)] }) := by
  rw [request]
  dsimp only
  split <;> rename_i h <;> rw [h] <;> rfl

/-- Locating a dependency changes the world, and records what was asked of the fetcher. -/
lemma locate_eq (s : Resolution) (fetcher : Option Fetcher) (lock : Option Lockfile)
    (owner : Manifest) (name : Text) (d : Dependency) :
    ∃ rs, s.locate fetcher lock owner name d =
      ((materialise fetcher lock owner name d s.world).1,
        { s with world := (materialise fetcher lock owner name d s.world).2, requests := rs }) := by
  unfold materialise locate
  split
  · exact ⟨s.requests, rfl⟩
  · split
    · exact ⟨s.requests, rfl⟩
    · split
      · simp only [request_eq]
        exact ⟨_, rfl⟩
      · split
        · simp only [request_eq]
          exact ⟨_, rfl⟩
        · simp only [request_eq]
          generalize Fetcher.fetch _ _ _ _ = r
          obtain ⟨r | r, w⟩ := r <;> exact ⟨_, rfl⟩

/-- All that looking at a dependency can come to. -/
inductive Enters (fetcher : Option Fetcher) (lock : Option Lockfile) (owner : Manifest)
    (name : Text) (d : Dependency) (s : Resolution) : Entered → Resolution → Prop where
  | done (h : s.isDone (Segment.sanitize name) = true) : Enters fetcher lock owner name d s .done s
  | cycle (hdone : s.isDone (Segment.sanitize name) = false)
      (h : Segment.sanitize name ∈ s.visiting) :
      Enters fetcher lock owner name d s (.failed (.cycle name)) s
  | unlocated {fault : PackageFault} {w : World} {rs : List (Text × Dependency)}
      (hdone : s.isDone (Segment.sanitize name) = false) (hnew : Segment.sanitize name ∉ s.visiting)
      (h : materialise fetcher lock owner name d s.world = (.error fault, w)) :
      Enters fetcher lock owner name d s (.failed fault)
        ⟨w, Segment.sanitize name :: s.visiting, s.order, rs⟩
  | unloaded {fault : PackageFault} {found : Fetched} {w : World} {rs : List (Text × Dependency)}
      (hdone : s.isDone (Segment.sanitize name) = false) (hnew : Segment.sanitize name ∉ s.visiting)
      (h : materialise fetcher lock owner name d s.world = (.ok found, w))
      (hload : loadManifest ⟨w, Segment.sanitize name :: s.visiting, s.order, rs⟩ name found.dir =
        .error fault) :
      Enters fetcher lock owner name d s (.failed fault)
        ⟨w, Segment.sanitize name :: s.visiting, s.order, rs⟩
  | opened {m : Manifest} {found : Fetched} {w : World} {rs : List (Text × Dependency)}
      (hdone : s.isDone (Segment.sanitize name) = false) (hnew : Segment.sanitize name ∉ s.visiting)
      (h : materialise fetcher lock owner name d s.world = (.ok found, w))
      (hload : loadManifest ⟨w, Segment.sanitize name :: s.visiting, s.order, rs⟩ name found.dir =
        .ok m) :
      Enters fetcher lock owner name d s (.opened m (withVersion found.package m))
        ⟨w, Segment.sanitize name :: s.visiting, s.order, rs⟩

lemma enters {e : Entered} (h : s.enter fetcher lock owner name d = (e, t)) :
    Enters fetcher lock owner name d s e t := by
  rw [enter] at h
  split at h
  · obtain ⟨rfl, rfl⟩ := Prod.mk.inj h
    exact .done ‹_›
  · rename_i hdone
    rw [Bool.not_eq_true] at hdone
    split at h
    · rename_i hmem
      obtain ⟨rfl, rfl⟩ := Prod.mk.inj h
      exact .cycle hdone (List.contains_iff_mem.mp hmem)
    · rename_i hnew
      rw [Bool.not_eq_true, ← Bool.not_eq_true, List.contains_iff_mem] at hnew
      obtain ⟨rs, hlocate⟩ := locate_eq { s with visiting := Segment.sanitize name :: s.visiting }
        fetcher lock owner name d
      rw [hlocate] at h
      generalize hr : materialise fetcher lock owner name d s.world = r at h
      obtain ⟨r, w⟩ := r
      cases r with
      | error fault =>
          obtain ⟨rfl, rfl⟩ := Prod.mk.inj h
          exact .unlocated hdone hnew hr
      | ok found =>
          dsimp only at h
          split at h
          · rename_i hload
            obtain ⟨rfl, rfl⟩ := Prod.mk.inj h
            exact .unloaded hdone hnew hr hload
          · rename_i hload
            obtain ⟨rfl, rfl⟩ := Prod.mk.inj h
            exact .opened hdone hnew hr hload

lemma loadManifest_eq_ok_iff {s : Resolution} {name dir : Text} {m : Manifest} :
    s.loadManifest name dir = .ok m ↔
      Manifest.load s.world (Path.join [dir, Manifest.fileName]) = .ok m := by
  rw [loadManifest]
  cases Manifest.load s.world (Path.join [dir, Manifest.fileName]) with
  | ok _ => simp
  | error fault =>
      dsimp only
      split <;> simp

/-! ### Runs -/

/-- Resolving dependencies of a manifest one after the other. -/
inductive Resolves (fetcher : Option Fetcher) (lock : Option Lockfile) :
    Manifest → List (Text × Dependency) → Resolution → Except PackageFault Unit → Resolution → Prop
    where
  | nil {owner : Manifest} {s : Resolution} : Resolves fetcher lock owner [] s (.ok ()) s
  | done {owner : Manifest} {name : Text} {d : Dependency} {deps : List (Text × Dependency)}
      {s t u : Resolution} {r : Except PackageFault Unit}
      (h : s.enter fetcher lock owner name d = (.done, t))
      (hrest : Resolves fetcher lock owner deps t r u) :
      Resolves fetcher lock owner ((name, d) :: deps) s r u
  | failed {owner : Manifest} {name : Text} {d : Dependency} {deps : List (Text × Dependency)}
      {s t : Resolution} {fault : PackageFault}
      (h : s.enter fetcher lock owner name d = (.failed fault, t)) :
      Resolves fetcher lock owner ((name, d) :: deps) s (.error fault) t
  | opened {owner m : Manifest} {name : Text} {d : Dependency} {locked : LockedPackage}
      {deps : List (Text × Dependency)} {s t u v : Resolution} {r : Except PackageFault Unit}
      (h : s.enter fetcher lock owner name d = (.opened m locked, t))
      (hinner : Resolves fetcher lock m m.dependencies t (.ok ()) u)
      (hrest : Resolves fetcher lock owner deps (u.leave (Segment.sanitize name) m locked) r v) :
      Resolves fetcher lock owner ((name, d) :: deps) s r v
  | broken {owner m : Manifest} {name : Text} {d : Dependency} {locked : LockedPackage}
      {deps : List (Text × Dependency)} {s t u : Resolution} {fault : PackageFault}
      (h : s.enter fetcher lock owner name d = (.opened m locked, t))
      (hinner : Resolves fetcher lock m m.dependencies t (.error fault) u) :
      Resolves fetcher lock owner ((name, d) :: deps) s (.error fault) u

/-- A run ends as the resolver says. -/
lemma Resolves.eq_some {deps : List (Text × Dependency)} {r : Except PackageFault Unit}
    (h : Resolves fetcher lock owner deps s r t) :
    resolveEach fetcher lock owner deps s = some (r, t) := by
  induction h with
  | nil => rw [resolveEach]
  | done h _ ih => rw [resolveEach, h]; exact ih
  | failed h => rw [resolveEach, h]
  | opened h _ _ ihinner ih => rw [resolveEach, h]; simp [ihinner, ih]
  | broken h _ ihinner => rw [resolveEach, h]; simp [ihinner]

/-- What the resolver gives back is what a run ends with. -/
lemma resolves_of_eq_some {deps : List (Text × Dependency)}
    {r : Except PackageFault Unit × Resolution}
    (h : resolveEach fetcher lock owner deps s = some r) :
    Resolves fetcher lock owner deps s r.1 r.2 := by
  refine resolveEach.partial_correctness fetcher lock
    (fun owner deps s r => Resolves fetcher lock owner deps s r.1 r.2) ?_ owner deps s r h
  intro f ih owner deps s r h
  cases deps with
  | nil =>
      obtain rfl := Option.some.inj h
      exact .nil
  | cons e deps =>
      obtain ⟨name, d⟩ := e
      dsimp only at h
      split at h
      · rename_i henter
        exact .done henter (ih _ _ _ _ h)
      · rename_i henter
        obtain rfl := Option.some.inj h
        exact .failed henter
      · rename_i m locked t henter
        obtain ⟨⟨r', u⟩, hinner, h⟩ := Option.bind_eq_some_iff.mp h
        have hinner := ih _ _ _ _ hinner
        cases r' with
        | ok _ => exact .opened henter hinner (ih _ _ _ _ h)
        | error fault =>
            obtain rfl := Option.some.inj h
            exact .broken henter hinner

/-- The runs are what the resolver computes. -/
theorem resolveEach_eq_some_iff {deps : List (Text × Dependency)} {r : Except PackageFault Unit} :
    resolveEach fetcher lock owner deps s = some (r, t) ↔ Resolves fetcher lock owner deps s r t :=
  ⟨resolves_of_eq_some, Resolves.eq_some⟩

/-- The resolver with a bound on the length of a run. -/
def resolveWithin (fetcher : Option Fetcher) (lock : Option Lockfile) :
    Nat → Manifest → List (Text × Dependency) → Resolution →
      Option (Except PackageFault Unit × Resolution)
  | 0, _, _, _ => none
  | _ + 1, _, [], s => some (.ok (), s)
  | bound + 1, owner, (name, d) :: deps, s =>
    match s.enter fetcher lock owner name d with
    | (.done, s) => resolveWithin fetcher lock bound owner deps s
    | (.failed fault, s) => some (.error fault, s)
    | (.opened m locked, s) =>
      match resolveWithin fetcher lock bound m m.dependencies s with
      | some (.ok (), s) =>
        resolveWithin fetcher lock bound owner deps (s.leave (Segment.sanitize name) m locked)
      | some (.error fault, s) => some (.error fault, s)
      | none => none

/-- A bounded run that comes to an end is a run. -/
lemma resolves_of_resolveWithin {deps : List (Text × Dependency)} {bound : Nat}
    {r : Except PackageFault Unit}
    (h : resolveWithin fetcher lock bound owner deps s = some (r, t)) :
    Resolves fetcher lock owner deps s r t := by
  fun_induction resolveWithin fetcher lock bound owner deps s generalizing r t with
  | case1 => simp at h
  | case2 =>
      obtain ⟨rfl, rfl⟩ := Prod.mk.inj (Option.some.inj h)
      exact .nil
  | case3 _ _ _ _ _ _ _ henter ih => exact .done henter (ih h)
  | case4 _ _ _ _ _ _ _ _ henter =>
      obtain ⟨rfl, rfl⟩ := Prod.mk.inj (Option.some.inj h)
      exact .failed henter
  | case5 _ _ _ _ _ _ _ _ _ henter _ hinner ihinner ih =>
      exact .opened henter (ihinner hinner) (ih h)
  | case6 _ _ _ _ _ _ _ _ _ henter _ _ hinner ihinner =>
      obtain ⟨rfl, rfl⟩ := Prod.mk.inj (Option.some.inj h)
      exact .broken henter (ihinner hinner)
  | case7 => simp at h

/-- The state in which a project's dependencies start to be resolved. -/
def initial (root : Manifest) (w : World) : Resolution :=
  ⟨w, [Segment.sanitize root.name], [], []⟩

lemma resolve_eq_ok_iff {root : Manifest} {w : World} {packages : List ResolvedPackage} :
    resolve fetcher lock root w = some (.ok packages, t) ↔
      Resolves fetcher lock root root.dependencies (initial root w) (.ok ()) t ∧
        t.order = packages := by
  rw [← resolveEach_eq_some_iff, resolve, initial]
  cases h : resolveEach fetcher lock root root.dependencies
    ⟨w, [Segment.sanitize root.name], [], []⟩ with
  | none => simp
  | some r =>
      obtain ⟨r | r, u⟩ := r
      · simp
      · simp only [Option.bind_eq_bind, Option.bind_some, Option.some.injEq, Prod.mk.injEq,
          Except.ok.injEq, true_and]
        constructor
        · rintro ⟨rfl, rfl⟩; exact ⟨rfl, rfl⟩
        · rintro ⟨rfl, rfl⟩; exact ⟨rfl, rfl⟩

lemma resolve_eq_error_iff {root : Manifest} {w : World} {fault : PackageFault} :
    resolve fetcher lock root w = some (.error fault, t) ↔
      Resolves fetcher lock root root.dependencies (initial root w) (.error fault) t := by
  rw [← resolveEach_eq_some_iff, resolve, initial]
  cases h : resolveEach fetcher lock root root.dependencies
    ⟨w, [Segment.sanitize root.name], [], []⟩ with
  | none => simp
  | some r => obtain ⟨r | r, u⟩ := r <;> simp

/-- What resolving comes to, by its run. -/
lemma resolve_of_resolves {root : Manifest} {w : World} {r : Except PackageFault Unit}
    (h : Resolves fetcher lock root root.dependencies (initial root w) r t) :
    resolve fetcher lock root w = some (r.map fun _ => t.order, t) := by
  cases r with
  | error fault => exact resolve_eq_error_iff.mpr h
  | ok _ => exact resolve_eq_ok_iff.mpr ⟨h, rfl⟩

end Resolution

/-! ### Loading and installing -/

/-- The program of a target, with a bound on the length of a run. -/
def Program.ofTargetWithin (bound : Nat) (fetcher : Option Fetcher) (w : World)
    (path target : Text) :
    Option (Loaded Program) :=
  match prepare w path target with
  | .error fault => some ⟨.error fault, w, []⟩
  | .ok (m, t, lock) =>
    (Resolution.resolveWithin fetcher lock bound m m.dependencies (.initial m w)).map fun
      | (.error fault, s) => ⟨.error fault, s.world, s.requests⟩
      | (.ok (), s) => ⟨assemble s.world m t s.order, s.world, s.requests⟩

lemma Program.ofTarget_eq_of_ofTargetWithin {bound : Nat} {fetcher : Option Fetcher} {w : World}
    {path target : Text} {l : Loaded Program}
    (h : ofTargetWithin bound fetcher w path target = some l) :
    ofTarget fetcher w path target = l := by
  rw [ofTargetWithin] at h
  rw [ofTarget]
  generalize prepare w path target = prepared at h ⊢
  rcases prepared with fault | ⟨m, t, lock⟩
  · exact Option.some.inj h
  · obtain ⟨⟨r, s⟩, hrun, h⟩ := Option.map_eq_some_iff.mp h
    dsimp only
    rw [Resolution.resolve_of_resolves (Resolution.resolves_of_resolveWithin hrun)]
    cases r <;> exact h

/-- Installing with a bound on the length of a run. -/
def installWithin (bound : Nat) (fetcher : Option Fetcher) (w : World) (path : Text) :
    Option (Loaded Lockfile) :=
  match Manifest.load w path with
  | .error fault => some ⟨.error (.manifest fault), w, []⟩
  | .ok m =>
    (Resolution.resolveWithin fetcher none bound m m.dependencies (.initial m w)).map fun
      | (.error fault, s) => ⟨.error fault, s.world, s.requests⟩
      | (.ok (), s) =>
        match Lockfile.save s.world (some (lockOf m w.now s.order))
          (Path.join [m.dir, Lockfile.fileName]) with
        | (.ok lock, w) => ⟨.ok lock, w, s.requests⟩
        | (.error fault, w) => ⟨.error (.unsaved fault), w, s.requests⟩

lemma install_eq_of_installWithin {bound : Nat} {fetcher : Option Fetcher} {w : World} {path : Text}
    {l : Loaded Lockfile} (h : installWithin bound fetcher w path = some l) :
    install fetcher w path = l := by
  rw [installWithin] at h
  rw [install]
  generalize Manifest.load w path = loaded at h ⊢
  rcases loaded with fault | m
  · exact Option.some.inj h
  · obtain ⟨⟨r, s⟩, hrun, h⟩ := Option.map_eq_some_iff.mp h
    dsimp only
    rw [Resolution.resolve_of_resolves (Resolution.resolves_of_resolveWithin hrun)]
    cases r <;> exact h

end PocketScheme
