import PocketScheme.Proofs.Package.Order
import Mathlib.Data.Finset.Card
import Mathlib.Data.Set.Finite.Lattice

/-!
Resolving comes to an end, and reports the cycles.

* `Closed`: worlds and manifests among which a run stays;
* `Resolution.free`: the names that are yet to be resolved, of which there are fewer and fewer;
* `exists_resolve`: there is a result if finitely many names are declared;
* `Consistent`: every dependency is found, and a name stands for the same package everywhere;
* `Cyclic`: the names that a project reaches go round in a circle or come back to the project;
* `resolve_cycle_iff`: a cycle is reported just then.
-/

namespace PocketScheme

/-- Looking for dependencies of the manifests, in one of the worlds, leads to one of the worlds and
to one of the manifests. -/
structure Closed (fetcher : Option Fetcher) (lock : Option Lockfile) (worlds : Set World)
    (manifests : Set Manifest) : Prop where
  world : ∀ owner ∈ manifests, ∀ e ∈ owner.dependencies, ∀ v ∈ worlds, ∀ found v',
    materialise fetcher lock owner e.1 e.2 v = (.ok found, v') → v' ∈ worlds
  manifest : ∀ owner ∈ manifests, ∀ e ∈ owner.dependencies, ∀ v ∈ worlds, ∀ found v' m,
    materialise fetcher lock owner e.1 e.2 v = (.ok found, v') →
      Manifest.load v' (Path.join [found.dir, Manifest.fileName]) = .ok m → m ∈ manifests

namespace Resolution

variable {fetcher : Option Fetcher} {lock : Option Lockfile} {worlds : Set World}
  {manifests : Set Manifest} {owner : Manifest}

/-- The manifest of a dependency, and the world in which it was loaded. -/
lemma opened_mem (hclosed : Closed fetcher lock worlds manifests) (howner : owner ∈ manifests)
    {s t : Resolution} {e : Text × Dependency} {m : Manifest} {locked : LockedPackage}
    (he : e ∈ owner.dependencies) (hs : s.world ∈ worlds)
    (h : s.enter fetcher lock owner e.1 e.2 = (.opened m locked, t)) :
    t.world ∈ worlds ∧ m ∈ manifests := by
  cases enters h with
  | opened _ _ hfound hload =>
      have hload := loadManifest_eq_ok_iff.mp hload
      exact ⟨hclosed.world owner howner e he _ hs _ _ hfound,
        hclosed.manifest owner howner e he _ hs _ _ m hfound hload⟩

/-- A run stays among the worlds. -/
lemma Resolves.world_mem (hclosed : Closed fetcher lock worlds manifests)
    {deps : List (Text × Dependency)} {s t : Resolution} {r : Except PackageFault Unit}
    (h : Resolves fetcher lock owner deps s r t) (howner : owner ∈ manifests)
    (hdeps : deps ⊆ owner.dependencies) (hs : s.world ∈ worlds) (hr : r = .ok ()) :
    t.world ∈ worlds := by
  induction h with
  | nil => exact hs
  | done h _ ih =>
      cases enters h with
      | done => exact ih howner (List.subset_of_cons_subset hdeps) hs hr
  | failed => cases hr
  | opened h _ _ ihinner ih =>
      obtain ⟨ht, hm⟩ := opened_mem hclosed howner (hdeps List.mem_cons_self) hs h
      have hu := ihinner hm (List.Subset.refl _) ht rfl
      exact ih howner (List.subset_of_cons_subset hdeps) hu hr
  | broken => cases hr

/-! ### Termination -/

/-- The names among `keys` that are neither resolved nor being resolved. -/
def free (keys : Finset Text) (s : Resolution) : Finset Text :=
  keys.filter fun key => key ∉ s.visiting ∧ s.isDone key = false

variable {keys : Finset Text}

lemma mem_free {s : Resolution} {key : Text} :
    key ∈ s.free keys ↔ key ∈ keys ∧ key ∉ s.visiting ∧ ∀ p ∈ s.order, p.name ≠ key := by
  rw [free, Finset.mem_filter, ← Bool.not_eq_true, isDone_iff]
  simp

lemma free_subset_of_extends {s t : Resolution} (hvisiting : t.visiting = s.visiting)
    (horder : s.order <+: t.order) : t.free keys ⊆ s.free keys := by
  intro key hkey
  obtain ⟨hkey, hnew, hdone⟩ := mem_free.mp hkey
  exact mem_free.mpr ⟨hkey, hvisiting ▸ hnew, fun p hp => hdone p (horder.subset hp)⟩

/-- Looking at a dependency takes up its name. -/
lemma free_ssubset_of_opened {s t : Resolution} {name : Text} {d : Dependency} {m : Manifest}
    {locked : LockedPackage} (hkey : Segment.sanitize name ∈ keys) (hs : s.Tidy)
    (h : s.enter fetcher lock owner name d = (.opened m locked, t)) :
    t.free keys ⊂ s.free keys := by
  obtain ⟨ht, hvisiting, horder, hnew⟩ := hs.opened h
  refine Finset.ssubset_iff_of_subset ?_ |>.mpr ⟨Segment.sanitize name, ?_, ?_⟩
  · intro key hkey
    obtain ⟨hkey, hnew, hdone⟩ := mem_free.mp hkey
    rw [hvisiting, List.mem_cons, not_or] at hnew
    exact mem_free.mpr ⟨hkey, hnew.2, horder ▸ hdone⟩
  · refine mem_free.mpr ⟨hkey, hnew, fun p hp hname => ?_⟩
    refine ht.disjoint p (horder ▸ hp) ?_
    rw [hvisiting, hname]
    exact List.mem_cons_self
  · intro hmem
    refine (mem_free.mp hmem).2.1 ?_
    rw [hvisiting]
    exact List.mem_cons_self

/-- A package that is resolved is no longer being resolved, and its name stays taken. -/
lemma free_leave_subset {u : Resolution} {key : Text} {m : Manifest} {locked : LockedPackage} :
    (u.leave key m locked).free keys ⊆ u.free keys := by
  intro k hk
  obtain ⟨hk, hnew, hdone⟩ := mem_free.mp hk
  have hne : key ≠ k := hdone ⟨key, m, locked⟩ (by simp [Resolution.leave])
  refine mem_free.mpr ⟨hk, fun hmem => hnew ?_, fun p hp => hdone p (List.mem_append_left _ hp)⟩
  exact (List.mem_erase_of_ne hne.symm).mpr hmem

/-- Where finitely many names are declared, every run comes to an end. -/
lemma exists_resolves (hclosed : Closed fetcher lock worlds manifests)
    (hkeys : ∀ m ∈ manifests, ∀ key, m.Declares key → key ∈ keys)
    {deps : List (Text × Dependency)} {s : Resolution} (howner : owner ∈ manifests)
    (hdeps : deps ⊆ owner.dependencies) (hs : s.world ∈ worlds) (htidy : s.Tidy) :
    ∃ r t, Resolves fetcher lock owner deps s r t := by
  -- The names that are free get fewer with every package; among packages that are resolved already
  -- the list of dependencies gets shorter.
  induction hn : (s.free keys).card using Nat.strong_induction_on generalizing owner deps s with
  | _ n ih =>
    induction deps with
    | nil => exact ⟨_, _, .nil⟩
    | cons e deps ihdeps =>
        obtain ⟨he, hrest⟩ := List.cons_subset.mp hdeps
        obtain ⟨name, d⟩ := e
        generalize henter : s.enter fetcher lock owner name d = entered
        obtain ⟨entered, t⟩ := entered
        cases entered with
        | done =>
            cases enters henter with
            | done =>
                obtain ⟨r, u, hrun⟩ := ihdeps hrest
                exact ⟨r, u, .done henter hrun⟩
        | failed fault => exact ⟨_, _, .failed henter⟩
        | opened m locked =>
            obtain ⟨ht, hm⟩ := opened_mem hclosed howner he hs henter
            obtain ⟨httidy, -⟩ := htidy.opened henter
            have htlt := Finset.card_lt_card
              (free_ssubset_of_opened (hkeys owner howner _ ⟨_, he, rfl⟩) htidy henter)
            obtain ⟨r, u, hinner⟩ := ih _ (hn ▸ htlt) hm (List.Subset.refl _) ht httidy rfl
            cases r with
            | error fault => exact ⟨_, _, .broken henter hinner⟩
            | ok _ =>
                obtain ⟨-, huvisiting, hukept, -⟩ := hinner.tidy httidy rfl
                have hu := hinner.world_mem hclosed hm (List.Subset.refl _) ht rfl
                have hle : ((u.leave (Segment.sanitize name) m locked).free keys).card ≤
                    (t.free keys).card := Finset.card_le_card
                  (free_leave_subset.trans (free_subset_of_extends huvisiting hukept))
                obtain ⟨r, v, hrun⟩ := ih _ (hn ▸ hle.trans_lt htlt) howner hrest
                  (s := u.leave (Segment.sanitize name) m locked) hu
                  (htidy.listed henter hinner).1 rfl
                exact ⟨r, v, .opened henter hinner hrun⟩

end Resolution

/-- There is a result where finitely many names are declared. -/
lemma exists_resolve {fetcher : Option Fetcher} {lock : Option Lockfile} {worlds : Set World}
    {manifests : Set Manifest} {root : Manifest} {w : World}
    (hclosed : Closed fetcher lock worlds manifests) {keys : Finset Text}
    (hkeys : ∀ m ∈ manifests, ∀ key, m.Declares key → key ∈ keys) (hroot : root ∈ manifests)
    (hw : w ∈ worlds) : ∃ r, resolve fetcher lock root w = some r := by
  obtain ⟨r, t, hrun⟩ := Resolution.exists_resolves hclosed hkeys hroot (List.Subset.refl _)
    (s := .initial root w) hw (Resolution.tidy_initial root w)
  exact ⟨_, Resolution.resolve_of_resolves hrun⟩

/-- The names that manifests declare. -/
lemma exists_keys {manifests : Set Manifest} (hfinite : manifests.Finite) :
    ∃ keys : Finset Text, ∀ m ∈ manifests, ∀ key, m.Declares key → key ∈ keys := by
  refine ⟨hfinite.toFinset.biUnion fun m =>
    (m.dependencies.map fun d => Segment.sanitize d.1).toFinset,
    ?_⟩
  rintro m hm key ⟨d, hd, rfl⟩
  simp only [Finset.mem_biUnion, Set.Finite.mem_toFinset, List.mem_toFinset, List.mem_map]
  exact ⟨m, hm, d, hd, rfl⟩

/-! ### Cycles -/

/-- Every dependency of the manifests is found, whatever the world, and by `table` its name tells
what it depends on. -/
structure Consistent (fetcher : Option Fetcher) (lock : Option Lockfile) (worlds : Set World)
    (manifests : Set Manifest) (table : Text → List (Text × Dependency)) : Prop
    extends Closed fetcher lock worlds manifests where
  found : ∀ owner ∈ manifests, ∀ e ∈ owner.dependencies, ∀ v ∈ worlds, ∃ found v' m,
    materialise fetcher lock owner e.1 e.2 v = (.ok found, v') ∧
      Manifest.load v' (Path.join [found.dir, Manifest.fileName]) = .ok m ∧
      m.dependencies = table (Segment.sanitize e.1)

/-- By the table, the package `a` declares `b`. -/
def Asks (table : Text → List (Text × Dependency)) (a b : Text) : Prop :=
  ∃ d ∈ table a, Segment.sanitize d.1 = b

/-- The project needs `key`, directly or through others. -/
def Needs (table : Text → List (Text × Dependency)) (root : Manifest) (key : Text) : Prop :=
  ∃ first, root.Declares first ∧ Relation.ReflTransGen (Asks table) first key

/-- The project needs its own name, or one that needs itself. -/
def Cyclic (table : Text → List (Text × Dependency)) (root : Manifest) : Prop :=
  Needs table root (Segment.sanitize root.name) ∨
    ∃ key, Needs table root key ∧ Relation.TransGen (Asks table) key key

variable {fetcher : Option Fetcher} {lock : Option Lockfile} {worlds : Set World}
  {manifests : Set Manifest} {table : Text → List (Text × Dependency)} {root : Manifest}

lemma Needs.of_declares {key : Text} (h : root.Declares key) : Needs table root key :=
  ⟨key, h, .refl⟩

lemma Needs.asks {a b : Text} (h : Needs table root a) (hab : Asks table a b) :
    Needs table root b := by
  obtain ⟨first, hfirst, hpath⟩ := h
  exact ⟨first, hfirst, hpath.tail hab⟩

/-- What leads from the project to a manifest: every name that is being resolved is the project's or
needs what the manifest declares. -/
structure OnPath (table : Text → List (Text × Dependency)) (root m : Manifest)
    (visiting : List Text) :
    Prop where
  needs : ∀ key, m.Declares key → Needs table root key
  visiting : ∀ key ∈ visiting, key = Segment.sanitize root.name ∨
    (Needs table root key ∧ ∀ next, m.Declares next → Relation.TransGen (Asks table) key next)

lemma onPath_root : OnPath table root root [Segment.sanitize root.name] where
  needs _ h := .of_declares h
  visiting _ h := .inl (List.mem_singleton.mp h)

/-- The path goes on with a dependency. -/
lemma OnPath.cons {owner m : Manifest} {visiting : List Text} (h : OnPath table root owner visiting)
    {key : Text} (hkey : owner.Declares key) (hm : m.dependencies = table key) :
    OnPath table root m (key :: visiting) := by
  have hasks : ∀ next, m.Declares next → Asks table key next := by
    rintro next ⟨d, hd, rfl⟩
    exact ⟨d, hm ▸ hd, rfl⟩
  refine ⟨fun next hnext => (h.needs key hkey).asks (hasks next hnext), fun k hk => ?_⟩
  rcases List.mem_cons.mp hk with rfl | hk
  · exact .inr ⟨h.needs k hkey, fun next hnext => .single (hasks next hnext)⟩
  · exact (h.visiting k hk).imp_right fun ⟨hneeds, hpath⟩ =>
      ⟨hneeds, fun next hnext => (hpath key hkey).tail (hasks next hnext)⟩

/-- A dependency on a name that is being resolved closes a circle. -/
lemma OnPath.cyclic {owner : Manifest} {visiting : List Text}
    (h : OnPath table root owner visiting) {key : Text} (hkey : owner.Declares key)
    (hmem : key ∈ visiting) : Cyclic table root := by
  rcases h.visiting key hmem with rfl | ⟨hneeds, hpath⟩
  · exact .inl (h.needs _ hkey)
  · exact .inr ⟨key, hneeds, hpath key hkey⟩

namespace Resolution

variable {owner : Manifest}

/-- The manifest of a dependency is as the table says. -/
lemma dependencies_of_opened (h : Consistent fetcher lock worlds manifests table)
    (howner : owner ∈ manifests) {s t : Resolution} {e : Text × Dependency} {m : Manifest}
    {locked : LockedPackage} (he : e ∈ owner.dependencies) (hs : s.world ∈ worlds)
    (henter : s.enter fetcher lock owner e.1 e.2 = (.opened m locked, t)) :
    m.dependencies = table (Segment.sanitize e.1) := by
  obtain ⟨found, v, m', hfound, hload, hm⟩ := h.found owner howner e he s.world hs
  cases enters henter with
  | opened _ _ hfound' hload' =>
      rw [hfound] at hfound'
      cases hfound'
      rw [loadManifest_eq_ok_iff, hload] at hload'
      cases hload'
      exact hm

/-- Nothing but a cycle makes looking at a dependency fail. -/
lemma cycle_of_failed (h : Consistent fetcher lock worlds manifests table)
    (howner : owner ∈ manifests) {s t : Resolution} {e : Text × Dependency} {fault : PackageFault}
    (he : e ∈ owner.dependencies) (hs : s.world ∈ worlds)
    (henter : s.enter fetcher lock owner e.1 e.2 = (.failed fault, t)) :
    fault = .cycle e.1 ∧ Segment.sanitize e.1 ∈ s.visiting := by
  obtain ⟨found, v, m, hfound, hload, -⟩ := h.found owner howner e he s.world hs
  cases enters henter with
  | cycle _ hmem => exact ⟨rfl, hmem⟩
  | unlocated _ _ hfound' =>
      rw [hfound] at hfound'
      cases hfound'
  | unloaded _ _ hfound' hload' =>
      rw [hfound] at hfound'
      cases hfound'
      dsimp only [loadManifest] at hload'
      rw [hload] at hload'
      cases hload'

/-- A run that fails has met a cycle. -/
lemma Resolves.cyclic (h : Consistent fetcher lock worlds manifests table)
    {deps : List (Text × Dependency)} {s t : Resolution} {r : Except PackageFault Unit}
    (hrun : Resolves fetcher lock owner deps s r t) (howner : owner ∈ manifests)
    (hdeps : deps ⊆ owner.dependencies) (hs : s.world ∈ worlds) (htidy : s.Tidy)
    (hpath : OnPath table root owner s.visiting) {fault : PackageFault} (hr : r = .error fault) :
    (∃ name, fault = .cycle name) ∧ Cyclic table root := by
  induction hrun with
  | nil => cases hr
  | done henter _ ih =>
      cases enters henter with
      | done => exact ih howner (List.cons_subset.mp hdeps).2 hs htidy hpath hr
  | failed henter =>
      cases hr
      have he := hdeps List.mem_cons_self
      obtain ⟨rfl, hmem⟩ := cycle_of_failed h howner he hs henter
      exact ⟨⟨_, rfl⟩, hpath.cyclic ⟨_, he, rfl⟩ hmem⟩
  | opened henter hinner _ _ ih =>
      obtain ⟨he, hrest⟩ := List.cons_subset.mp hdeps
      obtain ⟨ht, hm⟩ := opened_mem h.toClosed howner he hs henter
      have hu := hinner.world_mem h.toClosed hm (List.Subset.refl _) ht rfl
      obtain ⟨hltidy, hlvisiting⟩ := htidy.listed henter hinner
      exact ih howner hrest hu hltidy (hlvisiting ▸ hpath) hr
  | broken henter _ ihinner =>
      have he := hdeps List.mem_cons_self
      obtain ⟨ht, hm⟩ := opened_mem h.toClosed howner he hs henter
      obtain ⟨httidy, htvisiting, -, -⟩ := htidy.opened henter
      have hm' := dependencies_of_opened h howner he hs henter
      refine ihinner hm (List.Subset.refl _) ht httidy ?_ hr
      rw [htvisiting]
      exact hpath.cons ⟨_, he, rfl⟩ hm'

/-- Packages depend on what the table says. -/
lemma Resolves.dependencies_eq (h : Consistent fetcher lock worlds manifests table)
    {deps : List (Text × Dependency)} {s t : Resolution} {r : Except PackageFault Unit}
    (hrun : Resolves fetcher lock owner deps s r t) (howner : owner ∈ manifests)
    (hdeps : deps ⊆ owner.dependencies) (hs : s.world ∈ worlds)
    (horder : ∀ p ∈ s.order, p.manifest.dependencies = table p.name) (hr : r = .ok ()) :
    ∀ p ∈ t.order, p.manifest.dependencies = table p.name := by
  induction hrun with
  | nil => exact horder
  | done henter _ ih =>
      cases enters henter with
      | done => exact ih howner (List.cons_subset.mp hdeps).2 hs horder hr
  | failed => cases hr
  | @opened _ _ _ _ _ _ _ t _ _ _ henter hinner _ ihinner ih =>
      obtain ⟨he, hrest⟩ := List.cons_subset.mp hdeps
      obtain ⟨ht, hm⟩ := opened_mem h.toClosed howner he hs henter
      have hm' := dependencies_of_opened h howner he hs henter
      have htorder : ∀ p ∈ t.order, p.manifest.dependencies = table p.name := by
        cases enters henter with
        | opened => exact horder
      have hu := hinner.world_mem h.toClosed hm (List.Subset.refl _) ht rfl
      have huorder := ihinner hm (List.Subset.refl _) ht htorder rfl
      refine ih howner hrest hu (fun p hp => ?_) hr
      rcases List.mem_append.mp hp with hp | hp
      · exact huorder p hp
      · obtain rfl := List.mem_singleton.mp hp
        exact hm'
  | broken => cases hr

end Resolution

/-! ### What the packages say about the table -/

section

variable {packages : List ResolvedPackage}

/-- All that a project needs is among its packages. -/
lemma Needs.exists_mem (htable : ∀ p ∈ packages, p.manifest.dependencies = table p.name)
    (hroot : ∀ key, root.Declares key → ∃ p ∈ packages, p.name = key) (horder : InOrder packages)
    {key : Text} (h : Needs table root key) : ∃ p ∈ packages, p.name = key := by
  obtain ⟨first, hfirst, hpath⟩ := h
  induction hpath with
  | refl => exact hroot first hfirst
  | tail _ hasks ih =>
      obtain ⟨p, hp, rfl⟩ := ih
      obtain ⟨d, hd, rfl⟩ := hasks
      exact horder.exists_of_declares hp _ ⟨d, htable p hp ▸ hd, rfl⟩

/-- What a package asks for is a package that it depends on. -/
lemma exists_dependsOn (htable : ∀ p ∈ packages, p.manifest.dependencies = table p.name)
    (horder : InOrder packages) {p : ResolvedPackage} (hp : p ∈ packages) {key : Text}
    (h : Relation.TransGen (Asks table) p.name key) :
    ∃ q ∈ packages, q.name = key ∧ DependsOn packages p q := by
  have hstep : ∀ q ∈ packages, ∀ k, Asks table q.name k →
      ∃ r ∈ packages, r.name = k ∧ q.manifest.Declares r.name := by
    rintro q hq k ⟨d, hd, rfl⟩
    have hdeclares : q.manifest.Declares (Segment.sanitize d.1) := ⟨d, htable q hq ▸ hd, rfl⟩
    obtain ⟨r, hr, hname⟩ := horder.exists_of_declares hq _ hdeclares
    exact ⟨r, hr, hname, hname ▸ hdeclares⟩
  induction h with
  | single hasks =>
      obtain ⟨q, hq, hname, hdeclares⟩ := hstep p hp _ hasks
      exact ⟨q, hq, hname, .single ⟨hq, hdeclares⟩⟩
  | tail _ hasks ih =>
      obtain ⟨q, hq, rfl, hpq⟩ := ih
      obtain ⟨r, hr, hname, hdeclares⟩ := hstep q hq _ hasks
      exact ⟨r, hr, hname, hpq.tail ⟨hr, hdeclares⟩⟩

/-- No package comes after itself. -/
lemma InOrder.not_dependsOn_self (horder : InOrder packages)
    (hnodup : (packages.map ResolvedPackage.name).Nodup) {p : ResolvedPackage} (hp : p ∈ packages) :
    ¬ DependsOn packages p p := by
  intro hpp
  obtain ⟨before, between, after, rfl⟩ := horder.split_of_dependsOn hnodup hp hpp
  have hnodup := hnodup.of_map
  rw [List.append_assoc, List.cons_append] at hnodup
  exact (List.nodup_cons.mp (List.nodup_append.mp hnodup).2.1).1 (by simp)

end

/-- Where resolving works there is no cycle. -/
lemma not_cyclic_of_resolve_eq_ok (h : Consistent fetcher lock worlds manifests table)
    (hroot : root ∈ manifests) {w : World} (hw : w ∈ worlds) {packages : List ResolvedPackage}
    {s : Resolution} (hresolve : resolve fetcher lock root w = some (.ok packages, s)) :
    ¬ Cyclic table root := by
  obtain ⟨hnodup, hname, hdeclared, horder⟩ := resolve_inOrder hresolve
  obtain ⟨hrun, rfl⟩ := Resolution.resolve_eq_ok_iff.mp hresolve
  have htable := hrun.dependencies_eq h hroot (List.Subset.refl _) hw
    (by simp [Resolution.initial]) rfl
  rintro (hneeds | ⟨key, hneeds, hcycle⟩)
  · obtain ⟨p, hp, hp'⟩ := hneeds.exists_mem htable hdeclared horder
    exact hname p hp hp'
  · obtain ⟨p, hp, rfl⟩ := hneeds.exists_mem htable hdeclared horder
    obtain ⟨q, hq, hqp, hdepends⟩ := exists_dependsOn htable horder hp hcycle
    obtain rfl := List.inj_on_of_nodup_map hnodup hq hp hqp
    exact horder.not_dependsOn_self hnodup hq hdepends

/-- Where resolving fails there is a cycle, and it is reported. -/
lemma cyclic_of_resolve_eq_error (h : Consistent fetcher lock worlds manifests table)
    (hroot : root ∈ manifests) {w : World} (hw : w ∈ worlds) {fault : PackageFault}
    {s : Resolution} (hresolve : resolve fetcher lock root w = some (.error fault, s)) :
    (∃ name, fault = .cycle name) ∧ Cyclic table root :=
  (Resolution.resolve_eq_error_iff.mp hresolve).cyclic h hroot (List.Subset.refl _) hw
    (Resolution.tidy_initial root w) onPath_root rfl

/-- Over finitely many manifests resolving comes to an end. If every dependency is found and a name
stands for the same package everywhere, then a cycle is reported if and only if the names that the
project reaches go round in a circle or come back to the project, and otherwise resolving works. -/
theorem resolve_cycle_iff (fetcher : Option Fetcher) (lock : Option Lockfile) (worlds : Set World)
    (manifests : Set Manifest) (root : Manifest) (w : World) (hfinite : manifests.Finite)
    (hclosed : Closed fetcher lock worlds manifests) (hroot : root ∈ manifests) (hw : w ∈ worlds) :
    (∃ r, resolve fetcher lock root w = some r) ∧
      ∀ table, Consistent fetcher lock worlds manifests table →
        ((∃ name s, resolve fetcher lock root w = some (.error (.cycle name), s)) ↔
          Cyclic table root) ∧
        (¬ Cyclic table root →
          ∃ packages s, resolve fetcher lock root w = some (.ok packages, s)) := by
  obtain ⟨keys, hkeys⟩ := exists_keys hfinite
  obtain ⟨⟨r, s⟩, hresolve⟩ := exists_resolve hclosed hkeys hroot hw
  refine ⟨⟨_, hresolve⟩, fun table h => ?_⟩
  cases r with
  | ok packages =>
      have hnot := not_cyclic_of_resolve_eq_ok h hroot hw hresolve
      refine ⟨⟨?_, fun hcyclic => absurd hcyclic hnot⟩, fun _ => ⟨packages, s, hresolve⟩⟩
      rintro ⟨name, t, ht⟩
      rw [hresolve] at ht
      cases ht
  | error fault =>
      obtain ⟨⟨name, rfl⟩, hcyclic⟩ := cyclic_of_resolve_eq_error h hroot hw hresolve
      exact ⟨⟨fun _ => hcyclic, fun _ => ⟨name, s, hresolve⟩⟩, fun hnot => absurd hcyclic hnot⟩

/-! ### Dependencies in directories -/

deriving instance DecidableEq for Manifest

/-- The manifest of a dependency in a directory. -/
def manifestOfPath? (w : World) (owner : Manifest) (e : Text × Dependency) : Option Manifest := do
  let found ← (Resolution.locatePath ⟨w, [], [], []⟩ owner e.1 e.2).toOption
  (Manifest.load w (Path.join [found.dir, Manifest.fileName])).toOption

/-- Dependencies in directories that are all there leave the world as it is. -/
lemma consistent_of_paths {w : World} {ms : List Manifest} {table : Text → List (Text × Dependency)}
    (h : ∀ owner ∈ ms, ∀ e ∈ owner.dependencies, e.2.path.isEmpty = false ∧
      ∃ m ∈ ms, manifestOfPath? w owner e = some m ∧
        m.dependencies = table (Segment.sanitize e.1)) :
    Consistent fetcher lock {w} {m | m ∈ ms} table := by
  have hfound : ∀ owner ∈ ms, ∀ e ∈ owner.dependencies, ∃ found, ∃ m ∈ ms,
      materialise fetcher lock owner e.1 e.2 w = (.ok found, w) ∧
      Manifest.load w (Path.join [found.dir, Manifest.fileName]) = .ok m ∧
      m.dependencies = table (Segment.sanitize e.1) := by
    intro owner howner e he
    obtain ⟨hpath, m, hm, hload, htable⟩ := h owner howner e he
    obtain ⟨found, hfound, hload⟩ := Option.bind_eq_some_iff.mp hload
    refine ⟨found, m, hm, ?_, eq_ok_of_toOption_eq_some hload, htable⟩
    simp [materialise, Resolution.locate, hpath, eq_ok_of_toOption_eq_some hfound]
  refine ⟨⟨?_, ?_⟩, ?_⟩
  · rintro owner howner e he v rfl found v' hv
    obtain ⟨_, _, _, hfound, -⟩ := hfound owner howner e he
    rw [hfound] at hv
    cases hv
    rfl
  · rintro owner howner e he v rfl found v' m hv hload
    obtain ⟨_, m', hm', hfound, hload', -⟩ := hfound owner howner e he
    rw [hfound] at hv
    cases hv
    rw [hload'] at hload
    cases hload
    exact hm'
  · rintro owner howner e he v rfl
    obtain ⟨found, m, -, hfound, hload, htable⟩ := hfound owner howner e he
    exact ⟨found, v, m, hfound, hload, htable⟩

/-- A project that needs a package, which needs another one, which needs the first one. -/
def loop : World :=
  Remotes.world []
    [(["app"], .directory), (["app", "a"], .directory), (["app", "b"], .directory),
      (["app", "package.yml"], .file (Text.bytes "name: app\ndependencies:\n  a: a\n")),
      (["app", "a", "package.yml"], .file (Text.bytes "name: a\ndependencies:\n  b: ../b\n")),
      (["app", "b", "package.yml"], .file (Text.bytes "name: b\ndependencies:\n  a: ../a\n"))]
    "/app"

/-- What the packages of that project depend on. -/
def loopTable (key : Text) : List (Text × Dependency) :=
  if key = "a" then [("b", .ofPath "../b")] else [("a", .ofPath "../a")]

/-- The manifest of that project. -/
def loopProject : Manifest :=
  ⟨"/app/package.yml", "app", "", [], [], .empty, [("a", .ofPath "a")]⟩

/-- The project and its packages. -/
def loopManifests : List Manifest :=
  [loopProject, ⟨"/app/a/package.yml", "a", "", [], [], .empty, loopTable "a"⟩,
    ⟨"/app/b/package.yml", "b", "", [], [], .empty, loopTable "b"⟩]

lemma consistent_loop : Consistent none none {loop} {m | m ∈ loopManifests} loopTable :=
  consistent_of_paths (by decide +kernel)

lemma cyclic_loop : Cyclic loopTable loopProject := by
  have hab : Asks loopTable "a" "b" := by
    unfold Asks
    decide +kernel
  have hba : Asks loopTable "b" "a" := by
    unfold Asks
    decide +kernel
  have hroot : loopProject.Declares "a" := by
    unfold Manifest.Declares
    decide +kernel
  exact .inr ⟨"a", .of_declares hroot, .tail (.single hab) hba⟩

theorem resolve_cycle_iff_loop :
    Consistent none none {loop} {m | m ∈ loopManifests} loopTable ∧ Cyclic loopTable loopProject ∧
      ∃ name s, resolve none none loopProject loop = some (.error (.cycle name), s) := by
  have h := resolve_cycle_iff none none {loop} {m | m ∈ loopManifests} loopProject loop
    (List.finite_toSet loopManifests) consistent_loop.toClosed List.mem_cons_self rfl
  exact ⟨consistent_loop, cyclic_loop, (h.2 loopTable consistent_loop).1.mpr cyclic_loop⟩

end PocketScheme
