import PocketScheme.Proofs.Package.Order
import PocketScheme.Proofs.Package.Repeating

/-!
Repeating a run of the resolver with the lockfile that has come of it.

* `Resolution.Resolves.regular`: what a run that works leaves behind;
* `Lockfile.Records`: lockfiles that have a package as it was resolved;
* `Resolution.Resolves.repeated`: a run without a lockfile is repeated with the lockfile that has
  come of it, whichever version control there is by then.
-/

namespace PocketScheme

open PocketScheme.FileSystem (Linkless Stored)
open PocketScheme.Cache (Around Contents Intact Nameable Regular place)

/-! ### What a run leaves behind -/

namespace Resolution

variable {content : Contents} {cache : Text} {owner m : Manifest} {name : Text} {d : Dependency}
  {deps : List (Text × Dependency)} {locked : LockedPackage} {s t u v : Resolution}
  {r : Except PackageFault Unit}

/-- A package that is fetched and not in the way of the cache has a directory of its own. -/
lemma nameable_of_opened
    (h : s.enter (Fetcher.cached cache) none owner name d = (.opened m locked, t))
    (hclear : locked.normalize.Clear cache) (hd : d.path.isEmpty = true) : Nameable name := by
  obtain ⟨-, -, -, -, found, hmat, -, rfl⟩ := of_enter_eq_opened h
  obtain ⟨version, hversion⟩ := withVersion_eq found.package m
  rw [hversion] at hclear
  obtain ⟨hhere, hup⟩ := hclear.nameable
    (LockedPackage.isFetched_normalize (materialise_isFetched hd hmat))
  dsimp only [LockedPackage.normalize] at hhere hup
  rw [materialise_name hmat, Segment.sanitize_sanitize] at hhere hup
  exact .of_isName (Segment.isName_of_sanitize_ne hhere hup)

lemma regular_of_opened
    (h : s.enter (Fetcher.cached cache) none owner name d = (.opened m locked, t))
    (hs : Regular content cache s.world) (hclear : locked.normalize.Clear cache) :
    Regular content cache t.world ∧ t.world = s.world.withFiles t.world.files ∧
      Stored (fun q _ => Around (place cache) q) s.world.files t.world.files := by
  obtain ⟨-, -, -, -, found, hmat, -, -⟩ := of_enter_eq_opened h
  exact hs.materialise (nameable_of_opened h hclear) hmat

/-- What is known of the states of a run that works, before and after a package's own
dependencies. -/
lemma Tidy.of_opened (htidy : s.Tidy) {fetcher : Option Fetcher} {lock : Option Lockfile}
    (h : s.enter fetcher lock owner name d = (.opened m locked, t))
    (hinner : Resolves fetcher lock m m.dependencies t (.ok ()) u)
    (hrest : Resolves fetcher lock owner deps (u.leave (Segment.sanitize name) m locked)
      (.ok ()) v) :
    t.Tidy ∧ (u.leave (Segment.sanitize name) m locked).Tidy ∧ u.order ⊆ v.order ∧
      (⟨Segment.sanitize name, m, locked⟩ : ResolvedPackage) ∈ v.order := by
  obtain ⟨hleave, -⟩ := htidy.listed h hinner
  obtain ⟨-, -, hvkept, -⟩ := hrest.tidy hleave rfl
  exact ⟨(htidy.opened h).1, hleave, fun p hp => hvkept.subset (List.mem_append_left _ hp),
    hvkept.subset (List.mem_append_right _ (List.mem_singleton_self _))⟩

/-- A run that works leaves a regular world behind, and puts nothing anywhere but around the
checkouts. -/
lemma Resolves.regular (h : Resolves (Fetcher.cached cache) none owner deps s r t)
    (hr : r = .ok ()) (htidy : s.Tidy) (hs : Regular content cache s.world)
    (hclear : ∀ p ∈ t.order, p.locked.normalize.Clear cache) :
    Regular content cache t.world ∧ t.world = s.world.withFiles t.world.files ∧
      Stored (fun q _ => Around (place cache) q) s.world.files t.world.files := by
  induction h with
  | nil => exact ⟨hs, rfl, .refl⟩
  | done h _ ih =>
      cases enters h with
      | done => exact ih hr htidy hs hclear
  | failed => cases hr
  | broken => cases hr
  | @opened _ m name _ locked _ s t u v _ h hinner hrest ihinner ih =>
      subst hr
      obtain ⟨ht, hleave, hsub, hmem⟩ := htidy.of_opened h hinner hrest
      obtain ⟨hts, hworldt, hstoredt⟩ := regular_of_opened h hs (hclear _ hmem)
      obtain ⟨hus, hworldu, hstoredu⟩ := ihinner rfl ht hts fun p hp => hclear p (hsub hp)
      obtain ⟨hvs, hworldv, hstoredv⟩ := ih rfl hleave hus hclear
      refine ⟨hvs, ?_, (hstoredt.trans hstoredu).trans hstoredv⟩
      rw [hworldt] at hworldu
      rw [Resolution.leave, hworldu] at hworldv
      exact hworldv

end Resolution

/-! ### Repeating a run -/

/-- The lockfile has the package as it was resolved, and the package does not get in the way of the
cache. -/
structure Lockfile.Records (lock : Lockfile) (cache : Text) (p : ResolvedPackage) : Prop where
  clear : p.locked.normalize.Clear cache
  find? : ∀ name, Segment.sanitize name = p.name → lock.find? name = some p.locked.normalize

/-- Packages that are resolved alike. -/
structure ResolvedPackage.Repeats (p p' : ResolvedPackage) : Prop where
  name : p'.name = p.name
  locked : p.locked.Repeats p'.locked

lemma exists_name_iff {order order' : List ResolvedPackage}
    (h : List.Forall₂ ResolvedPackage.Repeats order order') (key : Text) :
    (∃ p ∈ order', p.name = key) ↔ ∃ p ∈ order, p.name = key := by
  induction h with
  | nil => rfl
  | cons hp _ ih => simp [hp.name, ih]

namespace Resolution

lemma isDone_eq_of_repeats {s s' : Resolution}
    (h : List.Forall₂ ResolvedPackage.Repeats s.order s'.order) (key : Text) :
    s'.isDone key = s.isDone key := by
  rw [Bool.eq_iff_iff, isDone_iff, isDone_iff]
  exact exists_name_iff h key

variable {content : Contents} {cache : Text} {owner owner' : Manifest} {lock : Lockfile}
  {deps : List (Text × Dependency)} {s t : Resolution} {r : Except PackageFault Unit} {w : World}
  {changed : Place} {gs : FileSystem} {order' : List ResolvedPackage}

/-- A run without a lockfile is repeated with a lockfile that has all packages of the run. Files and
packages at the end do not depend on the version control, as long as it has the commits that the
lockfile pins. -/
lemma Resolves.repeated (h : Resolves (Fetcher.cached cache) none owner deps s r t)
    (hr : r = .ok ()) (htidy : s.Tidy) (hs : Regular content cache s.world)
    (hresumes : Resumes content cache changed t.world w)
    (hrecords : ∀ p ∈ t.order, lock.Records cache p)
    (howner : owner.Moved (place cache) gs owner')
    (hstored : Stored (fun q _ => place cache <+: q) w.files gs) (hlinkless : Linkless gs)
    (hintact : Intact content (place cache) gs)
    (horder : List.Forall₂ ResolvedPackage.Repeats s.order order') :
    ∃ files order, Stored (fun q _ => place cache <+: q) gs files ∧ Linkless files ∧
      Intact content (place cache) files ∧
      List.Forall₂ ResolvedPackage.Repeats t.order order ∧
      ∀ git, git.Honest content → lock.ServedIn cache (w.withGit git) → ∀ rs, ∃ rs',
        Resolves (Fetcher.cached cache) (some lock) owner' deps
          ⟨(w.withFiles gs).withGit git, s.visiting, order', rs⟩ (.ok ())
          ⟨(w.withFiles files).withGit git, t.visiting, order, rs'⟩ := by
  induction h generalizing owner' gs order' with
  | nil => exact ⟨gs, order', .refl, hlinkless, hintact, horder, fun _ _ _ rs => ⟨rs, .nil⟩⟩
  | failed => cases hr
  | broken => cases hr
  | @done _ name _ _ s _ _ _ h _ ih =>
      cases enters h with
      | done hdone =>
          obtain ⟨files, order, hfiles, hlinkless', hintact', hrepeats, hruns⟩ :=
            ih hr htidy hs hresumes hrecords howner hstored hlinkless hintact horder
          refine ⟨files, order, hfiles, hlinkless', hintact', hrepeats,
            fun git hgit hserved rs => ?_⟩
          obtain ⟨rs', hrun⟩ := hruns git hgit hserved rs
          refine ⟨rs', .done ?_ hrun⟩
          rw [enter]
          exact if_pos (by rw [isDone_eq_of_repeats horder]; exact hdone)
  | @opened owner m name d locked _ s t u v _ h hinner hrest ihinner ih =>
      subst hr
      obtain ⟨ht, hleave, hsub, hmem⟩ := htidy.of_opened h hinner hrest
      obtain ⟨hdone, hnew, htvisiting, htorder, found, hmat, hload, rfl⟩ := of_enter_eq_opened h
      have hrecord := hrecords _ hmem
      -- what the first run did from here on
      obtain ⟨hts, -, -⟩ := regular_of_opened h hs hrecord.clear
      obtain ⟨hus, hworldu, hstoredu⟩ := hinner.regular rfl ht hts fun p hp =>
        (hrecords p (hsub hp)).clear
      obtain ⟨-, hworldv, hstoredv⟩ := hrest.regular rfl hleave hus fun p hp =>
        (hrecords p hp).clear
      have hresumesu : Resumes content cache changed u.world w :=
        hresumes.of_stored hworldv hstoredv
      -- the package itself
      have hat : Located content cache changed w t.world gs :=
        ⟨hts, hresumesu.of_stored hworldu hstoredu, hstored, hlinkless, hintact⟩
      obtain ⟨gs₁, found', m', hagain⟩ := hat.relocated hs (nameable_of_opened h hrecord.clear)
        hmat hload howner hrecord.clear (hrecord.find? name rfl)
      have hdeps : m'.dependencies = m.dependencies := by rw [hagain.moved.eq]
      -- its own dependencies
      obtain ⟨gs₂, order₂, hstored₂, hlinkless₂, hintact₂, hrepeats₂, hruns₂⟩ :=
        ihinner rfl ht hts hresumesu (fun p hp => hrecords p (hsub hp)) hagain.moved
          (hstored.trans hagain.stored) hagain.linkless hagain.intact (htorder ▸ horder)
      -- the others
      have hrepeats : List.Forall₂ ResolvedPackage.Repeats
          (u.leave (Segment.sanitize name) m (withVersion found.package m)).order
          (order₂ ++ [⟨Segment.sanitize name, m', withVersion found'.package m'⟩]) :=
        List.rel_append hrepeats₂ (.cons ⟨rfl, hagain.repeats⟩ .nil)
      obtain ⟨files, order, hfiles, hlinkless₃, hintact₃, hrepeats₃, hruns₃⟩ :=
        ih rfl hleave hus hresumes hrecords
          (howner.mono (hagain.stored.trans hstored₂).grown)
          ((hstored.trans hagain.stored).trans hstored₂) hlinkless₂ hintact₂ hrepeats
      refine ⟨files, order, (hagain.stored.trans hstored₂).trans hfiles, hlinkless₃, hintact₃,
        hrepeats₃, fun git hgit hserved rs => ?_⟩
      obtain ⟨rs₁, henter⟩ := exists_enter_eq_opened
        (s := ⟨(w.withFiles gs).withGit git, s.visiting, order', rs⟩)
        (by rw [isDone_eq_of_repeats horder]; exact hdone) hnew (hagain.located git hgit hserved)
        hagain.loaded
      obtain ⟨rs₂, hrun₂⟩ := hruns₂ git hgit hserved rs₁
      obtain ⟨rs₃, hrun₃⟩ := hruns₃ git hgit hserved rs₂
      rw [htvisiting, ← hdeps] at hrun₂
      exact ⟨rs₃, .opened henter hrun₂ hrun₃⟩

end Resolution

end PocketScheme
