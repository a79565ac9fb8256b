import PocketScheme.Proofs.Package.Run
import PocketScheme.Proofs.Except
import PocketScheme.Package.Program
import PocketScheme.Remotes
import Mathlib.Data.List.Nodup
import Mathlib.Logic.Relation

/-!
The order of resolved packages, and of the sources of a program.

* `Manifest.Declares`: a manifest asks for a package by name;
* `InOrder`: every package comes after those that its manifest declares;
* `Resolution.Tidy`, `Resolution.Resolves.tidy`: what a run keeps, and what it adds;
* `resolve_inOrder`: the packages of a project;
* `InOrder.split_of_dependsOn`: a package comes after all that it depends on;
* `sources_inOrder`: the sources of a program.
-/

namespace PocketScheme

/-- The manifest declares a dependency that is known under the name `key`. -/
def Manifest.Declares (m : Manifest) (key : Text) : Prop :=
  ∃ d ∈ m.dependencies, Segment.sanitize d.1 = key

/-- Every package comes after those that its manifest declares. -/
def InOrder (packages : List ResolvedPackage) : Prop :=
  ∀ pre p post, packages = pre ++ p :: post →
    ∀ key, p.manifest.Declares key → ∃ q ∈ pre, q.name = key

lemma InOrder.nil : InOrder [] := by
  intro pre p post h
  simp at h

/-- A package whose dependencies are there can go to the end. -/
lemma InOrder.concat {packages : List ResolvedPackage} (h : InOrder packages) {p : ResolvedPackage}
    (hp : ∀ key, p.manifest.Declares key → ∃ q ∈ packages, q.name = key) :
    InOrder (packages ++ [p]) := by
  intro pre q post heq
  rcases List.eq_nil_or_concat post with rfl | ⟨post, r, rfl⟩
  · obtain ⟨rfl, hlast⟩ := List.append_inj' heq rfl
    obtain rfl := List.singleton_inj.mp hlast
    exact hp
  · rw [List.concat_eq_append, ← List.cons_append, ← List.append_assoc] at heq
    obtain ⟨rfl, -⟩ := List.append_inj' heq rfl
    exact h pre q post rfl

/-- What a package declares is among the packages. -/
lemma InOrder.exists_of_declares {packages : List ResolvedPackage} (h : InOrder packages)
    {p : ResolvedPackage} (hp : p ∈ packages) (key : Text) (hkey : p.manifest.Declares key) :
    ∃ q ∈ packages, q.name = key := by
  obtain ⟨pre, post, rfl⟩ := List.append_of_mem hp
  obtain ⟨q, hq, hname⟩ := h pre p post rfl key hkey
  exact ⟨q, List.mem_append_left _ hq, hname⟩

namespace Resolution

variable {fetcher : Option Fetcher} {lock : Option Lockfile} {owner : Manifest}

lemma isDone_iff {s : Resolution} {key : Text} :
    s.isDone key = true ↔ ∃ p ∈ s.order, p.name = key := by
  simp [isDone]

/-- What holds of the state throughout a run: no package is listed twice, none that is being
resolved is listed, and those that are listed are in order. -/
structure Tidy (s : Resolution) : Prop where
  nodup : (s.order.map ResolvedPackage.name).Nodup
  disjoint : ∀ p ∈ s.order, p.name ∉ s.visiting
  inOrder : InOrder s.order

lemma tidy_initial (root : Manifest) (w : World) : (initial root w).Tidy :=
  ⟨List.nodup_nil, by simp [initial], .nil⟩

/-- Before a package's own dependencies. -/
lemma Tidy.opened {s t : Resolution} {name : Text} {d : Dependency} {m : Manifest}
    {locked : LockedPackage} (hs : s.Tidy)
    (h : s.enter fetcher lock owner name d = (.opened m locked, t)) :
    t.Tidy ∧ t.visiting = Segment.sanitize name :: s.visiting ∧ t.order = s.order ∧
      Segment.sanitize name ∉ s.visiting := by
  cases enters h with
  | opened hdone hnew _ _ =>
      refine ⟨⟨hs.nodup, fun p hp => ?_, hs.inOrder⟩, rfl, rfl, hnew⟩
      rw [List.mem_cons, not_or]
      refine ⟨fun hname => ?_, hs.disjoint p hp⟩
      have hthere : s.isDone (Segment.sanitize name) = true := isDone_iff.mpr ⟨p, hp, hname⟩
      simp [hthere] at hdone

/-- After a package's own dependencies. -/
lemma Tidy.leave {u : Resolution} {key : Text} {visiting : List Text} {m : Manifest}
    (locked : LockedPackage) (hu : u.Tidy) (hvisiting : u.visiting = key :: visiting)
    (hkey : key ∉ visiting) (hm : ∀ k, m.Declares k → ∃ p ∈ u.order, p.name = k) :
    (u.leave key m locked).Tidy ∧ (u.leave key m locked).visiting = visiting := by
  have hrest : (u.leave key m locked).visiting = visiting := by
    rw [Resolution.leave, hvisiting, List.erase_cons_head]
  have hne : ∀ p ∈ u.order, p.name ≠ key ∧ p.name ∉ visiting := by
    intro p hp
    have h := hu.disjoint p hp
    rw [hvisiting, List.mem_cons, not_or] at h
    exact h
  refine ⟨⟨?_, fun p hp => ?_, hu.inOrder.concat hm⟩, hrest⟩
  · rw [Resolution.leave, List.map_append, List.nodup_append]
    refine ⟨hu.nodup, List.pairwise_singleton _ _, ?_⟩
    intro a ha b hb
    obtain ⟨p, hp, rfl⟩ := List.mem_map.mp ha
    obtain rfl := List.mem_singleton.mp hb
    exact (hne p hp).1
  · rw [hrest]
    rcases List.mem_append.mp hp with hp | hp
    · exact (hne p hp).2
    · obtain rfl := List.mem_singleton.mp hp
      exact hkey

/-- A run that works keeps the state tidy, forgets no package, is left with the same packages being
resolved, and all its dependencies are resolved then. -/
lemma Resolves.tidy {deps : List (Text × Dependency)} {s t : Resolution}
    {r : Except PackageFault Unit} (h : Resolves fetcher lock owner deps s r t) (hs : s.Tidy)
    (hr : r = .ok ()) :
    t.Tidy ∧ t.visiting = s.visiting ∧ s.order <+: t.order ∧
      ∀ d ∈ deps, ∃ p ∈ t.order, p.name = Segment.sanitize d.1 := by
  induction h with
  | nil => exact ⟨hs, rfl, List.prefix_refl _, by simp⟩
  | @done _ name _ _ s _ _ _ h _ ih =>
      cases enters h with
      | done hdone =>
          obtain ⟨ht, hvisiting, hkept, hdeps⟩ := ih hs hr
          refine ⟨ht, hvisiting, hkept, fun e he => ?_⟩
          rcases List.mem_cons.mp he with rfl | he
          · obtain ⟨p, hp, hname⟩ := isDone_iff.mp hdone
            exact ⟨p, hkept.subset hp, hname⟩
          · exact hdeps e he
  | failed => cases hr
  | @opened _ m name _ locked _ s t u _ _ h _ _ ihinner ih =>
      obtain ⟨ht, htvisiting, htorder, hkey⟩ := hs.opened h
      obtain ⟨hu, huvisiting, hukept, hudeps⟩ := ihinner ht rfl
      obtain ⟨hleave, hlvisiting⟩ := hu.leave locked (huvisiting.trans htvisiting) hkey
        (by rintro k ⟨e, he, rfl⟩; exact hudeps e he)
      obtain ⟨hv, hvvisiting, hvkept, hvdeps⟩ := ih hleave hr
      have horder : u.order <+: (u.leave (Segment.sanitize name) m locked).order :=
        List.prefix_append _ _
      refine ⟨hv, hvvisiting.trans hlvisiting, ?_, fun e he => ?_⟩
      · rw [← htorder]
        exact (hukept.trans horder).trans hvkept
      · rcases List.mem_cons.mp he with rfl | he
        · exact ⟨⟨Segment.sanitize name, m, locked⟩, hvkept.subset (by simp [Resolution.leave]),
            rfl⟩
        · exact hvdeps e he
  | broken => cases hr

/-- Once its own dependencies are resolved a package can be listed. -/
lemma Tidy.listed {s t u : Resolution} {name : Text} {d : Dependency} {m : Manifest}
    {locked : LockedPackage} (hs : s.Tidy)
    (h : s.enter fetcher lock owner name d = (.opened m locked, t))
    (hinner : Resolves fetcher lock m m.dependencies t (.ok ()) u) :
    (u.leave (Segment.sanitize name) m locked).Tidy ∧
      (u.leave (Segment.sanitize name) m locked).visiting = s.visiting := by
  obtain ⟨ht, htvisiting, -, hkey⟩ := hs.opened h
  obtain ⟨hu, huvisiting, -, hdeps⟩ := hinner.tidy ht rfl
  refine hu.leave locked (huvisiting.trans htvisiting) hkey ?_
  rintro key ⟨e, he, rfl⟩
  exact hdeps e he

end Resolution

/-- The packages of a project: no name is listed twice, the project's own is not, every name that
the project or a listed package declares is, and each package comes after those that it declares. -/
lemma resolve_inOrder {fetcher : Option Fetcher} {lock : Option Lockfile} {root : Manifest}
    {w : World} {packages : List ResolvedPackage} {s : Resolution}
    (h : resolve fetcher lock root w = some (.ok packages, s)) :
    (packages.map ResolvedPackage.name).Nodup ∧
      (∀ p ∈ packages, p.name ≠ Segment.sanitize root.name) ∧
      (∀ key, root.Declares key → ∃ p ∈ packages, p.name = key) ∧ InOrder packages := by
  obtain ⟨hrun, rfl⟩ := Resolution.resolve_eq_ok_iff.mp h
  obtain ⟨hs, hvisiting, -, hdeps⟩ := hrun.tidy (Resolution.tidy_initial root w) rfl
  refine ⟨hs.nodup, fun p hp hname => ?_, ?_, hs.inOrder⟩
  · refine hs.disjoint p hp ?_
    rw [hvisiting, hname]
    exact List.mem_singleton_self _
  · rintro key ⟨d, hd, rfl⟩
    exact hdeps d hd

/-! ### Programs -/

/-- Among `packages`, `p` depends on `q`, directly or through others. -/
def DependsOn (packages : List ResolvedPackage) : ResolvedPackage → ResolvedPackage → Prop :=
  Relation.TransGen fun p q => q ∈ packages ∧ p.manifest.Declares q.name

/-- A package is before those that declare it. -/
lemma InOrder.mem_of_declares {pre post : List ResolvedPackage} {p q : ResolvedPackage}
    (h : InOrder (pre ++ p :: post))
    (hnodup : ((pre ++ p :: post).map ResolvedPackage.name).Nodup) (hq : q ∈ pre ++ p :: post)
    (hpq : p.manifest.Declares q.name) : q ∈ pre := by
  obtain ⟨r, hr, hname⟩ := h pre p post rfl q.name hpq
  have hrq : r = q := List.inj_on_of_nodup_map hnodup (List.mem_append_left _ hr) hq hname
  exact hrq ▸ hr

/-- A package comes after all that it depends on. -/
lemma InOrder.split_of_dependsOn {packages : List ResolvedPackage} (h : InOrder packages)
    (hnodup : (packages.map ResolvedPackage.name).Nodup) {p q : ResolvedPackage} (hp : p ∈ packages)
    (hpq : DependsOn packages p q) :
    ∃ before between after, packages = before ++ q :: between ++ p :: after := by
  induction hpq with
  | single hstep =>
      obtain ⟨pre, post, rfl⟩ := List.append_of_mem hp
      obtain ⟨before, between, rfl⟩ := List.append_of_mem (h.mem_of_declares hnodup hstep.1 hstep.2)
      exact ⟨before, between, post, rfl⟩
  | @tail r _ _ hstep ih =>
      obtain ⟨pre, between, after, rfl⟩ := ih
      rw [List.append_assoc, List.cons_append] at h hnodup hstep ⊢
      obtain ⟨before, middle, rfl⟩ :=
        List.append_of_mem (h.mem_of_declares hnodup hstep.1 hstep.2)
      exact ⟨before, middle ++ r :: between, after, by simp⟩

namespace Program

variable {w : World}

lemma path_of_readSource_eq_ok {package path : Text} {source : Source}
    (h : readSource w package path = .ok source) : source.path = path := by
  rw [readSource] at h
  split at h
  · cases h
  · split at h
    · cases h
      rfl
    · cases h

/-- Files are read in order. -/
lemma paths_of_readSources_eq_ok {package : Text} {paths : List Text} {sources : List Source}
    (h : readSources w package paths = .ok sources) : sources.map Source.path = paths := by
  have hread := forall₂_of_mapM_eq_ok h
  clear h
  induction hread with
  | nil => rfl
  | cons hsource _ ih => rw [List.map_cons, path_of_readSource_eq_ok hsource, ih]

/-- The sources of packages are their preludes, one after the other. -/
lemma exists_of_packageSources_eq_ok {packages : List ResolvedPackage} {sources : List Source}
    (h : packageSources w packages = .ok sources) :
    ∃ prelude : ResolvedPackage → List Source,
      (∀ p ∈ packages, preludeSources w p.manifest = .ok (prelude p)) ∧
        sources = packages.flatMap prelude := by
  rw [packageSources, map_eq_pure_bind] at h
  obtain ⟨preludes, hpreludes, hflat⟩ := exists_of_bind_eq_ok h
  obtain rfl := Except.ok.inj hflat
  have hread := forall₂_of_mapM_eq_ok hpreludes
  clear h hpreludes hflat
  refine ⟨fun p => (preludeSources w p.manifest).toOption.getD [], ?_⟩
  induction hread with
  | nil => simp
  | cons hp _ ih =>
      obtain ⟨hmem, hflat⟩ := ih
      refine ⟨List.forall_mem_cons.mpr ⟨by dsimp only; rw [hp]; rfl, hmem⟩, ?_⟩
      rw [List.flatten_cons, List.flatMap_cons, hp, hflat]
      rfl

/-- A program comes from resolved packages: their preludes, the project's own and the target's
file. -/
lemma exists_of_ofTarget_eq_ok {fetcher : Option Fetcher} {path target : Text} {program : Program}
    (h : (ofTarget fetcher w path target).result = .ok program) :
    ∃ m t lock packages s, prepare w path target = .ok (m, t, lock) ∧
      resolve fetcher lock m w = some (.ok packages, s) ∧
      assemble s.world m t packages = .ok program := by
  rw [ofTarget] at h
  split at h
  · cases h
  · rename_i m t lock hprepare
    split at h
    · cases h
    · cases h
    · rename_i packages s hresolve
      exact ⟨m, t, lock, packages, s, hprepare, hresolve, h⟩

lemma exists_of_assemble_eq_ok {m : Manifest} {t : Target} {packages : List ResolvedPackage}
    {program : Program} (h : assemble w m t packages = .ok program) :
    ∃ prelude own main, (∀ p ∈ packages, preludeSources w p.manifest = .ok (prelude p)) ∧
      preludeSources w m = .ok own ∧
      readSource w m.name (Path.join [m.dir, t.main]) = .ok main ∧
      program = ⟨m.name, packages.flatMap prelude ++ own ++ [main],
        packages.map ResolvedPackage.locked⟩ := by
  rw [assemble] at h
  obtain ⟨sources, hsources, h⟩ := exists_of_bind_eq_ok h
  obtain ⟨own, hown, h⟩ := exists_of_bind_eq_ok h
  obtain ⟨main, hmain, h⟩ := exists_of_bind_eq_ok h
  obtain ⟨prelude, hprelude, rfl⟩ := exists_of_packageSources_eq_ok hsources
  exact ⟨prelude, own, main, hprelude, hown, hmain, (Except.ok.inj h).symm⟩

end Program

/-- Dependencies come first. Of the packages that a project is resolved to, no name is listed twice
and the project's own is not listed, every name that the project or a listed package declares is
listed, and each package comes after those that it declares. So a program consists of the preludes
of the packages, each one after those of all packages that its own depends on, then of the project's
prelude in the order in which it is declared, and ends with the target's file. -/
theorem resolved_dependencies_first (fetcher : Option Fetcher) (w : World) :
    (∀ lock root packages s, resolve fetcher lock root w = some (.ok packages, s) →
      (packages.map ResolvedPackage.name).Nodup ∧
        (∀ p ∈ packages, p.name ≠ Segment.sanitize root.name) ∧
        (∀ key, root.Declares key → ∃ p ∈ packages, p.name = key) ∧
        (∀ p ∈ packages, ∀ key, p.manifest.Declares key → ∃ q ∈ packages, q.name = key) ∧
        InOrder packages) ∧
    (∀ path target program, (Program.ofTarget fetcher w path target).result = .ok program →
      ∃ m t lock packages s prelude own main, Program.prepare w path target = .ok (m, t, lock) ∧
        resolve fetcher lock m w = some (.ok packages, s) ∧
        (∀ p ∈ packages, Program.preludeSources s.world p.manifest = .ok (prelude p)) ∧
        program.sources = packages.flatMap prelude ++ own ++ [main] ∧
        (∀ p ∈ packages, ∀ q, DependsOn packages p q → ∃ before between after,
          program.sources = before ++ prelude q ++ between ++ prelude p ++ after) ∧
        own.map Source.path = (m.prelude.map fun p => Path.join [m.dir, p]) ∧
        main.path = Path.join [m.dir, t.main]) := by
  refine ⟨fun lock root packages s h => ?_, fun path target program h => ?_⟩
  · obtain ⟨hnodup, hroot, hdeclared, horder⟩ := resolve_inOrder h
    exact ⟨hnodup, hroot, hdeclared, fun p hp => horder.exists_of_declares hp, horder⟩
  · obtain ⟨m, t, lock, packages, s, hprepare, hresolve, hassemble⟩ :=
      Program.exists_of_ofTarget_eq_ok h
    obtain ⟨prelude, own, main, hprelude, hown, hmain, rfl⟩ :=
      Program.exists_of_assemble_eq_ok hassemble
    obtain ⟨hnodup, -, -, horder⟩ := resolve_inOrder hresolve
    refine ⟨m, t, lock, packages, s, prelude, own, main, hprepare, hresolve, hprelude, rfl, ?_,
      Program.paths_of_readSources_eq_ok hown, Program.path_of_readSource_eq_ok hmain⟩
    intro p hp q hpq
    obtain ⟨before, between, after, rfl⟩ := horder.split_of_dependsOn hnodup hp hpq
    exact ⟨before.flatMap prelude, between.flatMap prelude, after.flatMap prelude ++ own ++ [main],
      by simp⟩

/-- A project that needs a package, which needs another one. -/
def chain : World :=
  Remotes.world []
    [(["app"], .directory), (["app", "a"], .directory), (["app", "b-c"], .directory),
      (["app", "package.yml"], .file (Text.bytes
        "name: app\nprelude: [o]\ntargets:\n  m: m\ndependencies:\n  a: a\n")),
      (["app", "a", "package.yml"], .file (Text.bytes
        "name: a\nprelude: [x, y]\ndependencies:\n  b-c: ../b-c\n")),
      (["app", "b-c", "package.yml"], .file (Text.bytes "name: b\nprelude: [z]\n")),
      (["app", "b-c", "z"], .file (Text.bytes "1")), (["app", "a", "x"], .file (Text.bytes "2")),
      (["app", "a", "y"], .file (Text.bytes "3")), (["app", "o"], .file (Text.bytes "4")),
      (["app", "m"], .file (Text.bytes "5"))]
    "/app"

/-- The files of that project's program. -/
def chainPaths : List Text :=
  ["/app/b-c/z", "/app/a/x", "/app/a/y", "/app/o", "/app/m"]

lemma exists_chain_program :
    ∃ program, (Program.ofTarget none chain "package.yml" "").result = .ok program ∧
      program.sources.map Source.path = chainPaths := by
  have hrun : ((Program.ofTargetWithin 4 none chain "package.yml" "").bind fun l =>
      l.result.toOption.map fun program => program.sources.map Source.path) = some chainPaths := by
    decide +kernel
  obtain ⟨l, hl, hrun⟩ := Option.bind_eq_some_iff.mp hrun
  obtain ⟨program, hprogram, hpaths⟩ := Option.map_eq_some_iff.mp hrun
  refine ⟨program, ?_, hpaths⟩
  rw [Program.ofTarget_eq_of_ofTargetWithin hl]
  exact eq_ok_of_toOption_eq_some hprogram

theorem resolved_dependencies_first_chain :
    ∃ program m lock packages s,
      (Program.ofTarget none chain "package.yml" "").result = .ok program ∧
      program.sources.map Source.path = chainPaths ∧
      resolve none lock m chain = some (.ok packages, s) ∧
      (packages.map ResolvedPackage.name).Nodup ∧ InOrder packages := by
  obtain ⟨program, hprogram, hpaths⟩ := exists_chain_program
  obtain ⟨m, _, lock, packages, s, _, _, _, -, hresolve, -⟩ :=
    (resolved_dependencies_first none chain).2 "package.yml" "" program hprogram
  obtain ⟨hnodup, -, -, -, horder⟩ :=
    (resolved_dependencies_first none chain).1 lock m packages s hresolve
  exact ⟨program, m, lock, packages, s, hprogram, hpaths, hresolve, hnodup, horder⟩

end PocketScheme
