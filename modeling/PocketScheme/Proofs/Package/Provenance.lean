import PocketScheme.Proofs.Manifest.Validity
import PocketScheme.Proofs.Package.Cycles

/-!
Where resolved packages come from. Names count once they are sanitized, so of several dependencies
whose names are spellings of one, a manifest gets the first one only.

* `Leads`: worlds that locating dependencies leads to;
* `Materialised`: a package that one dependency of a manifest was resolved to;
* `Origin`: a package that the first dependency of its name was resolved to;
* `Resolution.Resolves.origin`: every package has an origin;
* `declared_entries_contribute`: what the dependencies of a project contribute;
* `declared_entry_dropped`: a project with a dependency that contributes nothing.
-/

namespace PocketScheme

/-! ### Origins -/

/-- Locating dependencies leads from one world to another. -/
def Leads (fetcher : Option Fetcher) (lock : Option Lockfile) : World → World → Prop :=
  Relation.ReflTransGen fun w w' => ∃ owner name d, w' = (materialise fetcher lock owner name d w).2

/-- On the way from one world to another, a package was located as a dependency of a manifest, and
loaded from there. -/
structure Materialised (fetcher : Option Fetcher) (lock : Option Lockfile) (w w' : World)
    (owner : Manifest) (e : Text × Dependency) (p : ResolvedPackage) : Prop where
  name : Segment.sanitize e.1 = p.name
  source : ∃ found w₁ w₂, Leads fetcher lock w w₁ ∧
    materialise fetcher lock owner e.1 e.2 w₁ = (.ok found, w₂) ∧ Leads fetcher lock w₂ w' ∧
    Manifest.load w₂ (Path.join [found.dir, Manifest.fileName]) = .ok p.manifest ∧
    p.locked = Resolution.withVersion found.package p.manifest

/-- Of some dependencies of a manifest, the first one of its name is what a package was located
as. -/
def Origin (fetcher : Option Fetcher) (lock : Option Lockfile) (w w' : World) (owner : Manifest)
    (deps : List (Text × Dependency)) (p : ResolvedPackage) : Prop :=
  ∃ e, deps.find? (fun e => Segment.sanitize e.1 == p.name) = some e ∧
    Materialised fetcher lock w w' owner e p

section

variable {fetcher : Option Fetcher} {lock : Option Lockfile} {w w' w₀ w₁ : World} {owner : Manifest}
  {deps : List (Text × Dependency)} {e : Text × Dependency} {p : ResolvedPackage}

lemma Origin.widen (h : Origin fetcher lock w w' owner deps p) (hfront : Leads fetcher lock w₀ w)
    (hback : Leads fetcher lock w' w₁) : Origin fetcher lock w₀ w₁ owner deps p := by
  obtain ⟨e, hfirst, hname, found, v, v', hv, hfound, hv', hload, hlocked⟩ := h
  exact ⟨e, hfirst, hname, found, v, v', hfront.trans hv, hfound, hv'.trans hback, hload, hlocked⟩

lemma Origin.cons (h : Origin fetcher lock w w' owner deps p)
    (hne : Segment.sanitize e.1 ≠ p.name) :
    Origin fetcher lock w w' owner (e :: deps) p := by
  obtain ⟨e', hfirst, hmaterialised⟩ := h
  refine ⟨e', ?_, hmaterialised⟩
  rw [List.find?_cons_of_neg (by simpa using hne), hfirst]

lemma Materialised.origin (h : Materialised fetcher lock w w' owner e p) :
    Origin fetcher lock w w' owner (e :: deps) p :=
  ⟨e, List.find?_cons_of_pos (by simpa using h.name), h⟩

end

namespace Resolution

variable {fetcher : Option Fetcher} {lock : Option Lockfile} {owner : Manifest} {name : Text}
  {d : Dependency} {s t : Resolution}

/-- Looking at a dependency leads to another world. -/
lemma Enters.leads {e : Entered} (h : Enters fetcher lock owner name d s e t) :
    Leads fetcher lock s.world t.world := by
  have hstep : ∀ {r w}, materialise fetcher lock owner name d s.world = (r, w) →
      Leads fetcher lock s.world w := by
    intro r w hr
    exact .single ⟨owner, name, d, by rw [hr]⟩
  cases h with
  | done _ => exact .refl
  | cycle _ _ => exact .refl
  | unlocated _ _ h => exact hstep h
  | unloaded _ _ h _ => exact hstep h
  | opened _ _ h _ => exact hstep h

/-- So does a run. -/
lemma Resolves.leads {deps : List (Text × Dependency)} {r : Except PackageFault Unit}
    (h : Resolves fetcher lock owner deps s r t) : Leads fetcher lock s.world t.world := by
  induction h with
  | nil => exact .refl
  | done h _ ih => exact (enters h).leads.trans ih
  | failed h => exact (enters h).leads
  | opened h _ _ ihinner ih => exact ((enters h).leads.trans ihinner).trans ih
  | broken h _ ihinner => exact (enters h).leads.trans ihinner

/-- A dependency that is looked at is what its package is located as. -/
lemma materialised_of_opened {m : Manifest} {locked : LockedPackage} {w : World}
    (h : s.enter fetcher lock owner name d = (.opened m locked, t))
    (hw : Leads fetcher lock t.world w) :
    Materialised fetcher lock s.world w owner (name, d) ⟨Segment.sanitize name, m, locked⟩ := by
  cases enters h with
  | @opened _ found w' _ _ _ hfound hload =>
      have hm := loadManifest_eq_ok_iff.mp hload
      exact ⟨rfl, found, s.world, w', .refl, hfound, hw, hm, rfl⟩

/-- Every package that a run adds is one of the dependencies that it goes through, or one of a
package that is resolved by the end. -/
lemma Resolves.origin {deps : List (Text × Dependency)} {r : Except PackageFault Unit}
    (h : Resolves fetcher lock owner deps s r t) (hs : s.Tidy) (hr : r = .ok ()) :
    ∀ p ∈ t.order, p ∈ s.order ∨ Origin fetcher lock s.world t.world owner deps p ∨
      ∃ q ∈ t.order, Origin fetcher lock s.world t.world q.manifest q.manifest.dependencies p := by
  induction h with
  | nil => exact fun p hp => .inl hp
  | @done owner name d deps s _ v _ h hrest ih =>
      intro p hp
      cases enters h with
      | done hdone =>
          obtain ⟨hv, -, hkept, -⟩ := hrest.tidy hs hr
          obtain ⟨q, hq, hname⟩ := isDone_iff.mp hdone
          by_cases hnew : p ∈ s.order
          · exact .inl hnew
          -- a name that was there is not added, so the rest of the run does not add this one
          · have hne : Segment.sanitize name ≠ p.name := by
              intro heq
              rw [List.inj_on_of_nodup_map hv.nodup hp (hkept.subset hq)
                (heq.symm.trans hname.symm)] at hnew
              exact hnew hq
            rcases ih hs hr p hp with hold | hfirst | hinner
            · exact .inl hold
            · exact .inr (.inl (hfirst.cons hne))
            · exact .inr (.inr hinner)
  | failed => cases hr
  | @opened owner m name d locked deps s t u v _ h hinner hrest ihinner ih =>
      intro p hp
      obtain ⟨ht, -, htorder, -⟩ := hs.opened h
      obtain ⟨hleave, -⟩ := hs.listed h hinner
      obtain ⟨hv, -, hkept, -⟩ := hrest.tidy hleave hr
      have hmem : (⟨Segment.sanitize name, m, locked⟩ : ResolvedPackage) ∈
          (u.leave (Segment.sanitize name) m locked).order :=
        List.mem_append_right _ List.mem_cons_self
      have hfront : Leads fetcher lock s.world t.world := (enters h).leads
      have hback : Leads fetcher lock u.world v.world := hrest.leads
      by_cases hearly : p ∈ (u.leave (Segment.sanitize name) m locked).order
      · rcases List.mem_append.mp hearly with hp' | hp'
        · rcases ihinner ht rfl p hp' with hold | hfirst | ⟨q, hq, hfirst⟩
          · exact .inl (htorder ▸ hold)
          · exact .inr (.inr ⟨_, hkept.subset hmem, hfirst.widen hfront hback⟩)
          · exact .inr (.inr
              ⟨q, hkept.subset (List.mem_append_left _ hq), hfirst.widen hfront hback⟩)
        · obtain rfl := List.mem_singleton.mp hp'
          exact .inr (.inl (materialised_of_opened h (hinner.leads.trans hback)).origin)
      · have hne : Segment.sanitize name ≠ p.name := by
          intro heq
          rw [List.inj_on_of_nodup_map hv.nodup hp (hkept.subset hmem) heq.symm] at hearly
          exact hearly hmem
        have hfront' := hfront.trans hinner.leads
        rcases ih hleave hr p hp with hold | hfirst | ⟨q, hq, hfirst⟩
        · exact absurd hold hearly
        · exact .inr (.inl ((hfirst.widen hfront' .refl).cons hne))
        · exact .inr (.inr ⟨q, hq, hfirst.widen hfront' .refl⟩)
  | broken => cases hr

end Resolution

/-- **What dependencies contribute**. Each dependency of a resolved project has exactly one package,
and two of them share it if and only if their names are spellings of one. A package is what the
first dependency of its name was located as, be it one of the project or of another package. So if
no two names of the project are spellings of one, each of its dependencies is located itself, unless
its package was resolved for another one. -/
theorem declared_entries_contribute (fetcher : Option Fetcher) (lock : Option Lockfile)
    (root : Manifest) (w : World) (packages : List ResolvedPackage) (s : Resolution)
    (h : resolve fetcher lock root w = some (.ok packages, s)) :
    (∀ e ∈ root.dependencies, ∃! p, p ∈ packages ∧ p.name = Segment.sanitize e.1) ∧
      (∀ e ∈ root.dependencies, ∀ e' ∈ root.dependencies, ∀ p ∈ packages, ∀ p' ∈ packages,
        p.name = Segment.sanitize e.1 → p'.name = Segment.sanitize e'.1 →
          (p = p' ↔ Segment.Respelled e.1 e'.1)) ∧
      (∀ p ∈ packages, Origin fetcher lock w s.world root root.dependencies p ∨
        ∃ q ∈ packages, Origin fetcher lock w s.world q.manifest q.manifest.dependencies p) ∧
      (root.dependencies.Pairwise (fun e e' => ¬ Segment.Respelled e.1 e'.1) →
        ∀ e ∈ root.dependencies, ∀ p ∈ packages, p.name = Segment.sanitize e.1 →
          Materialised fetcher lock w s.world root e p ∨
            ∃ q ∈ packages,
              Origin fetcher lock w s.world q.manifest q.manifest.dependencies p) := by
  obtain ⟨hnodup, -, hdeclared, -⟩ := resolve_inOrder h
  obtain ⟨hrun, rfl⟩ := Resolution.resolve_eq_ok_iff.mp h
  have hsame : ∀ p ∈ s.order, ∀ p' ∈ s.order, p.name = p'.name → p = p' :=
    fun p hp p' hp' => List.inj_on_of_nodup_map hnodup hp hp'
  have horigin : ∀ p ∈ s.order, Origin fetcher lock w s.world root root.dependencies p ∨
      ∃ q ∈ s.order, Origin fetcher lock w s.world q.manifest q.manifest.dependencies p := by
    intro p hp
    rcases hrun.origin (Resolution.tidy_initial root w) rfl p hp with hold | horigin
    · exact absurd hold List.not_mem_nil
    · exact horigin
  refine ⟨fun e he => ?_, fun e he e' he' p hp p' hp' hname hname' => ?_, horigin,
    fun hdistinct e he p hp hname => ?_⟩
  · obtain ⟨p, hp, hname⟩ := hdeclared _ ⟨e, he, rfl⟩
    refine ⟨p, ⟨hp, hname⟩, ?_⟩
    rintro p' ⟨hp', hname'⟩
    exact hsame p' hp' p hp (hname'.trans hname.symm)
  · rw [← Segment.sanitize_eq_iff, ← hname, ← hname']
    exact ⟨congrArg _, hsame p hp p' hp'⟩
  · refine (horigin p hp).imp_left ?_
    rintro ⟨e', hfirst, hmaterialised⟩
    -- no other entry has a name that is spelled like this one
    have hnames : (root.dependencies.map fun e => Segment.sanitize e.1).Nodup :=
      List.pairwise_map.mpr (hdistinct.imp fun hne heq => hne (Segment.sanitize_eq_iff.mp heq))
    have hself : e = e' := List.inj_on_of_nodup_map hnames he (List.mem_of_find?_eq_some hfirst)
      (hname.symm.trans hmaterialised.name.symm)
    rw [hself]
    exact hmaterialised

/-- The names and sources of the packages that a bounded run resolves a project to. -/
def sourcesWithin (bound : Nat) (root : Manifest) (w : World) : Option (List (Text × Text)) :=
  (Resolution.resolveWithin none none bound root root.dependencies (.initial root w)).bind fun r =>
    r.1.toOption.map fun _ => r.2.order.map fun p => (p.name, p.locked.source)

lemma resolve_of_sourcesWithin {bound : Nat} {root : Manifest} {w : World}
    {sources : List (Text × Text)} (h : sourcesWithin bound root w = some sources) :
    ∃ packages s, resolve none none root w = some (.ok packages, s) ∧
      packages.map (fun p => (p.name, p.locked.source)) = sources := by
  obtain ⟨⟨r, s⟩, hwithin, h⟩ := Option.bind_eq_some_iff.mp h
  obtain ⟨⟨⟩, hr, hsources⟩ := Option.map_eq_some_iff.mp h
  obtain rfl : r = .ok () := eq_ok_of_toOption_eq_some hr
  have hrun := Resolution.resolves_of_resolveWithin hwithin
  exact ⟨s.order, s, Resolution.resolve_eq_ok_iff.mpr ⟨hrun, rfl⟩, hsources⟩

/-- Directories with a package in each, one of which needs another one. -/
def shared : World :=
  Remotes.world []
    [(["a"], .directory), (["b"], .directory), (["c"], .directory),
      (["a", "package.yml"], .file (Text.bytes "name: a\ndependencies:\n  b-c: ../b\n")),
      (["b", "package.yml"], .file (Text.bytes "name: b\n")),
      (["c", "package.yml"], .file (Text.bytes "name: c\n"))]
    "/"

/-- A project with a dependency that another package declares as well, from somewhere else. -/
def sharedProject : Manifest :=
  ⟨"/app/package.yml", "app", "", [], [], .empty, [("a", .ofPath "../a"), ("b_c", .ofPath "../c")]⟩

/-- The packages of that project and their sources. -/
def sharedSources : List (Text × Text) :=
  [("b_c", "path+/b"), ("a", "path+/a")]

/-- The dependency was resolved for the other package. -/
theorem declared_entries_contribute_shared : ∃ packages s,
    resolve none none sharedProject shared = some (.ok packages, s) ∧
      packages.map (fun p => (p.name, p.locked.source)) = sharedSources ∧
      ∃ p ∈ packages, p.name = "b_c" ∧
        (Materialised none none shared s.world sharedProject ("b_c", .ofPath "../c") p ∨
          ∃ q ∈ packages,
            Origin none none shared s.world q.manifest q.manifest.dependencies p) := by
  have hrun : sourcesWithin 4 sharedProject shared = some sharedSources := by decide +kernel
  obtain ⟨packages, s, hresolve, hsources⟩ := resolve_of_sourcesWithin hrun
  obtain ⟨hone, -, -, hown⟩ :=
    declared_entries_contribute none none sharedProject shared packages s hresolve
  have hentry : (("b_c" : Text), Dependency.ofPath "../c") ∈ sharedProject.dependencies := by decide
  have hdistinct :
      sharedProject.dependencies.Pairwise fun e e' => ¬ Segment.Respelled e.1 e'.1 := by
    simp only [← Segment.sanitize_eq_iff]
    decide
  obtain ⟨p, ⟨hp, hname⟩, -⟩ := hone _ hentry
  exact ⟨packages, s, hresolve, hsources, p, hp, hname, hown hdistinct _ hentry p hp hname⟩

/-! ### A dependency that is dropped -/

deriving instance DecidableEq for Manifest.File

/-- Two dependencies whose names are spellings of one. -/
def twinDependencies : List (Text × Dependency) :=
  [("a-b", .ofPath "../x"), ("a_b", .ofPath "../y")]

/-- A manifest file with these dependencies. -/
def twinsFile : Manifest.File where
  name := "app"
  version := ""
  authors := []
  prelude := []
  targets := []
  dependencies := twinDependencies

/-- The text of that file. -/
def twinsText : Text.Bytes :=
  Text.bytes "name: app\ndependencies:\n  a-b: ../x\n  a_b: ../y\n"

/-- The manifest of that file. -/
def twinsProject : Manifest :=
  ⟨"/app/package.yml", "app", "", [], [], .empty, twinDependencies⟩

/-- The place of that file. -/
def twinsPlace : Place :=
  ["app", "package.yml"]

/-- The project with both packages. -/
def twins : World :=
  Remotes.world []
    [(["app"], .directory), (["x"], .directory), (["y"], .directory), (twinsPlace, .file twinsText),
      (["x", "package.yml"], .file (Text.bytes "name: x\n")),
      (["y", "package.yml"], .file (Text.bytes "name: y\n"))]
    "/"

lemma valid_twinsFile : twinsFile.Valid where
  name := by decide
  authors := by decide
  relative := by decide
  distinct := by decide
  main := by decide
  dependencies := by
    have hissues : ∀ e ∈ twinsFile.dependencies, e.2.issues = [] := by decide
    intro name d hd
    exact d.issues_eq_nil_iff.mp (hissues _ (Manifest.File.mem_of_dependency? hd))

lemma ofFile_twinsFile : Manifest.ofFile "/app/package.yml" twinsFile = twinsProject := by
  have hsorted : Manifest.sortPairs twinDependencies = twinDependencies := by
    have hfirst : Manifest.firstByKey Prod.fst twinDependencies.reverse =
        twinDependencies.reverse := by decide
    rw [Manifest.sortPairs, hfirst]
    exact mergeSort_pair (by decide)
  rw [Manifest.ofFile, twinsFile, hsorted]
  decide

lemma load_twinsProject : Manifest.load twins "/app/package.yml" = .ok twinsProject := by
  have hread : Codec.yaml.readManifest twinsText = some (.ok twinsFile) := by
    have hdecoded : (Codec.yaml.readManifest twinsText).bind Except.toOption = some twinsFile := by
      decide +kernel
    obtain ⟨result, hresult, hfile⟩ := Option.bind_eq_some_iff.mp hdecoded
    rw [hresult, eq_ok_of_toOption_eq_some hfile]
  have hlookup : (twins.files.lookup "/" "/app/package.yml").toOption =
      some (twinsPlace, .file twinsText) := by
    decide +kernel
  refine Manifest.load_eq_ok_iff.mpr ⟨rfl, "/app/package.yml", _, _, by decide +kernel,
    eq_ok_of_toOption_eq_some hlookup, ?_⟩
  exact (Manifest.parse_eq_ok_iff hread).mpr ⟨valid_twinsFile, ofFile_twinsFile.symm⟩

/-- A manifest that is accepted can lose a dependency: of two whose names are spellings of one, the
second is never looked at, and the only package is the first one's. -/
theorem declared_entry_dropped : ∃ m p s, Manifest.load twins "/app/package.yml" = .ok m ∧
    m.dependencies = twinDependencies ∧ resolve none none m twins = some (.ok [p], s) ∧
    p.locked.source = "path+/x" := by
  have hrun : sourcesWithin 4 twinsProject twins = some [(("a_b" : Text), ("path+/x" : Text))] := by
    decide +kernel
  obtain ⟨packages, s, hresolve, hsources⟩ := resolve_of_sourcesWithin hrun
  obtain ⟨p, rfl, hp⟩ := List.map_eq_singleton_iff.mp hsources
  exact ⟨twinsProject, p, s, load_twinsProject, rfl, hresolve, (Prod.mk.inj hp).2⟩

end PocketScheme
