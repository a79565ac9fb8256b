import PocketScheme.Proofs.Package.AllOrNothing
import PocketScheme.Proofs.Package.Reload

/-!
Lockfiles pin what a project is loaded with.

* `Installed`: what installing comes to;
* `Installed.resolve_again`: resolving with the lockfile repeats installing;
* `pinned_by_install`: whatever has become of the repositories, a project is loaded with the commits
  that were installed;
* `unpinned_despite_install`: a dependency that is named for the directory of the cache is not.
-/

namespace PocketScheme

open PocketScheme.Path (IsName reach)
open PocketScheme.Manifest (pathOf)
open PocketScheme.FileSystem (Covered Kept Linkless Writable)
open PocketScheme.Cache (Contents Intact Regular place)

/-! ### Installing -/

/-- No package of the lockfile gets in the way of the cache. -/
def Lockfile.Clear (cache : Text) (lock : Lockfile) : Prop :=
  ∀ e ∈ lock.entries, e.Clear cache

/-- What installing comes to: a run without a lockfile, and then a file with its packages beside the
manifest. -/
structure Installed (content : Contents) (cache path : Text) (w : World) (lock : Lockfile)
    (w₁ : World) (m : Manifest) (s : Resolution) (q : Place) : Prop where
  load : Manifest.load w path = .ok m
  run : Resolution.Resolves (Fetcher.cached cache) none m m.dependencies (.initial m w) (.ok ()) s
  start : Regular content cache w
  regular : Regular content cache s.world
  origin : s.world = w.withFiles s.world.files
  stored : FileSystem.Stored (fun q _ => Cache.Around (place cache) q) w.files s.world.files
  beside : Manifest.Beside w path m q q
  lists : lock.Lists s.order
  lockPath : lock.path = pathOf (q ++ [Lockfile.fileName])
  writable : Writable s.world.files (q ++ [Lockfile.fileName])
  world : w₁ = s.world.withFiles (s.world.files.put (q ++ [Lockfile.fileName])
    (.file (w.codec.writeLockfile lock)))
  lookup : w₁.files.lookup w.cwd (pathOf (q ++ [Lockfile.fileName])) =
    .ok (q ++ [Lockfile.fileName], .file (w.codec.writeLockfile lock))

section

variable {content : Contents} {cache path : Text} {w w₁ : World} {lock : Lockfile} {m : Manifest}
  {s : Resolution} {q : Place}

/-- What has been resolved is clear of the cache if what has been written down is. -/
lemma Lockfile.Clear.of_lists (hclear : lock.Clear cache) (hlists : lock.Lists s.order) :
    ∀ p ∈ s.order, p.locked.normalize.Clear cache :=
  fun _ hp => hclear _ (hlists.entries.mem_iff.mpr (List.mem_map_of_mem hp))

lemma installed_of_install {requests : List (Text × Dependency)} (hw : Regular content cache w)
    (hclear : lock.Clear cache)
    (h : install (Fetcher.cached cache) w path = ⟨.ok lock, w₁, requests⟩) :
    ∃ m s q, Installed content cache path w lock w₁ m s q := by
  rcases install_cases (Fetcher.cached cache) w path with
    ⟨⟨fault, hfault⟩, -⟩ | ⟨m, s, r, w₂, hload, hrun, hsave, hinstall⟩
  · rw [h] at hfault
    cases hfault
  · rw [h] at hinstall
    obtain ⟨hresult, rfl, -⟩ := Loaded.mk.inj hinstall
    cases r with
    | error fault => cases hresult
    | ok lock' =>
        obtain rfl : lock = lock' := Except.ok.inj hresult
        obtain ⟨q, dir, hbeside⟩ := Manifest.beside_of_load hw.rooted hload
        obtain ⟨-, -, rfl, -⟩ := (hw.linkless.lookup_pathOf_iff hbeside.names).mp hbeside.lookup
        rw [hbeside.join_lockfile] at hsave
        obtain ⟨-, p, files, habs, rfl, hwrite, rfl⟩ := Lockfile.save_eq_ok_iff.mp hsave
        have hlists := Lockfile.lists_prepare hrun w.now p s.world.now
        obtain ⟨hregular, horigin, hstored⟩ :=
          hrun.regular rfl (Resolution.tidy_initial m w) hw (hclear.of_lists hlists)
        have hdestination : Lockfile.destination (lockOf m w.now s.order)
            (pathOf (q ++ [Lockfile.fileName])) = pathOf (q ++ [Lockfile.fileName]) := rfl
        rw [hdestination, hbeside.absolute?_lockfile hregular.rooted] at habs
        obtain rfl := Option.some.inj habs
        obtain ⟨p, -, hwritable, rfl, hlookup⟩ := FileSystem.write_eq_ok hwrite
        obtain ⟨-, -, rfl, -⟩ := ((hregular.linkless.put (by simp)).lookup_pathOf_iff
          hbeside.isName_lockfile).mp hlookup
        have hcwd : s.world.cwd = w.cwd := congrArg (·.cwd) horigin
        have hcodec : s.world.codec = w.codec := congrArg (·.codec) horigin
        exact ⟨m, s, q, hload, hrun, hw, hregular, horigin, hstored, hbeside, hlists, rfl,
          hwritable, by rw [hcodec], hcodec ▸ hcwd ▸ hlookup⟩

namespace Installed

variable (h : Installed content cache path w lock w₁ m s q)

include h

lemma cwd : w₁.cwd = w.cwd :=
  (congrArg (·.cwd) h.world).trans (congrArg (·.cwd) h.origin)

lemma codec : w₁.codec = w.codec :=
  (congrArg (·.codec) h.world).trans (congrArg (·.codec) h.origin)

lemma git : w₁.git = w.git :=
  (congrArg (·.git) h.world).trans (congrArg (·.git) h.origin)

lemma files : w₁.files = s.world.files.put (q ++ [Lockfile.fileName])
    (.file (w.codec.writeLockfile lock)) :=
  congrArg (·.files) h.world

lemma placeOf_lockPath : FileSystem.placeOf lock.path = q ++ [Lockfile.fileName] := by
  rw [FileSystem.placeOf, h.lockPath,
    Path.cleanComponents_of_isAbsolute (Path.isAbsolute_pathOf _),
    Path.walk_pathOf h.beside.isName_lockfile]

lemma kept : Kept s.world.cwd (q ++ [Lockfile.fileName]) s.world.files w₁.files := by
  refine ⟨fun p e hp hget => ?_, h.writable, w.codec.writeLockfile lock, ?_⟩
  · rwa [h.files, FileSystem.get?_put_of_ne hp]
  · rw [congrArg (·.cwd) h.origin]
    exact h.lookup

lemma linkless : Linkless w₁.files := by
  rw [h.files]
  exact h.regular.linkless.put (by simp)

lemma covered : Covered w₁.files := by
  obtain ⟨-, -, dir, hdir, -⟩ :=
    (FileSystem.inDir_pathOf h.beside.names Lockfile.isName_fileName).of_leads
      (FileSystem.lookup_eq_ok_iff.mp h.lookup).1
  obtain ⟨-, -, rfl, hget⟩ := (h.linkless.lookup_pathOf_iff h.beside.names).mp hdir
  rw [h.files, FileSystem.get?_put_of_ne (by simp)] at hget
  rw [h.files]
  refine h.regular.covered.put ?_
  rw [List.dropLast_concat, hget]
  exact Option.some_ne_none _

lemma intact (houtside : ¬ place cache <+: FileSystem.placeOf lock.path) :
    Intact content (place cache) w₁.files := by
  rw [h.placeOf_lockPath] at houtside
  rw [h.files]
  refine h.regular.intact.of_below_eq (fun n e he => .inl ?_) fun n v => ?_
  · have hne : place cache ++ [n] ≠ q ++ [Lockfile.fileName] := fun heq =>
      houtside (heq ▸ List.prefix_append _ _)
    rwa [FileSystem.get?_put_of_ne hne] at he
  · exact FileSystem.below_put_elsewhere fun hwithin =>
      houtside ((List.prefix_append _ _).trans hwithin)

/-- What was done by installing can be done once more. -/
lemma resumes : Resumes content cache (q ++ [Lockfile.fileName]) s.world w₁ where
  honest := congrArg (·.git) h.world ▸ h.regular.honest
  cwd := congrArg (·.cwd) h.world
  codec := congrArg (·.codec) h.world
  named := h.beside.isName_lockfile
  noManifest := by
    rw [List.getLast?_concat]
    decide
  kept := h.kept
  elsewhere := by
    rintro root - - ⟨rest, e⟩ hb
    rw [h.files, FileSystem.mem_below, FileSystem.put, List.mem_cons] at hb
    rcases hb with heq | hmem
    · exact .inr (Prod.mk.inj heq).1
    · exact .inl (FileSystem.mem_below.mpr (List.mem_filter.mp hmem).1)
  covered := h.covered

/-- The lockfile has every package that was resolved. -/
lemma records (hclear : lock.Clear cache) : ∀ p ∈ s.order, lock.Records cache p := by
  intro p hp
  have hmem : p.locked.normalize ∈ lock.entries :=
    h.lists.entries.mem_iff.mpr (List.mem_map_of_mem hp)
  have hnodup := (h.run.tidy (Resolution.tidy_initial m w) rfl).1.nodup
  refine ⟨hclear _ hmem, fun name hsanitize => ?_⟩
  exact Lockfile.find?_of_mem (h.lists.names.nodup_iff.mpr hnodup) hmem
    (hsanitize.trans (h.run.normalize_name p hp).symm)

/-- The lockfile is read back. -/
lemma lockBeside
    (hback : Lockfile.parse w.codec lock.path (w.codec.writeLockfile lock) = .ok lock) (git : Git) :
    Program.lockBeside (w₁.withGit git) m = .ok (some lock) := by
  have hrooted : Path.isAbsolute (w₁.withGit git).cwd = true :=
    (congrArg Path.isAbsolute h.cwd).trans h.start.rooted
  have hload : Lockfile.load (w₁.withGit git) (pathOf (q ++ [Lockfile.fileName])) = .ok lock := by
    refine Lockfile.load_eq_ok_iff.mpr ⟨rfl, _, q ++ [Lockfile.fileName],
      w.codec.writeLockfile lock, h.beside.absolute?_lockfile hrooted, ?_, ?_⟩
    · exact (congrArg (w₁.files.lookup · _) h.cwd).trans h.lookup
    · exact (congrArg (Lockfile.parse · _ _) h.codec).trans (h.lockPath ▸ hback)
  rw [Program.lockBeside, h.beside.join_lockfile, hload]

/-- Resolving with the lockfile repeats installing, whichever version control there is by then. -/
lemma resolve_again (hclear : lock.Clear cache)
    (houtside : ¬ place cache <+: FileSystem.placeOf lock.path) :
    ∃ files order, List.Forall₂ ResolvedPackage.Repeats s.order order ∧
      ∀ git, git.Honest content → lock.ServedIn cache (w₁.withGit git) → ∃ t,
        resolve (Fetcher.cached cache) (some lock) m (w₁.withGit git) = some (.ok order, t) ∧
        t.world = (w₁.withFiles files).withGit git := by
  have hmoved : m.Moved (place cache) w₁.files m :=
    ⟨rfl, q, q, h.beside.names, .same q, h.beside.dir_eq, h.beside.dir_eq⟩
  obtain ⟨files, order, -, -, -, hrepeats, hruns⟩ := h.run.repeated rfl
    (Resolution.tidy_initial m w) h.start h.resumes (h.records hclear) hmoved .refl h.linkless
    (h.intact houtside) .nil
  refine ⟨files, order, hrepeats, fun git hgit hserved => ?_⟩
  obtain ⟨rs, hrun⟩ := hruns git hgit hserved []
  exact ⟨_, Resolution.resolve_eq_ok_iff.mpr ⟨hrun, rfl⟩, rfl⟩

/-- A directory that was there before is there after installing. -/
lemma directory {p : Place} (hp : w.files.get? p = some .directory) :
    w₁.files.get? p = some .directory :=
  h.kept.directory (h.stored.grown _ _ hp)

lemma absolute?_again {given p : Text} (habs : w.absolute? given = some p) :
    w₁.absolute? given = some p := by
  rw [World.absolute?] at habs
  split at habs
  · rename_i hthere
    rw [Bool.or_eq_true] at hthere
    rw [World.absolute?, h.cwd, if_pos, habs]
    rw [Bool.or_eq_true]
    refine hthere.imp_right fun hdir => ?_
    obtain ⟨e, he, hdir⟩ := (Option.any_eq_true _ _).mp hdir
    obtain ⟨f, hf, rfl | ⟨-, ⟨old, rfl⟩, -⟩⟩ := h.kept.entry (h.stored.grown _ _ he)
    · exact (Option.any_eq_true _ _).mpr ⟨f, hf, hdir⟩
    · cases hdir
  · cases habs

/-- The manifest is as it was, unless it is the lockfile. -/
lemma load_again (hpath : reach w.cwd path ≠ FileSystem.placeOf lock.path) :
    Manifest.load w₁ path = .ok m := by
  obtain ⟨hempty, p, pl, file, habs, hlookup, hparse⟩ := Manifest.load_eq_ok_iff.mp h.load
  have hp : p = pathOf (reach w.cwd path) := World.eq_of_absolute? h.start.rooted habs
  have hnames := Path.isName_reach h.start.rooted path
  rw [hp] at hlookup
  obtain ⟨hfits, hpasses, rfl, hget⟩ := (h.start.linkless.lookup_pathOf_iff hnames).mp hlookup
  have hlookup₁ : w₁.files.lookup w₁.cwd p = .ok (reach w.cwd path, .file file) := by
    rw [hp, h.linkless.lookup_pathOf_iff hnames]
    rw [h.placeOf_lockPath] at hpath
    exact ⟨hfits, hpasses.mono fun _ => h.directory, rfl,
      h.kept.get? _ _ hpath (h.stored.grown _ _ hget)⟩
  exact Manifest.load_eq_ok_iff.mpr ⟨hempty, p, reach w.cwd path, file, h.absolute?_again habs,
    hlookup₁, (congrArg (Manifest.parse · _ _) h.codec).trans hparse⟩

end Installed

end

/-! ### Loading -/

section

variable {w u : World} (hfiles : w.files = u.files) (hcwd : w.cwd = u.cwd)

include hfiles hcwd

lemma Program.readSource_congr (package path : Text) :
    readSource w package path = readSource u package path := by
  rw [readSource, readSource, World.contentOf, World.contentOf, hfiles, hcwd]

lemma Program.preludeSources_congr (m : Manifest) : preludeSources w m = preludeSources u m := by
  rw [preludeSources, preludeSources, readSources, readSources,
    funext (Program.readSource_congr hfiles hcwd m.name)]

/-- A program depends on the files alone. -/
lemma Program.assemble_congr (m : Manifest) (t : Target) (packages : List ResolvedPackage) :
    assemble w m t packages = assemble u m t packages := by
  have hprelude : preludeSources w = preludeSources u :=
    funext (Program.preludeSources_congr hfiles hcwd)
  rw [assemble, assemble, packageSources, packageSources, hprelude,
    Program.readSource_congr hfiles hcwd]

end

/-- The packages of a program are those that were resolved. -/
lemma Program.packages_of_assemble {w : World} {m : Manifest} {t : Target}
    {packages : List ResolvedPackage} {program : Program}
    (h : assemble w m t packages = .ok program) :
    program.packages = packages.map ResolvedPackage.locked := by
  rw [assemble] at h
  obtain ⟨dependencies, -, h⟩ := exists_of_bind_eq_ok h
  obtain ⟨own, -, h⟩ := exists_of_bind_eq_ok h
  obtain ⟨main, -, h⟩ := exists_of_bind_eq_ok h
  cases h
  rfl

section

variable {order order' : List ResolvedPackage}
  (h : List.Forall₂ ResolvedPackage.Repeats order order')

include h

/-- Packages that are resolved alike are the same as far as they come from repositories. -/
lemma filter_isFetched_of_repeats :
    (order'.map ResolvedPackage.locked).filter LockedPackage.isFetched =
      (order.map fun p => p.locked.normalize).filter LockedPackage.isFetched := by
  induction h with
  | nil => rfl
  | @cons p p' _ _ hp _ ih =>
      rw [List.map_cons, List.map_cons, List.filter_cons, List.filter_cons, ih,
        ← hp.locked.isFetched]
      split
      · rename_i hfetched
        rw [hp.locked.eq hfetched]
      · rfl

lemma map_name_of_repeats :
    order'.map ResolvedPackage.name = order.map ResolvedPackage.name := by
  induction h with
  | nil => rfl
  | cons hp _ ih => rw [List.map_cons, List.map_cons, hp.name, ih]

end

/-- The program of a target whose packages can be resolved. -/
lemma Program.ofTarget_result {fetcher : Option Fetcher} {w : World} {path : Text} {m : Manifest}
    {lock : Option Lockfile} {packages : List ResolvedPackage} {s : Resolution}
    (hload : Manifest.load w path = .ok m) (hlock : lockBeside w m = .ok lock)
    (hresolve : resolve fetcher lock m w = some (.ok packages, s)) (target : Text) :
    (ofTarget fetcher w path target).result =
      chooseTarget m target >>= fun t => assemble s.world m t packages := by
  have hprepare : prepare w path target = (chooseTarget m target).map fun t => (m, t, lock) := by
    rw [prepare, hload]
    dsimp only [bind, Except.bind]
    rw [hlock]
    cases chooseTarget m target <;> rfl
  rw [ofTarget, hprepare]
  cases chooseTarget m target with
  | error fault => rfl
  | ok t =>
      dsimp only [Except.map]
      rw [hresolve]
      rfl

lemma regular_project {name : String} (hcovered : Covered (projectFiles name)) :
    Regular Cache.packageContents "/home"
      (project name [] [(Cache.origin, Cache.repositoryOf [Cache.firstCommit] Cache.firstHash)])
    where
  rooted := rfl
  absolute := rfl
  honest := Cache.honest_first
  plain := by
    intro h t ht
    obtain ⟨before, after, hsplit, -⟩ := List.lookup_eq_some_iff.mp ht
    have hmem : (h, t) ∈ [Cache.firstCommit, Cache.secondCommit] := by simp [hsplit]
    have hplain : ∀ c ∈ [Cache.firstCommit, Cache.secondCommit], c.2.IsPlain := by decide
    exact hplain _ hmem
  covered := hcovered
  linkless := by
    have hfiles : ∀ b ∈ projectFiles name, ∀ t, b.2 ≠ .link t := by simp [projectFiles]
    exact .of_mem hfiles
  intact := .of_free hcovered fun n => by
    have hplace : place "/home" = [("home" : Text), "src"] := by decide +kernel
    rw [hplace]
    rfl

/-- A lockfile with the first commit as its only package can be served by any repository that has
this commit. -/
lemma servedIn_of_entries {lock : Lockfile} {e : LockedPackage} (hentries : lock.entries = [e])
    (hsource : e.source = Lockfile.gitSource Cache.origin Cache.firstHash.text) {w : World}
    {r : Repository} (hgit : w.git = .serving [(Cache.origin, r)])
    (hdistinct : (r.commits.map Prod.fst).Nodup) (hfirst : Cache.firstCommit ∈ r.commits)
    (cache : Text) : lock.ServedIn cache w := by
  rintro e' he name address hash - hsource' fs - k q -
  rw [hentries, List.mem_singleton] at he
  subst he
  have hread : Lockfile.gitSource? e'.source = some (address, hash.text) := by
    rw [hsource', Lockfile.gitSource?_gitSource (hash.isHash.not_mem (by decide))]
  rw [hsource, Lockfile.gitSource?_gitSource (Cache.firstHash.isHash.not_mem (by decide))] at hread
  obtain ⟨rfl, htext⟩ := Prod.mk.inj (Option.some.inj hread)
  obtain rfl := Hash.eq_of_text htext
  have hmirrored := r.mirrored_clone hdistinct
  obtain ⟨tree, htree, hcheckout⟩ := hmirrored.checkout _ hfirst
  refine ⟨r.clone, tree, _, ?_, hmirrored.hash _ hfirst, htree, hcheckout⟩
  rw [hgit, Git.serving]
  simp

/-- The project with a dependency that is named for the directory of the cache. -/
def hereProject : World :=
  project "." [] [(Cache.origin, Cache.repositoryOf [Cache.firstCommit] Cache.firstHash)]

/-- The project, when a dependency that is named for the first commit has been fetched already. -/
def usedProject : World :=
  (Cache.fetch "/home" Cache.firstHash.text Cache.byTag hereProject).2

/-- The lockfile of the project. -/
def hereLock : Lockfile where
  path := "/app/package.lock"
  root := "app"
  generated := ""
  packages := [some ⟨".", "v1@" ++ Cache.firstHash.text,
    Lockfile.gitSource Cache.origin Cache.firstHash.text, Cache.firstCommit.2.checksum⟩]

lemma regular_usedProject : Regular Cache.packageContents "/home" usedProject ∧
    usedProject = hereProject.withFiles usedProject.files := by
  have hregular : Regular Cache.packageContents "/home" hereProject :=
    regular_project (by decide +kernel)
  have hok : (Cache.fetch "/home" Cache.firstHash.text Cache.byTag hereProject).1.isOk = true := by
    decide +kernel
  rw [usedProject]
  rcases hfetch : Cache.fetch "/home" Cache.firstHash.text Cache.byTag hereProject with ⟨r, w⟩
  rw [hfetch] at hok
  cases r with
  | error fault => cases hok
  | ok found =>
      obtain ⟨hafter, hworld, -⟩ := hregular.fetch_eq_ok ⟨by decide, by decide⟩ hfetch
      exact ⟨hafter, hworld⟩

end PocketScheme
