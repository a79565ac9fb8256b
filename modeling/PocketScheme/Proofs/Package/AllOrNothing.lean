import PocketScheme.Proofs.Package.CacheRuns
import PocketScheme.Proofs.Package.Footprint
import PocketScheme.Proofs.Package.Installing

/-!
Installing writes a whole lockfile or leaves it alone, and nothing else is touched but the cache.
All of this is whatever comes of cloning.

* `Loaded.Spares`: a place that holds what it held, unless it is in the cache or leads there;
* `Loaded.KeepsLockfile`: the lockfile of a project is as it was;
* `install_all_or_nothing`: what installing and loading leave behind;
* `lockfile_displaced`: a cache inside of the place of the lockfile.
-/

namespace PocketScheme

open PocketScheme.Path (IsName reach)
open PocketScheme.Manifest (pathOf)
open PocketScheme.FileSystem (Covered Stored)

/-! ### What is left alone -/

/-- The path of the directory of the project whose manifest is at a path. -/
def Manifest.dirPath (w : World) (path : Text) : Text :=
  pathOf (reach w.cwd path).dropLast

/-- The path of the lockfile beside the manifest at a path. -/
def Lockfile.pathBeside (w : World) (path : Text) : Text :=
  pathOf ((reach w.cwd path).dropLast ++ [Lockfile.fileName])

namespace Loaded

variable {α : Type}

/-- The place holds what it held, or it had been free, and now it is below the directory of a
dependency that was asked for or a directory on the way there. -/
def Spares (l : Loaded α) (cache : Text) (w : World) (q : Place) : Prop :=
  l.world.files.get? q = w.files.get? q ∨
    w.files.get? q = none ∧ ∃ r ∈ l.requests, cache.isEmpty = false ∧
      ((∃ dir, l.world.files.lookup w.cwd (Cache.packageDir cache r.1) = .ok (dir, .directory) ∧
          dir <+: q) ∨
        ∃ t ∈ FileSystem.steps (Cache.packageDir cache r.1),
          l.world.files.lookup w.cwd t = .ok (q, .directory))

/-- The lockfile of a project is as it was. Only if there is nothing at its place, and that is on
the way to the directory of a dependency that was asked for, there can be a directory now. -/
structure KeepsLockfile (l : Loaded α) (cache path : Text) (w : World) : Prop where
  held : ∀ q e, w.files.lookup w.cwd (Lockfile.pathBeside w path) = .ok (q, e) →
    l.world.files.lookup w.cwd (Lockfile.pathBeside w path) = .ok (q, e)
  place : ∀ dir, w.files.lookup w.cwd (Manifest.dirPath w path) = .ok (dir, .directory) →
    l.world.files.get? (dir ++ [Lockfile.fileName]) = w.files.get? (dir ++ [Lockfile.fileName]) ∨
      w.files.get? (dir ++ [Lockfile.fileName]) = none ∧ ∃ r ∈ l.requests,
        ∃ t ∈ FileSystem.steps (Cache.packageDir cache r.1),
          l.world.files.lookup w.cwd t = .ok (dir ++ [Lockfile.fileName], .directory)

end Loaded

/-! ### Resolving -/

section

variable {cache path : Text} {w : World} {m : Manifest} {s : Resolution} {α : Type} {l : Loaded α}

/-- A run touches nothing outside of the cache. -/
lemma Resolution.Fetches.spares (h : Resolution.Fetches cache (.initial m w) s)
    (result : Except PackageFault α) (q : Place) :
    Loaded.Spares ⟨result, s.world, s.requests⟩ cache w q := by
  rcases h.stored.get? q with hsame | ⟨hfree, e, ⟨r, hr, hcache, hputs⟩, -⟩
  · exact .inl hsame
  · refine .inr ⟨hfree, r, hr, hcache, ?_⟩
    rcases hputs with ⟨-, t, ht, hlookup⟩ | ⟨dir, v, hash, hdir, -, -, hq⟩
    · exact .inr ⟨t, ht, hlookup⟩
    · exact .inl ⟨dir, hdir, (List.prefix_append _ _).trans hq⟩

/-- A run leaves the lockfile alone: no commit is checked out there, or around the project. -/
lemma Resolution.Fetches.keepsLockfile (h : Resolution.Fetches cache (.initial m w) s)
    (hw : Covered w.files) (path : Text) (result : Except PackageFault α) :
    Loaded.KeepsLockfile ⟨result, s.world, s.requests⟩ cache path w := by
  refine ⟨fun q e hheld => FileSystem.lookup_of_grown h.stored.grown hheld, fun dir hdir => ?_⟩
  rcases h.stored.get? (dir ++ [Lockfile.fileName]) with
    hsame | ⟨hfree, e, ⟨r, hr, -, hputs⟩, -⟩
  · exact .inl hsame
  · rcases hputs with ⟨-, t, ht, hlookup⟩ | ⟨base, v, hash, -, hnames, hnone, hq⟩
    · exact .inr ⟨hfree, r, hr, t, ht, hlookup⟩
    · -- a checkout has another name than the lockfile, and none is made around what is there
      rcases List.prefix_concat_iff.mp hq with heq | ⟨rest, hrest⟩
      · exact absurd (List.singleton_inj.mp (List.append_inj' heq rfl).2) (hnames.ne (by decide))
      · have hthere := (FileSystem.lookup_eq_ok_iff.mp hdir).2
        rw [← hrest, hw.get?_below hnone rest] at hthere
        cases hthere

lemma Loaded.OnlyResolves.spares (h : l.OnlyResolves (Fetcher.cached cache) path w)
    (hw : Covered w.files) :
    l.world = w.withFiles l.world.files ∧ ∀ q, l.Spares cache w q := by
  obtain ⟨result, world, requests⟩ := l
  rcases h with ⟨rfl, -⟩ | ⟨m, lock, r, s, -, hrun, rfl, rfl⟩
  · exact ⟨rfl, fun q => .inl rfl⟩
  · have hfetches := hrun.fetches hw
    exact ⟨hfetches.world, hfetches.spares result⟩

lemma Loaded.OnlyResolves.keepsLockfile (h : l.OnlyResolves (Fetcher.cached cache) path w)
    (hw : Covered w.files) : l.KeepsLockfile cache path w := by
  obtain ⟨result, world, requests⟩ := l
  rcases h with ⟨rfl, -⟩ | ⟨m, lock, r, s, -, hrun, rfl, rfl⟩
  · exact ⟨fun q e hheld => hheld, fun dir _ => .inl rfl⟩
  · exact (hrun.fetches hw).keepsLockfile hw path result

/-! ### Writing the lockfile -/

/-- Whatever comes of writing a lockfile, at most the place that its path leads to has changed. -/
lemma Lockfile.save_at (hpath : path.isEmpty = false) {p : Text}
    (habs : w.absolute? path = some p) {lock : Lockfile}
    {r : Except Lockfile.SaveFault Lockfile} {w₁ : World}
    (h : Lockfile.save w (some lock) path = (r, w₁)) :
    w₁ = w ∨ ∃ q stored, FileSystem.Writable w.files q ∧
      w₁ = w.withFiles (w.files.put q (.file stored)) ∧
      w₁.files.lookup w.cwd p = .ok (q, .file stored) := by
  have hdestination : lock.destination path = path := if_neg (by rw [hpath]; simp)
  rcases Lockfile.save_cases w lock path with
    ⟨fault, hfault⟩ | ⟨p', result, files, -, habs', hwrite, hsave⟩
  · exact .inl (Prod.mk.inj (h.symm.trans hfault)).2
  · rw [hdestination] at habs'
    obtain rfl : p' = p := Option.some.inj (habs'.symm.trans habs)
    obtain ⟨-, rfl⟩ := Prod.mk.inj (h.symm.trans hsave)
    rcases FileSystem.write_cases w.files w.space w.cwd p'
      (w.codec.writeLockfile (lock.prepare p' w.now)) with
      ⟨q, stored, hleads, hwritable, hfiles, -⟩ | ⟨fault, hsame⟩
    · obtain rfl : files = w.files.put q (.file stored) := by rw [← hfiles, hwrite]
      exact .inr ⟨q, stored, hwritable, rfl, hleads.lookup_put hwritable (by simp)⟩
    · obtain rfl : files = w.files := (Prod.mk.inj (hwrite.symm.trans hsame)).2
      exact .inl rfl

lemma Lockfile.save_world {lock : Lockfile} {r : Except Lockfile.SaveFault Lockfile} {w₁ : World}
    (h : Lockfile.save w (some lock) path = (r, w₁)) : w₁ = w.withFiles w₁.files := by
  rcases Lockfile.save_cases w lock path with ⟨fault, hfault⟩ | ⟨p, result, files, -, -, -, hsave⟩
  · obtain ⟨-, rfl⟩ := Prod.mk.inj (h.symm.trans hfault)
    rfl
  · obtain ⟨-, rfl⟩ := Prod.mk.inj (h.symm.trans hsave)
    rfl

/-- Installing changes nothing but files. -/
lemma install_world (hw : Covered w.files) : (install (Fetcher.cached cache) w path).world =
    w.withFiles (install (Fetcher.cached cache) w path).world.files := by
  rcases install_cases (Fetcher.cached cache) w path with
    ⟨-, honly⟩ | ⟨m, s, r, w₁, -, hrun, hsave, hinstall⟩
  · exact (honly.spares hw).1
  · have hworld := Lockfile.save_world hsave
    have hstart : s.world = w.withFiles s.world.files := (hrun.fetches hw).world
    rw [hinstall]
    dsimp only
    rw [hworld, hstart]
    rfl

/-- Writing a file takes no directory away that a path leads to. -/
lemma Loaded.Spares.put {q p : Place} {stored : Text.Bytes} {requests : List (Text × Dependency)}
    {u : World} {result : Except PackageFault α} (hp : p ≠ q)
    (hwritable : FileSystem.Writable u.files q)
    (h : Loaded.Spares ⟨result, u, requests⟩ cache w p) :
    Loaded.Spares ⟨result, u.withFiles (u.files.put q (.file stored)), requests⟩ cache w p := by
  have hways := hwritable.ways (e := .file stored)
  rcases h with hsame | ⟨hfree, r, hr, hcache, hplace⟩
  · exact .inl ((FileSystem.get?_put_of_ne hp).trans hsame)
  · refine .inr ⟨hfree, r, hr, hcache, hplace.imp ?_ ?_⟩
    · rintro ⟨dir, hdir, hbelow⟩
      exact ⟨dir, hways.lookup_directory hdir, hbelow⟩
    · rintro ⟨t, ht, hlookup⟩
      exact ⟨t, ht, hways.lookup_directory hlookup⟩

end

/-- **Installing is all or nothing.** If the packages cannot be resolved, the lockfile is as it was;
if installing works, the lockfile has one entry for each resolved package. Other than that,
installing and loading touch nothing but the cache, and loading does not touch the lockfile. The
place of a lockfile that is not there can become a directory, if it is on the way to that of a
dependency in the cache. -/
theorem install_all_or_nothing {w : World} (hcwd : Path.isAbsolute w.cwd = true)
    (hw : Covered w.files) (cache path : Text) :
    (∀ l, install (Fetcher.cached cache) w path = l →
      l.world = w.withFiles l.world.files ∧
      (∀ q, l.Spares cache w q ∨ ∃ content,
        l.world.files.lookup w.cwd (Lockfile.pathBeside w path) = .ok (q, .file content)) ∧
      (∀ fault, l.result = .error fault → (∀ f, fault ≠ .unsaved f) →
        (∀ q, l.Spares cache w q) ∧ l.KeepsLockfile cache path w) ∧
      ∀ lock, l.result = .ok lock → ∃ m packages s q, Manifest.load w path = .ok m ∧
        resolve (Fetcher.cached cache) none m w = some (.ok packages, s) ∧ lock.Lists packages ∧
        lock.path = Lockfile.pathBeside w path ∧
        l.world.files.lookup w.cwd lock.path = .ok (q, .file (w.codec.writeLockfile lock)) ∧
        (Lockfile.ReadsBack w.codec lock → Lockfile.load l.world lock.path =
          .ok { lock with generated := lock.generated.trim })) ∧
    ∀ target l, Program.ofTarget (Fetcher.cached cache) w path target = l →
      l.world = w.withFiles l.world.files ∧ (∀ q, l.Spares cache w q) ∧
      l.KeepsLockfile cache path w := by
  refine ⟨?_, ?_⟩
  · rintro l rfl
    refine ⟨install_world hw, ?_⟩
    rcases install_cases (Fetcher.cached cache) w path with
      ⟨⟨fault, hfault⟩, honly⟩ | ⟨m, s, r, w₁, hload, hrun, hsave, hinstall⟩
    · -- nothing is written unless all packages are resolved
      obtain ⟨-, hspares⟩ := honly.spares hw
      refine ⟨fun q => .inl (hspares q), fun _ _ _ => ⟨hspares, honly.keepsLockfile hw⟩, ?_⟩
      intro lock hlock
      rw [hfault] at hlock
      cases hlock
    · obtain ⟨q, dir, hbeside⟩ := Manifest.beside_of_load hcwd hload
      have hpath : pathOf (q ++ [Lockfile.fileName]) = Lockfile.pathBeside w path := by
        obtain ⟨n, hreach⟩ := hbeside.reach
        rw [Lockfile.pathBeside, hreach, List.dropLast_concat]
      have hfetches := hrun.fetches hw
      have hsworld : s.world = w.withFiles s.world.files := hfetches.world
      have hscwd : s.world.cwd = w.cwd := by
        rw [hsworld]
        rfl
      have habs := hbeside.absolute?_lockfile (u := s.world) (hscwd ▸ hcwd)
      rw [hbeside.join_lockfile] at hsave
      rw [hpath] at hsave habs
      rw [hinstall]
      refine ⟨fun p => ?_, ?_, ?_⟩
      · -- the lockfile is written where its path leads, and all else stays as resolving left it
        have hspares := hfetches.spares (r.mapError .unsaved) p
        rcases Lockfile.save_at rfl habs hsave with rfl | ⟨p', stored, hwritable, rfl, hlookup⟩
        · exact .inl hspares
        · by_cases hp : p = p'
          · subst hp
            exact .inr ⟨stored, hscwd ▸ hlookup⟩
          · exact .inl (hspares.put hp hwritable)
      · intro fault hfault hunsaved
        cases r with
        | ok lock => cases hfault
        | error f => exact absurd (Except.error.inj hfault).symm (hunsaved f)
      · intro lock hlock
        cases r with
        | error f => cases hlock
        | ok lock' =>
            obtain rfl := Except.ok.inj hlock
            have hcodec : s.world.codec = w.codec := by
              rw [hsworld]
              rfl
            obtain ⟨-, p, files, habs', rfl, hwrite, rfl⟩ := Lockfile.save_eq_ok_iff.mp hsave
            have hp : p = Lockfile.pathBeside w path := Option.some.inj (habs'.symm.trans habs)
            subst hp
            obtain ⟨q, -, -, -, hlookup⟩ := FileSystem.write_eq_ok hwrite
            refine ⟨m, s.order, s, q, hload, Resolution.resolve_of_resolves hrun,
              Lockfile.lists_prepare hrun _ _ _, rfl, ?_, fun hback => ?_⟩
            · rw [hscwd, hcodec] at hlookup
              exact hlookup
            · exact Lockfile.load_of_save hsave (hcodec.symm ▸ hback) rfl habs
  · rintro target l rfl
    have honly := onlyResolves_ofTarget (Fetcher.cached cache) w path target
    obtain ⟨hworld, hspares⟩ := honly.spares hw
    exact ⟨hworld, hspares, honly.keepsLockfile hw⟩

/-! ### A project -/

/-- A manifest with a dependency on the repository, by its tag. -/
def manifestOf (name : String) : Text.Bytes :=
  Text.bytes ("name: app\ntargets:\n  main: z\ndependencies:\n  " ++ name ++
    ":\n    git: https://example.com/a.git\n    tag: v1\n")

/-- The files of a project in `/app` with a dependency of the given name. -/
def projectFiles (name : String) : FileSystem :=
  [(["app"], .directory), (["app", "package.yml"], .file (manifestOf name)),
    (["app", "z"], .file (Text.bytes "5"))]

/-- The project, with what else is stored, and the repositories. -/
def project (name : String) (stored : FileSystem) (repositories : List (Text × Repository)) :
    World :=
  { Remotes.world [] (projectFiles name ++ stored) "/" with git := .serving repositories }

/-- The project with the first commit in the repository. -/
def firstProject : World :=
  project "dep" [] [(Cache.origin, Cache.repositoryOf [Cache.firstCommit] Cache.firstHash)]

/-- The lockfile of the project. -/
def firstLock : Lockfile where
  path := "/app/package.lock"
  root := "app"
  generated := ""
  packages := [some ⟨"dep", "v1@" ++ Cache.firstHash.text,
    Lockfile.gitSource Cache.origin Cache.firstHash.text, Cache.firstCommit.2.checksum⟩]

/-- The place of the lockfile of the project. -/
def lockPlace : Place := ["app", "package.lock"]

lemma install_firstProject : ∃ w₁ requests,
    install (Fetcher.cached "/home") firstProject "/app/package.yml" =
      ⟨.ok firstLock, w₁, requests⟩ := by
  have hrun : ((installWithin 3 (Fetcher.cached "/home") firstProject "/app/package.yml").any
      fun l => l.result.toOption == some firstLock) = true := by
    decide +kernel
  obtain ⟨⟨r, w₁, requests⟩, hl, hrun⟩ := (Option.any_eq_true _ _).mp hrun
  obtain rfl : r = .ok firstLock := eq_ok_of_toOption_eq_some (beq_iff_eq.mp hrun)
  exact ⟨w₁, requests, install_eq_of_installWithin hl⟩

/-- A commit whose manifest has a dependency on a repository that is not there. -/
def danglingCommit : Hash × Tree :=
  (Cache.firstHash, Cache.packageTree
    "name: dep\ndependencies:\n  more:\n    git: https://example.com/x.git\n    tag: v1\n")

/-- The project with this commit in the repository, and a lockfile. -/
def danglingProject : World :=
  project "dep" [(lockPlace, .file (Text.bytes "old"))]
    [(Cache.origin, Cache.repositoryOf [danglingCommit] Cache.firstHash)]

/-- The lockfile of a project is as it was after its dependency was fetched and the dependency of
that one was not. The lockfile of the other project is written. -/
theorem install_all_or_nothing_dangling :
    (∃ fault w₁ requests, install (Fetcher.cached "/home") danglingProject "/app/package.yml" =
        ⟨.error fault, w₁, requests⟩ ∧
      w₁.files.get? ["home", "src", "dep", Cache.firstTagged] = some .directory ∧
      w₁.files.lookup "/" "/app/package.lock" = .ok (lockPlace, .file (Text.bytes "old"))) ∧
    ∃ w₁ requests packages q, install (Fetcher.cached "/home") firstProject "/app/package.yml" =
        ⟨.ok firstLock, w₁, requests⟩ ∧ firstLock.Lists packages ∧
      w₁.files.lookup "/" "/app/package.lock" =
        .ok (q, .file (Codec.yaml.writeLockfile firstLock)) := by
  constructor
  · have hrun : ((installWithin 3 (Fetcher.cached "/home") danglingProject "/app/package.yml").any
        fun l => (match l.result with | .error (.fetch _) => true | _ => false) &&
          l.world.files.get? ["home", "src", "dep", Cache.firstTagged] == some .directory) =
        true := by
      decide +kernel
    have hcovered : Covered danglingProject.files := by decide +kernel
    have hold : danglingProject.files.lookup "/" "/app/package.lock" =
        .ok (lockPlace, .file (Text.bytes "old")) := eq_ok_of_toOption_eq_some (by decide +kernel)
    obtain ⟨⟨r, w₁, requests⟩, hl, hrun⟩ := (Option.any_eq_true _ _).mp hrun
    rw [Bool.and_eq_true, beq_iff_eq] at hrun
    obtain ⟨hfault, hfetched⟩ := hrun
    have hinstall := install_eq_of_installWithin hl
    dsimp only at hfault
    split at hfault
    · rename_i fault
      obtain ⟨-, -, hfailed, -⟩ :=
        (install_all_or_nothing rfl hcovered "/home" "/app/package.yml").1 _ hinstall
      exact ⟨_, w₁, requests, hinstall, hfetched,
        (hfailed _ rfl (by simp)).2.held _ _ hold⟩
    · cases hfault
  · have hcovered : Covered firstProject.files := by decide +kernel
    obtain ⟨w₁, requests, hinstall⟩ := install_firstProject
    obtain ⟨-, -, -, hworked⟩ :=
      (install_all_or_nothing rfl hcovered "/home" "/app/package.yml").1 _ hinstall
    obtain ⟨m, packages, s, q, -, -, hlists, -, hwritten, -⟩ := hworked firstLock rfl
    exact ⟨w₁, requests, packages, q, hinstall, hlists, hwritten⟩

/-! ### Directories in place of a lockfile -/

/-- There is no lockfile at a place; installing and loading the project fail, and then there is a
directory. -/
def Displaced (cache path : Text) (w : World) (place : Place) : Prop :=
  w.files.get? place = none ∧
    (∃ fault w₁ requests, install (Fetcher.cached cache) w path = ⟨.error fault, w₁, requests⟩ ∧
      w₁.files.get? place = some .directory) ∧
    ∃ fault w₁ requests,
      Program.ofTarget (Fetcher.cached cache) w path "" = ⟨.error fault, w₁, requests⟩ ∧
      w₁.files.get? place = some .directory

/-- The lockfile is displaced, as runs of bounded length show. -/
def isDisplacedWithin (bound : Nat) (cache path : Text) (w : World) (place : Place) : Bool :=
  w.files.get? place == none &&
    ((installWithin bound (Fetcher.cached cache) w path).any fun l =>
      l.result.toOption.isNone && l.world.files.get? place == some .directory) &&
    (Program.ofTargetWithin bound (Fetcher.cached cache) w path "").any fun l =>
      l.result.toOption.isNone && l.world.files.get? place == some .directory

lemma displaced_of_isDisplacedWithin (bound : Nat) {cache path : Text} {w : World} {place : Place}
    (h : isDisplacedWithin bound cache path w place = true) : Displaced cache path w place := by
  rw [isDisplacedWithin, Bool.and_eq_true, Bool.and_eq_true, beq_iff_eq] at h
  obtain ⟨⟨hfree, hinstall⟩, hload⟩ := h
  refine ⟨hfree, ?_, ?_⟩
  · obtain ⟨⟨r, w₁, requests⟩, hl, hrun⟩ := (Option.any_eq_true _ _).mp hinstall
    rw [Bool.and_eq_true, beq_iff_eq] at hrun
    cases r with
    | ok lock => cases hrun.1
    | error fault => exact ⟨fault, w₁, requests, install_eq_of_installWithin hl, hrun.2⟩
  · obtain ⟨⟨r, w₁, requests⟩, hl, hrun⟩ := (Option.any_eq_true _ _).mp hload
    rw [Bool.and_eq_true, beq_iff_eq] at hrun
    cases r with
    | ok program => cases hrun.1
    | error fault =>
        exact ⟨fault, w₁, requests, Program.ofTarget_eq_of_ofTargetWithin hl, hrun.2⟩

/-- A project in the directory of the cache, with a dependency that has the name of lockfiles, and
no repositories. -/
def lockNamedProject : World :=
  Remotes.world []
    [(["home"], .directory), (["home", "src"], .directory),
      (["home", "src", "package.yml"], .file (manifestOf "package.lock"))] "/"

/-- The place of a lockfile can be on the way to a dependency in the cache: if the cache is to be
there, or if the project is where the cache keeps dependencies and one of them is named like a
lockfile. -/
theorem lockfile_displaced :
    Displaced "/app/package.lock" "/app/package.yml" (project "dep" [] []) lockPlace ∧
      Displaced "/home" "/home/src/package.yml" lockNamedProject
        ["home", "src", "package.lock"] :=
  ⟨displaced_of_isDisplacedWithin 3 (by decide +kernel),
    displaced_of_isDisplacedWithin 3 (by decide +kernel)⟩

end PocketScheme
