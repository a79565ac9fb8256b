import PocketScheme.Proofs.Package.Regular

/-!
Locating dependencies once more, with the lockfile that has come of locating them.

* `LockedPackage.Repeats`: packages that are locked alike;
* `LockedPackage.Clear`: packages that do not get in the way of the cache;
* `Lockfile.ServedIn`: the commits in a lockfile can be fetched;
* `Manifest.Moved`: a manifest, and the same one in the twin of its directory;
* `Resumes`: worlds in which what was done before can be done once more;
* `Located`: what is known once a dependency has been located;
* `Located.relocated`: it is located once more, at the same commit.
-/

namespace PocketScheme

open PocketScheme.Path (IsName)
open PocketScheme.Manifest (pathOf)
open PocketScheme.FileSystem (Covered Grown Kept Linkless Stored)
open PocketScheme.Cache (Contents Intact Moves Nameable Regular Twin place)

/-! ### Packages that are locked alike -/

/-- Packages that are locked alike: under one name, and those from repositories in every respect. -/
structure LockedPackage.Repeats (p p' : LockedPackage) : Prop where
  name : p'.name = p.name
  isFetched : p'.isFetched = p.normalize.isFetched
  eq : p'.isFetched = true → p' = p.normalize

lemma LockedPackage.Repeats.of_normalize {p : LockedPackage} (h : p.normalize = p) :
    p.Repeats p :=
  ⟨rfl, by rw [h], fun _ => h.symm⟩

lemma LockedPackage.isFetched_normalize {p : LockedPackage} (h : p.isFetched = true) :
    p.normalize.isFetched = true :=
  Text.startsWith_trim_of_forall (by decide) h

lemma withVersion_of_nonempty {p : LockedPackage} (h : p.version.isEmpty = false) (m : Manifest) :
    Resolution.withVersion p m = p := by
  rw [Resolution.withVersion, if_neg (by rw [h]; simp)]

/-- What is in a directory is not fetched. -/
lemma startsWith_path (dir : Text) :
    (Text.trim ("path+" ++ dir)).startsWith Lockfile.gitMark = false := by
  refine Text.startsWith_trim (fun g hg => ?_) rfl
  obtain rfl : Glyph.char 'p' = g := Option.some.inj hg
  decide

/-- Packages in directories. -/
lemma repeats_of_path (name dir dir' checksum checksum' : Text) (m m' : Manifest) :
    (Resolution.withVersion ⟨name, "", "path+" ++ dir, checksum⟩ m).Repeats
      (Resolution.withVersion ⟨name, "", "path+" ++ dir', checksum'⟩ m') := by
  obtain ⟨version, h⟩ := withVersion_eq ⟨name, "", "path+" ++ dir, checksum⟩ m
  obtain ⟨version', h'⟩ := withVersion_eq ⟨name, "", "path+" ++ dir', checksum'⟩ m'
  rw [h, h']
  refine ⟨rfl, (startsWith_path dir).symm, fun hfetched => ?_⟩
  cases hfetched

/-- Packages from repositories are locked in their normal form. -/
lemma normalize_fetched {name version address commit : Text} {d : Dependency}
    (h : Cache.FetchedAt d version commit) (t : Tree) :
    LockedPackage.normalize ⟨Segment.sanitize name, version, Lockfile.gitSource address commit,
        t.checksum⟩ =
      ⟨Segment.sanitize name, version, Lockfile.gitSource address commit, t.checksum⟩ := by
  rw [LockedPackage.normalize, Segment.sanitize_sanitize, h.version_trim,
    Lockfile.trim_gitSource _ h.commit_nonempty h.commit_trim, Tree.checksum, Sha256.trim_hex]

/-- The package does not get in the way of the cache: if it is fetched, it is not named for a
directory that the cache shares with others, and if it is in a directory, the checkouts are not in
there. -/
structure LockedPackage.Clear (cache : Text) (p : LockedPackage) : Prop where
  nameable : p.isFetched = true → p.name ≠ "." ∧ p.name ≠ ".."
  apart : ∀ dir : Text, p.source = Text.trim ("path+" ++ dir) →
    ¬ FileSystem.placeOf dir <+: place cache

lemma LockedPackage.Clear.of_isFetched {cache : Text} {p : LockedPackage}
    (h : p.isFetched = true) (hhere : p.name ≠ ".") (hup : p.name ≠ "..") : p.Clear cache := by
  refine ⟨fun _ => ⟨hhere, hup⟩, fun dir hdir => ?_⟩
  rw [LockedPackage.isFetched, hdir, startsWith_path] at h
  cases h

/-- The commits that a lockfile pins can be fetched, however much there is in the cache by then. -/
def Lockfile.ServedIn (lock : Lockfile) (cache : Text) (w : World) : Prop :=
  ∀ e ∈ lock.entries, ∀ name address hash, Segment.sanitize name = e.name →
    e.source = Lockfile.gitSource address hash.text →
    ∀ fs, Stored (fun q _ => place cache <+: q) w.files fs →
      ∀ k q, fs.followTo w.cwd (Cache.draftPath (Cache.packageDir cache name) k) = .free q →
        Cache.Offers w.git (w.withFiles fs).toHost address
          (Cache.draftPath (Cache.packageDir cache name) k) hash

/-! ### Manifests that have moved -/

/-- A manifest, and the same one in the twin of its directory. -/
structure Manifest.Moved (src : Place) (gs : FileSystem) (m m' : Manifest) : Prop where
  eq : m' = { m with path := m'.path }
  dir : ∃ q q', (∀ c ∈ q, IsName c) ∧ Twin src gs q q' ∧ m.dir = pathOf q ∧ m'.dir = pathOf q'

namespace Manifest.Moved

variable {src : Place} {gs hs : FileSystem} {m m' owner owner' : Manifest}

lemma mono (h : Moved src gs m m') (hgs : Grown gs hs) : Moved src hs m m' := by
  obtain ⟨q, q', hq, htwin, hdir, hdir'⟩ := h.dir
  exact ⟨h.eq, q, q', hq, htwin.mono hgs, hdir, hdir'⟩

/-- A dependency that is given by its path leads to the twin of where it led. -/
lemma dirFrom (h : Moved src gs owner owner') {d : Dependency} (hd : d.path.isEmpty = false) :
    ∃ q q', (∀ c ∈ q, IsName c) ∧ Twin src gs q q' ∧ d.dirFrom owner = pathOf q ∧
      d.dirFrom owner' = pathOf q' := by
  obtain ⟨q, q', hq, htwin, hdir, hdir'⟩ := h.dir
  have hslash : ∀ c ∈ Path.components d.path, Glyph.char '/' ∉ c.toList :=
    fun c => Path.slash_free_of_mem_components
  rw [Dependency.dirFrom, Dependency.dirFrom]
  cases habs : Path.isAbsolute d.path with
  | true =>
      rw [if_pos rfl, if_pos rfl, Path.clean_of_isAbsolute habs]
      exact ⟨_, _, Path.isName_walk (by simp) hslash, .same _, rfl, rfl⟩
  | false =>
      rw [if_neg (by simp), if_neg (by simp), hdir, hdir', Path.join_pathOf hq hd,
        Path.join_pathOf (htwin.isName hq) hd]
      exact ⟨_, _, Path.isName_walk hq hslash, htwin.walk hslash, rfl, rfl⟩

end Manifest.Moved

/-! ### Locating once more -/

section

variable {content : Contents} {cache name version commit : Text} {w u u₀ : World}
  {lock : Lockfile} {changed : Place} {gs : FileSystem} {owner owner' m : Manifest}
  {d : Dependency} {found : Fetched} {hash : Hash} {t : Tree}

/-- Locating a dependency leaves a regular world behind, and puts nothing anywhere but around the
checkouts. -/
lemma Cache.Regular.materialise (hu : Regular content cache u₀)
    (hname : d.path.isEmpty = true → Nameable name)
    (h : PocketScheme.materialise (Fetcher.cached cache) none owner name d u₀ = (.ok found, u)) :
    Regular content cache u ∧ u = u₀.withFiles u.files ∧
      Stored (fun q _ => Around (place cache) q) u₀.files u.files := by
  cases hd : d.path.isEmpty with
  | false =>
      rw [materialise_path hd] at h
      obtain ⟨-, rfl⟩ := Prod.mk.inj h
      exact ⟨hu, rfl, .refl⟩
  | true =>
      obtain ⟨hregular, hworld, hstored, -⟩ :=
        hu.fetch_eq_ok (hname hd) (fetch_of_materialise hd h).2
      exact ⟨hregular, hworld, hstored⟩

/-- What was done in the world `u` can be done once more in the world `w`: all is as it was but for
one file, which is not a manifest, and what there is in the cache. -/
structure Resumes (content : Contents) (cache : Text) (changed : Place) (u w : World) : Prop where
  honest : w.git.Honest content
  cwd : w.cwd = u.cwd
  codec : w.codec = u.codec
  named : ∀ c ∈ changed, IsName c
  noManifest : changed.getLast? ≠ some Manifest.fileName
  kept : Kept u.cwd changed u.files w.files
  elsewhere : ∀ root, ¬ root <+: place cache → ¬ place cache <+: root →
    ∀ b ∈ w.files.below root, b ∈ u.files.below root ∨ root ++ b.1 = changed
  covered : Covered w.files

/-- So can what was done before. -/
lemma Resumes.of_stored (h : Resumes content cache changed u w) (hworld : u = u₀.withFiles u.files)
    (hstored : Stored (fun q _ => Cache.Around (place cache) q) u₀.files u.files) :
    Resumes content cache changed u₀ w where
  honest := h.honest
  cwd := h.cwd.trans (congrArg (·.cwd) hworld)
  codec := h.codec.trans (congrArg (·.codec) hworld)
  named := h.named
  noManifest := h.noManifest
  kept := (congrArg (·.cwd) hworld : u.cwd = u₀.cwd) ▸ h.kept.of_grown hstored.grown
  elsewhere := by
    intro root hroot hroot' b hb
    rw [← hstored.below_eq root fun q _ hq hwithin => ?_]
    · exact h.elsewhere root hroot hroot' b hb
    · rcases hq with hq | hq
      · exact hroot (hwithin.trans hq)
      · exact (List.prefix_or_prefix_of_prefix hwithin hq).elim hroot hroot'
  covered := h.covered

/-- What is known when a dependency has been located in the world `u` and is to be located once more
in the world `w`, with the files `gs`. -/
structure Located (content : Contents) (cache : Text) (changed : Place) (w u : World)
    (gs : FileSystem) : Prop where
  regular : Regular content cache u
  resumes : Resumes content cache changed u w
  stored : Stored (fun q _ => place cache <+: q) w.files gs
  linkless : Linkless gs
  intact : Intact content (place cache) gs

/-- The dependency is located once more at the same commit, whichever version control there is, and
its manifest is the same. -/
structure Relocated (content : Contents) (cache : Text) (lock : Lockfile) (w : World)
    (gs : FileSystem) (owner' : Manifest) (name : Text) (d : Dependency) (p : LockedPackage)
    (m : Manifest) (files : FileSystem) (found' : Fetched) (m' : Manifest) : Prop where
  stored : Stored (fun q _ => place cache <+: q) gs files
  linkless : Linkless files
  intact : Intact content (place cache) files
  moved : m.Moved (place cache) files m'
  repeats : p.Repeats (Resolution.withVersion found'.package m')
  loaded : Manifest.load (w.withFiles files) (Path.join [found'.dir, Manifest.fileName]) = .ok m'
  located : ∀ git, git.Honest content → lock.ServedIn cache (w.withGit git) →
    materialise (Fetcher.cached cache) (some lock) owner' name d ((w.withFiles gs).withGit git) =
      (.ok found', (w.withFiles files).withGit git)

namespace Located

variable (hat : Located content cache changed w u gs)

include hat

/-- Nothing has changed in the files but that there is more in the cache. -/
lemma withFiles {files : FileSystem} (hstored : Stored (fun q _ => place cache <+: q) gs files)
    (hlinkless : Linkless files) (hintact : Intact content (place cache) files) :
    Located content cache changed w u files :=
  { hat with stored := hat.stored.trans hstored, linkless := hlinkless, intact := hintact }

lemma moves : Moves content (place cache) u.cwd changed u.files gs where
  covered := hat.regular.covered
  linkless := hat.linkless
  intact := hat.regular.intact
  intact' := hat.intact
  named := hat.resumes.named
  kept := hat.resumes.kept.trans_grown hat.stored.grown
  elsewhere := by
    intro root hroot hroot' b hb
    rw [hat.stored.below_eq root fun q _ hq hwithin => ?_] at hb
    · exact hat.resumes.elsewhere root hroot hroot' b hb
    · exact (List.prefix_or_prefix_of_prefix hwithin hq).elim hroot hroot'

lemma regular_again : Regular content cache (w.withFiles gs) :=
  ⟨hat.resumes.cwd ▸ hat.regular.rooted, hat.regular.absolute, hat.resumes.honest,
    hat.regular.plain, hat.stored.covered hat.resumes.covered, hat.linkless, hat.intact⟩

/-- Directories are where they were. -/
lemma lookup_directory {q : Place} (hq : ∀ c ∈ q, IsName c)
    (h : u.files.lookup u.cwd (pathOf q) = .ok (q, .directory)) :
    gs.lookup w.cwd (pathOf q) = .ok (q, .directory) := by
  obtain ⟨-, f, hf, rfl | ⟨-, ⟨old, hold⟩, -⟩⟩ := hat.moves.lookup (.same q) hq h
  · rwa [hat.resumes.cwd]
  · cases hold

/-- The manifest in the twin of a package. -/
lemma load {q q' : Place} (hq : ∀ c ∈ q, IsName c) (htwin : Twin (place cache) gs q q')
    (hload : Manifest.load u (Path.join [pathOf q, Manifest.fileName]) = .ok m) :
    (∃ file, u.files.get? (q ++ [Manifest.fileName]) = some (.file file)) ∧
      ∃ m', Manifest.load (w.withFiles gs) (Path.join [pathOf q', Manifest.fileName]) = .ok m' ∧
        m.Moved (place cache) gs m' := by
  have hmoves : Moves content (place cache) u.cwd changed u.files (w.withFiles gs).files :=
    hat.moves
  obtain ⟨hpath, hfile, hload'⟩ := hmoves.load hat.regular.rooted hat.resumes.cwd
    hat.resumes.codec hat.resumes.noManifest htwin hq hload
  refine ⟨hfile, _, hload', rfl, q, q', hq, htwin, ?_, ?_⟩
  · rw [Manifest.dir, hpath, Path.dir_pathOf hq Manifest.isName_fileName]
  · exact Path.dir_pathOf (htwin.isName hq) Manifest.isName_fileName

/-- A dependency that is given by its path. -/
lemma relocated_path (hd : d.path.isEmpty = false)
    (howner : owner.Moved (place cache) gs owner')
    (hmat : Resolution.locatePath ⟨u, [], [], []⟩ owner name d = .ok found)
    (hload : Manifest.load u (Path.join [found.dir, Manifest.fileName]) = .ok m)
    (hclear : (Resolution.withVersion found.package m).normalize.Clear cache) :
    ∃ files found' m', Relocated content cache lock w gs owner' name d
      (Resolution.withVersion found.package m) m files found' m' := by
  obtain ⟨checksum, hsum, rfl⟩ := locatePath_eq_ok_iff.mp hmat
  obtain ⟨q, q', hq, htwin, hdir, hdir'⟩ := howner.dirFrom hd
  dsimp only at hsum hload
  rw [hdir] at hsum hload
  obtain ⟨⟨file, hfile⟩, m', hload', hmoved⟩ := hat.load hq htwin hload
  have hout : ¬ q <+: place cache := by
    obtain ⟨version, hversion⟩ := withVersion_eq
      ⟨Segment.sanitize name, "", "path+" ++ d.dirFrom owner, checksum⟩ m
    rw [hversion] at hclear
    have happart := hclear.apart (d.dirFrom owner) rfl
    rwa [hdir, FileSystem.placeOf, Path.cleanComponents_of_isAbsolute (Path.isAbsolute_pathOf q),
      Path.walk_pathOf hq] at happart
  obtain ⟨checksum', hsum'⟩ := hat.moves.exists_ofPath htwin hq hout hfile hsum
  rw [← hat.resumes.cwd, ← hdir'] at hsum'
  rw [← hdir'] at hload'
  refine ⟨gs, ⟨d.dirFrom owner', ⟨Segment.sanitize name, "", "path+" ++ d.dirFrom owner',
    checksum'⟩⟩, m', .refl, hat.linkless, hat.intact, hmoved, repeats_of_path _ _ _ _ _ _ _, hload',
    fun git _ _ => ?_⟩
  rw [materialise_path hd]
  exact Prod.ext (locatePath_eq_ok_iff.mpr ⟨checksum', hsum', rfl⟩) rfl

section

variable (hname : Nameable name) (hd : d.path.isEmpty = true)
  (haddress : d.git.trim.isEmpty = false) (hfetched : Cache.FetchedAt d version commit)
  (hnames : Names (Segment.directoryName version) hash.text) (ht : content hash = some t)
  (hfits : t.FitsAt (Cache.versionDir (Cache.packageDir cache name) version))
  (hfind : lock.find? name = some ⟨Segment.sanitize name, version,
    Lockfile.gitSource d.git.trim commit, t.checksum⟩)
  (hload : Manifest.load u (Path.join [Cache.versionDir (Cache.packageDir cache name) version,
    Manifest.fileName]) = .ok m)

include hname hd haddress hfetched hnames ht hfits hfind hload

/-- A version that was in the cache is taken from there once more. -/
lemma relocated_there (hcommit : commit = version) (hrev : d.rev.trim = version)
    (hlookup : gs.lookup w.cwd (Cache.versionDir (Cache.packageDir cache name) version) =
      .ok (place cache ++ [Segment.directoryName name, Segment.directoryName version],
        .directory)) :
    ∃ files found' m', Relocated content cache lock w gs owner' name d
      ⟨Segment.sanitize name, version, Lockfile.gitSource d.git.trim commit, t.checksum⟩
      m files found' m' := by
  have hcache := hat.regular.isEmpty_cache
  have hversion := Segment.isName_of_names hnames
  have hfetch : ∀ (d' : Dependency) (git : Git), git.Honest content → d'.git.trim = d.git.trim →
      d'.rev.trim = version → Cache.fetch cache name d' ((w.withFiles gs).withGit git) =
        (.ok ⟨Cache.versionDir (Cache.packageDir cache name) version, ⟨Segment.sanitize name,
          version, Lockfile.gitSource d.git.trim commit, t.checksum⟩⟩,
          (w.withFiles gs).withGit git) := by
    intro d' git hgit haddress' hrev'
    rw [(hat.regular_again.withGit hgit).fetch_there hname (haddress' ▸ haddress) hrev'
      hfetched.version_nonempty hnames ht hlookup hfits, haddress', hcommit]
  rw [Cache.versionDir_eq_pathOf hat.regular.absolute hname.isName hversion] at hload
  obtain ⟨-, m', hload', hmoved⟩ := hat.load
    (Cache.isName_versionPlace hat.regular.absolute hname.isName hversion) (.same _) hload
  rw [← Cache.versionDir_eq_pathOf hat.regular.absolute hname.isName hversion] at hload'
  refine ⟨gs, ⟨Cache.versionDir (Cache.packageDir cache name) version, ⟨Segment.sanitize name,
    version, Lockfile.gitSource d.git.trim commit, t.checksum⟩⟩, m', .refl, hat.linkless,
    hat.intact, hmoved, ?_, hload', fun git hgit _ => ?_⟩
  · rw [withVersion_of_nonempty hfetched.version_nonempty]
    exact .of_normalize (normalize_fetched hfetched t)
  · by_cases hmark : Glyph.char '@' ∈ commit.toList
    · exact materialise_unpinned hcache hd (Lockfile.pinned_eq_none hfind rfl hmark)
        (hfetch d git hgit rfl hrev)
    · exact materialise_pinned hcache hd (Lockfile.pinned_of_find? hfind rfl hmark)
        hfetched.commit_nonempty (hfetch ⟨"", d.git, commit, "", ""⟩ git hgit rfl
          (hfetched.commit_trim.trans hcommit))

/-- A commit that was fetched is fetched once more, into a directory that is named for it alone. -/
lemma relocated_commit (hcommit : commit = hash.text)
    (hbase : gs.lookup w.cwd (Cache.packageDir cache name) =
      .ok (place cache ++ [Segment.directoryName name], .directory)) :
    ∃ files found' m', Relocated content cache lock w gs owner' name d
      ⟨Segment.sanitize name, version, Lockfile.gitSource d.git.trim commit, t.checksum⟩
      m files found' m' := by
  subst hcommit
  have habsolute := hat.regular.absolute
  have hversion := Segment.isName_of_names hnames
  have hself := Segment.directoryName_hash hash.isHash
  have hhash : IsName (Segment.directoryName hash.text) := hself.symm ▸ hash.isHash.isName
  obtain ⟨files, hstored, hlinkless, hintact, hthere, hfetch⟩ :=
    hat.regular_again.fetch_hash hname hbase haddress ht
      (Cache.fitsAt_hash habsolute hname.isName hnames hfits)
  have htwin : Twin (place cache) files
      (place cache ++ [Segment.directoryName name, Segment.directoryName version])
      (place cache ++ [Segment.directoryName name, Segment.directoryName hash.text]) := by
    rw [hself]
    exact .moved [] hnames hthere
  rw [Cache.versionDir_eq_pathOf habsolute hname.isName hversion] at hload
  obtain ⟨-, m', hload', hmoved⟩ := (hat.withFiles hstored hlinkless hintact).load
    (Cache.isName_versionPlace habsolute hname.isName hversion) htwin hload
  rw [← Cache.versionDir_eq_pathOf habsolute hname.isName hhash] at hload'
  refine ⟨files, ⟨Cache.versionDir (Cache.packageDir cache name) hash.text, ⟨Segment.sanitize name,
    version, Lockfile.gitSource d.git.trim hash.text, t.checksum⟩⟩, m', hstored, hlinkless, hintact,
    hmoved, ?_, hload', fun git hgit hserved => ?_⟩
  · rw [withVersion_of_nonempty hfetched.version_nonempty]
    exact .of_normalize (normalize_fetched hfetched t)
  · have hoffers := hserved _ (List.mem_of_find?_eq_some hfind) name d.git.trim hash rfl rfl gs
      hat.stored
    exact materialise_pinned hat.regular.isEmpty_cache hd
      (Lockfile.pinned_of_find? hfind rfl (hash.isHash.not_mem (by decide))) hash.isHash.nonempty
      (hfetch git hgit hoffers)

end

/-- A dependency that is in the cache or in a repository. -/
lemma relocated_fetched {checksum : Text} (hname : Nameable name) (hd : d.path.isEmpty = true)
    (haddress : d.git.trim.isEmpty = false) (hfetched : Cache.FetchedAt d version commit)
    (hopened : Cache.Opened content cache name u (place cache))
    (hchecksum : Checksum.ofPath u.files u.cwd
      (Cache.versionDir (Cache.packageDir cache name) version) = .ok checksum)
    (hfind : lock.find? name = some (LockedPackage.normalize ⟨Segment.sanitize name, version,
      Lockfile.gitSource d.git.trim commit, checksum⟩))
    (hload : Manifest.load u (Path.join [Cache.versionDir (Cache.packageDir cache name) version,
      Manifest.fileName]) = .ok m) :
    ∃ files found' m', Relocated content cache lock w gs owner' name d
      ⟨Segment.sanitize name, version, Lockfile.gitSource d.git.trim commit, checksum⟩
      m files found' m' := by
  obtain ⟨hash, t, hnames, ht, hlookup, hholds⟩ :=
    hat.regular.checkout_of_load hname.isName hload
  obtain ⟨hfits, rfl⟩ := hat.regular.fitsAt_of_ofPath hname.isName hopened hnames ht hlookup
    hholds hchecksum
  rw [normalize_fetched hfetched] at hfind
  have habsolute := hat.regular.absolute
  have hversion := Segment.isName_of_names hnames
  rcases hfetched.kind with ⟨hrev, hcommit⟩ | hcommit
  · refine hat.relocated_there hname hd haddress hfetched hnames ht hfits hfind hload
      (hcommit.trans hrev.symm) hrev.symm ?_
    rw [Cache.versionDir_eq_pathOf habsolute hname.isName hversion] at hlookup ⊢
    exact hat.lookup_directory (Cache.isName_versionPlace habsolute hname.isName hversion) hlookup
  · have hbase := hopened.base
    rw [Cache.packageDir_eq_pathOf habsolute hname.isName] at hbase
    refine hat.relocated_commit hname hd haddress hfetched hnames ht hfits hfind hload
      (hcommit.unique hnames) ?_
    rw [Cache.packageDir_eq_pathOf habsolute hname.isName]
    exact hat.lookup_directory (Cache.isName_packagePlace habsolute hname.isName) hbase

/-- A dependency that was located is located once more, at the same commit if it was fetched. -/
lemma relocated (hu : Regular content cache u₀) (hname : d.path.isEmpty = true → Nameable name)
    (hmat : materialise (Fetcher.cached cache) none owner name d u₀ = (.ok found, u))
    (hload : Manifest.load u (Path.join [found.dir, Manifest.fileName]) = .ok m)
    (howner : owner.Moved (place cache) gs owner')
    (hclear : (Resolution.withVersion found.package m).normalize.Clear cache)
    (hfind : lock.find? name = some (Resolution.withVersion found.package m).normalize) :
    ∃ files found' m', Relocated content cache lock w gs owner' name d
      (Resolution.withVersion found.package m) m files found' m' := by
  cases hd : d.path.isEmpty with
  | false =>
      rw [materialise_path hd] at hmat
      obtain ⟨hlocate, rfl⟩ := Prod.mk.inj hmat
      exact hat.relocated_path hd howner hlocate hload hclear
  | true =>
      obtain ⟨-, -, -, hopened, haddress, version, commit, checksum, hfetched, hchecksum, rfl⟩ :=
        hu.fetch_eq_ok (hname hd) (fetch_of_materialise hd hmat).2
      rw [withVersion_of_nonempty hfetched.version_nonempty] at hfind ⊢
      exact hat.relocated_fetched (hname hd) hd haddress hfetched hopened hchecksum hfind hload

end Located

end

end PocketScheme
