import PocketScheme.Proofs.FileSystem.Linkless
import PocketScheme.Proofs.Package.Footprint
import PocketScheme.Proofs.Package.Relocation
import PocketScheme.Proofs.Package.Transparency

/-!
Fetching in worlds without links, with a cache whose path starts at the root. There the paths of
the cache name the places of its checkouts.

* `Cache.place`: the place of the directory that checkouts are kept in;
* `Cache.Regular`: worlds without links in which the cache is intact;
* `Cache.Regular.fetch_eq_ok`: what a fetch that works leaves behind there;
* `Cache.Regular.checkout_of_load`: a version with a manifest is the checkout of a commit;
* `Cache.Regular.fetch_there`, `Cache.Regular.fetch_hash`: what is fetched by its version or by the
  hash of its commit.
-/

namespace PocketScheme

open PocketScheme.Path (IsName reach)
open PocketScheme.Manifest (pathOf)

/-- The world with another version control. -/
def World.withGit (w : World) (git : Git) : World :=
  { w with git := git }

namespace Cache

open PocketScheme.FileSystem (Covered Stored Linkless)

variable {content : Contents} {cache name version commit address : Text} {d : Dependency}
  {w w' : World} {src q : Place} {fs gs : FileSystem} {hash : Hash} {t : Tree}

/-! ### Places of the cache -/

/-- The place of the directory that the cache keeps checkouts in. -/
def place (cache : Text) : Place :=
  FileSystem.placeOf (sourceDir cache)

section

variable (hcache : Path.isAbsolute cache = true)

include hcache

lemma sourceDir_eq_pathOf : sourceDir cache = pathOf (place cache) := by
  have habs : Path.isAbsolute (cache ++ "/" ++ "src") = true := by
    rw [Path.isAbsolute_slash (Path.isEmpty_of_isAbsolute hcache), hcache]
  rw [place, FileSystem.placeOf, sourceDir_eq (Path.isEmpty_of_isAbsolute hcache),
    Path.cleanComponents_clean, Path.cleanComponents_of_isAbsolute habs,
    Path.clean_of_isAbsolute habs]

lemma isName_place : ∀ c ∈ place cache, IsName c := by
  refine Path.isName_cleanComponents ?_
  rw [sourceDir_eq_pathOf hcache]
  rfl

variable (hname : IsName (Segment.directoryName name))

include hname

lemma isName_packagePlace : ∀ c ∈ place cache ++ [Segment.directoryName name], IsName c :=
  List.forall_mem_append.mpr ⟨isName_place hcache, List.forall_mem_singleton.mpr hname⟩

lemma packageDir_eq_pathOf :
    packageDir cache name = pathOf (place cache ++ [Segment.directoryName name]) := by
  have hempty := Path.isEmpty_of_isAbsolute hcache
  have habs : Path.isAbsolute (cache ++ "/" ++ "src") = true := by
    rw [Path.isAbsolute_slash hempty, hcache]
  rw [packageDir_eq hempty, Path.clean_of_isAbsolute
    (by rw [Path.isAbsolute_slash (isEmpty_src cache), habs]),
    ← Path.cleanComponents_of_isAbsolute
      (by rw [Path.isAbsolute_slash (isEmpty_src cache), habs]),
    Path.cleanComponents_slash_name (isEmpty_src cache) hname, place, FileSystem.placeOf,
    sourceDir_eq hempty, Path.cleanComponents_clean]

/-- The directory of a version, whatever its name. -/
lemma versionDir_eq_walk (version : Text) : versionDir (packageDir cache name) version =
    pathOf (Path.step (place cache ++ [Segment.directoryName name])
      (Segment.directoryName version)) := by
  rw [versionDir, packageDir_eq_pathOf hcache hname,
    Path.join_pathOf (isName_packagePlace hcache hname) (Segment.isEmpty_directoryName version),
    Path.components_name (Segment.slash_free_directoryName version), Path.walk_cons, Path.walk_nil]

lemma versionDir_eq_pathOf (hversion : IsName (Segment.directoryName version)) :
    versionDir (packageDir cache name) version =
      pathOf (place cache ++ [Segment.directoryName name, Segment.directoryName version]) := by
  rw [versionDir_eq_walk hcache hname, hversion.step, List.append_assoc]
  rfl

lemma isName_versionPlace (hversion : IsName (Segment.directoryName version)) :
    ∀ c ∈ place cache ++ [Segment.directoryName name, Segment.directoryName version],
      IsName c := by
  rw [List.append_cons]
  exact List.forall_mem_append.mpr
    ⟨isName_packagePlace hcache hname, List.forall_mem_singleton.mpr hversion⟩

/-- A tree fits into the directory that is named for its commit alone if it fits into any that is
named for it. -/
lemma fitsAt_hash (hnames : Names (Segment.directoryName version) hash.text)
    (hfits : t.FitsAt (versionDir (packageDir cache name) version)) :
    t.FitsAt (versionDir (packageDir cache name) hash.text) := by
  have hversion := Segment.isName_of_names hnames
  have hhash := Segment.directoryName_hash hash.isHash
  have hself : IsName (Segment.directoryName hash.text) := hhash.symm ▸ hash.isHash.isName
  intro b hb hpassed
  have hlong := hfits b hb hpassed
  have hmem : b ∈ t.checkedOut := FileSystem.below_nil t.checkedOut ▸ (Checksum.mem_visits.mp hb).1
  have hrel : ∀ c ∈ b.1, IsName c := fun c hc => (Tree.named_of_mem hmem c hc).1
  obtain ⟨cs, -, hcs, hpath⟩ := Checksum.exists_pathTo b.1
  obtain rfl := hcs hrel
  rw [versionDir_eq_pathOf hcache hname hversion,
    hpath _ (isName_versionPlace hcache hname hversion), Path.walk_names hrel, List.append_cons,
    List.append_assoc, List.singleton_append] at hlong
  rw [versionDir_eq_pathOf hcache hname hself, hpath _ (isName_versionPlace hcache hname hself),
    Path.walk_names hrel, List.append_cons, List.append_assoc, List.singleton_append, hhash]
  exact hlong.replace hnames.length_bytes_le (hash.isHash.not_mem (by decide))

end

/-! ### Regular worlds -/

/-- A world without links, in which checking out a commit gives what its hash stands for and the
cache, whose path starts at the root, is intact. -/
structure Regular (content : Contents) (cache : Text) (w : World) : Prop where
  rooted : Path.isAbsolute w.cwd = true
  absolute : Path.isAbsolute cache = true
  honest : w.git.Honest content
  plain : ∀ h t, content h = some t → t.IsPlain
  covered : Covered w.files
  linkless : Linkless w.files
  intact : Intact content (place cache) w.files

/-- Something is on the way to a place, or below it. -/
def Around (src q : Place) : Prop :=
  q <+: src ∨ src <+: q

lemma around_concat {n : Text} (h : q <+: src ++ [n]) : Around src q := by
  rcases List.prefix_concat_iff.mp h with rfl | h
  · exact .inr (List.prefix_append _ _)
  · exact .inl h

/-- What a fetch puts anywhere is around the checkouts. -/
lemma around_of_puts (hcache : Path.isAbsolute cache = true)
    (hname : IsName (Segment.directoryName name)) (hgs : Linkless gs) {cwd : Text} {e : Entry}
    (h : Puts cwd (packageDir cache name) fs gs q e) : Around (place cache) q := by
  have hnames := isName_packagePlace hcache hname
  rw [packageDir_eq_pathOf hcache hname] at h
  rcases h with ⟨-, t, ht, hlookup⟩ | ⟨dir, v, hash, hlookup, -, -, hq⟩
  · have hcomponents : Path.cleanComponents (pathOf (place cache ++
        [Segment.directoryName name])) = place cache ++ [Segment.directoryName name] := by
      rw [Path.cleanComponents_of_isAbsolute rfl, Path.walk_pathOf hnames]
    rw [FileSystem.steps_eq, hcomponents] at ht
    obtain ⟨n, -, rfl⟩ := List.mem_map.mp ht
    have hfront : ∀ c ∈ (place cache ++ [Segment.directoryName name]).take (n + 1), IsName c :=
      fun c hc => hnames c (List.mem_of_mem_take hc)
    obtain ⟨-, -, rfl, -⟩ := (hgs.lookup_pathOf_iff hfront).mp hlookup
    exact around_concat (List.take_prefix _ _)
  · obtain ⟨-, -, rfl, -⟩ := (hgs.lookup_pathOf_iff hnames).mp hlookup
    rw [List.append_assoc] at hq
    exact .inr ((List.prefix_append _ _).trans hq)

lemma At.eq_place (hcache : Path.isAbsolute cache = true) (hfs : Linkless w.files)
    (h : At cache w src) : src = place cache := by
  rw [At, sourceDir_eq_pathOf hcache] at h
  exact ((hfs.lookup_pathOf_iff (isName_place hcache)).mp h).2.2.1.symm

/-- A checkout without links adds none. -/
lemma linkless_lay (hfs : Linkless fs) (ht : t.IsPlain) (hq : q ≠ []) :
    Linkless (fs.lay q t) := by
  intro p target hget
  by_cases hp : q <+: p
  · obtain ⟨rest, rfl⟩ := hp
    have hlaid : (fs.lay q t).get? (q ++ rest) = List.lookup rest t.checkedOut :=
      FileSystem.get?_graft_append hq
    rw [hlaid] at hget
    obtain ⟨before, after, hsplit, -⟩ := List.lookup_eq_some_iff.mp hget
    have hmem : (rest, Entry.link target) ∈ t.checkedOut := by simp [hsplit]
    cases ht.of_mem hmem
  · rw [FileSystem.lay, FileSystem.get?_graft_of_not hp] at hget
    exact hfs p target hget

/-- Neither do directories. -/
lemma OnlyDirectories.linkless (h : OnlyDirectories cache name w w') (hw : Linkless w.files) :
    Linkless w'.files := by
  intro p target hget
  rcases h.get? p with heq | ⟨-, hdir, -⟩
  · rw [heq] at hget
    exact hw p target hget
  · rw [hdir] at hget
    cases hget

lemma Nameable.of_isName (h : IsName (Segment.directoryName name)) : Nameable name := by
  have hsame : ∀ t : Text, name.trim = t →
      Segment.directoryName name = Segment.directoryName t := by
    rintro t rfl
    rw [Segment.directoryName, Segment.directoryName, Text.trim_trim]
  exact ⟨fun hhere => h.ne_here (hsame _ hhere), fun hup => h.ne_up (hsame _ hup)⟩

namespace Regular

variable (hw : Regular content cache w)

include hw

lemma isEmpty_cache : cache.isEmpty = false :=
  Path.isEmpty_of_isAbsolute hw.absolute

lemma sound : Sound content cache w :=
  ⟨hw.honest, hw.covered, fun _ h => h.eq_place hw.absolute hw.linkless ▸ hw.intact⟩

lemma withFiles (hcovered : Covered fs) (hlinkless : Linkless fs)
    (hintact : Intact content (place cache) fs) : Regular content cache (w.withFiles fs) :=
  ⟨hw.rooted, hw.absolute, hw.honest, hw.plain, hcovered, hlinkless, hintact⟩

/-- A fetch that works leaves a regular world behind, puts nothing anywhere but around the
checkouts, and comes with a version and its checksum. -/
lemma fetch_eq_ok (hname : Nameable name) {found : Fetched}
    (h : fetch cache name d w = (.ok found, w')) :
    Regular content cache w' ∧ w' = w.withFiles w'.files ∧
      Stored (fun q _ => Around (place cache) q) w.files w'.files ∧
      Opened content cache name w' (place cache) ∧ d.git.trim.isEmpty = false ∧
      ∃ version commit checksum, FetchedAt d version commit ∧
        Checksum.ofPath w'.files w'.cwd (versionDir (packageDir cache name) version) =
          .ok checksum ∧
        found = ⟨versionDir (packageDir cache name) version,
          ⟨Segment.sanitize name, version, Lockfile.gitSource d.git.trim commit, checksum⟩⟩ := by
  obtain ⟨haddress, version, commit, checksum, hensure, hchecksum, rfl⟩ := Cache.fetch_eq_ok h
  obtain ⟨hfetched, -, made, src, hmade, hopened, hcases⟩ :=
    hw.sound.ensured hw.isEmpty_cache hname hensure
  have hlinkless : Linkless w'.files := by
    have hdirs := hmade.linkless hw.linkless
    rcases hcases with rfl | ⟨hash, t, hadded⟩
    · exact hdirs
    · rw [hadded.added]
      exact linkless_lay hdirs (hw.plain hash t hadded.content_eq) (by simp)
  obtain rfl := hopened.at_.eq_place hw.absolute hlinkless
  obtain ⟨files, hfiles, hstored⟩ := fetch_stored hw.covered hw.isEmpty_cache name d
  rw [h] at hfiles
  obtain rfl : w' = w.withFiles files := hfiles
  refine ⟨hw.withFiles (hstored.covered hw.covered) hlinkless
    (hopened.sound.intact _ hopened.at_), rfl, hstored.mono fun q e hq => ?_, hopened, haddress,
    version, commit, checksum, hfetched, hchecksum, rfl⟩
  exact around_of_puts hw.absolute hname.isName hlinkless hq

/-- A version with a manifest is the checkout of a commit. Neither the cache nor the directory of a
dependency has a manifest of its own. -/
lemma checkout_of_load (hname : IsName (Segment.directoryName name)) {m : Manifest}
    (hload : Manifest.load w (Path.join [versionDir (packageDir cache name) version,
      Manifest.fileName]) = .ok m) :
    ∃ hash t, Names (Segment.directoryName version) hash.text ∧ content hash = some t ∧
      w.files.lookup w.cwd (versionDir (packageDir cache name) version) =
        .ok (place cache ++ [Segment.directoryName name, Segment.directoryName version],
          .directory) ∧
      w.files.below (place cache ++ [Segment.directoryName name, Segment.directoryName version]) =
        t.checkedOut := by
  have hbase := isName_packagePlace hw.absolute hname
  have hslash := Segment.slash_free_directoryName version
  have hdir := Path.isName_step hbase hslash
  rw [versionDir_eq_walk hw.absolute hname] at hload ⊢
  obtain ⟨p, file, hlookup, -⟩ := (Manifest.load_in_iff hw.rooted hdir).mp hload
  obtain ⟨hleads, hget⟩ := FileSystem.lookup_eq_ok_iff.mp hlookup
  obtain ⟨-, -, dir, hdirectory, -⟩ :=
    (FileSystem.inDir_pathOf hdir Manifest.isName_fileName).of_leads hleads
  have hnames : ∀ c ∈ Path.step (place cache ++ [Segment.directoryName name])
      (Segment.directoryName version) ++ [Manifest.fileName], IsName c :=
    List.forall_mem_append.mpr ⟨hdir, List.forall_mem_singleton.mpr Manifest.isName_fileName⟩
  obtain ⟨-, -, rfl, -⟩ := (hw.linkless.lookup_pathOf_iff hnames).mp hlookup
  obtain ⟨-, -, rfl, hget'⟩ := (hw.linkless.lookup_pathOf_iff hdir).mp hdirectory
  rcases Path.component_cases hslash with hstay | hup | hversion
  · rw [Path.step, if_pos hstay, List.append_assoc, List.singleton_append] at hget
    obtain ⟨hash, -, hnames, -⟩ := hw.intact.checkout (Segment.directoryName name)
      Manifest.fileName (by rw [hget]; simp)
    exact absurd rfl (hnames.ne (t := Manifest.fileName) (by decide))
  · rw [hup, Path.step_up, List.dropLast_concat] at hget
    cases hw.intact.directory _ _ hget
  · rw [hversion.step, List.append_assoc, List.singleton_append] at hget' hdirectory ⊢
    obtain ⟨hash, t, hnames, ht, hholds⟩ := hw.intact.checkout _ _ (by rw [hget']; simp)
    exact ⟨hash, t, hnames, ht, hdirectory, hholds⟩

/-- The checksum of a checkout is that of its tree, which fits in there. -/
lemma fitsAt_of_ofPath (hname : IsName (Segment.directoryName name))
    (hopened : Opened content cache name w (place cache)) {checksum : Text}
    (hnames : Names (Segment.directoryName version) hash.text) (ht : content hash = some t)
    {e : Entry} (hlookup : w.files.lookup w.cwd (versionDir (packageDir cache name) version) =
      .ok (q, e)) (hholds : w.files.below q = t.checkedOut)
    (h : Checksum.ofPath w.files w.cwd (versionDir (packageDir cache name) version) =
      .ok checksum) :
    t.FitsAt (versionDir (packageDir cache name) version) ∧ checksum = t.checksum := by
  obtain ⟨hfits, hunfit⟩ := hopened.ofPath_checkout hw.isEmpty_cache hname hnames
    (hw.plain hash t ht) hlookup hholds
  by_cases hfit : t.FitsAt (versionDir (packageDir cache name) version)
  · rw [hfits hfit] at h
    exact ⟨hfit, (Except.ok.inj h).symm⟩
  · obtain ⟨fault, hfault⟩ := hunfit hfit
    rw [hfault] at h
    cases h

/-- A version that is in the cache is fetched from there by its name. -/
lemma fetch_there (hname : Nameable name) (haddress : d.git.trim.isEmpty = false)
    (hrev : d.rev.trim = version) (hne : version.isEmpty = false)
    (hnames : Names (Segment.directoryName version) hash.text) (ht : content hash = some t)
    {e : Entry} (hlookup : w.files.lookup w.cwd (versionDir (packageDir cache name) version) =
      .ok (q, e)) (hfits : t.FitsAt (versionDir (packageDir cache name) version)) :
    fetch cache name d w = (.ok ⟨versionDir (packageDir cache name) version,
      ⟨Segment.sanitize name, version, Lockfile.gitSource d.git.trim version, t.checksum⟩⟩, w) := by
  subst hrev
  have hnameable : Nameable d.rev := by
    have hnameable := Nameable.of_isName (Segment.isName_of_names hnames)
    rwa [Nameable, Text.trim_trim] at hnameable
  obtain ⟨hash', t', hnames', ht', hworld, -, hfound⟩ := hw.sound.fetch_there hw.isEmpty_cache
    hname hnameable haddress ⟨hne, isThere_of_lookup hlookup⟩
  obtain rfl : hash' = hash := Hash.eq_of_text (hnames'.unique hnames)
  obtain rfl : t' = t := Option.some.inj (ht'.symm.trans ht)
  exact Prod.ext ((hfound (hw.plain hash' t' ht) _).mpr ⟨hfits, rfl⟩) hworld

/-- The directory of a dependency is in that of the cache. -/
lemma opened (hname : IsName (Segment.directoryName name))
    (hbase : w.files.lookup w.cwd (packageDir cache name) =
      .ok (place cache ++ [Segment.directoryName name], .directory)) :
    Opened content cache name w (place cache) := by
  obtain ⟨-, -, src, hsrc, -⟩ := (inDir_packageDir hw.isEmpty_cache hname).of_leads
    (FileSystem.lookup_eq_ok_iff.mp hbase).1
  obtain rfl := At.eq_place hw.absolute hw.linkless hsrc
  exact ⟨hw.sound, hsrc, hbase⟩

lemma withGit {git : Git} (hgit : git.Honest content) : Regular content cache (w.withGit git) :=
  ⟨hw.rooted, hw.absolute, hgit, hw.plain, hw.covered, hw.linkless, hw.intact⟩

end Regular

/-- The version control has a commit of the repository at an address, and can check it out. -/
def Offers (git : Git) (host : Host) (address draft : Text) (hash : Hash) : Prop :=
  ∃ c tree t, git.clone host address draft = .ok c ∧ c.resolve hash.text = .ok hash ∧
    c.worktree = .ok tree ∧ tree.checkout hash = (.ok (), t)

namespace Regular

variable (hw : Regular content cache w) (hname : Nameable name)
  (hbase : w.files.lookup w.cwd (packageDir cache name) =
    .ok (place cache ++ [Segment.directoryName name], .directory))
  (haddress : address.trim.isEmpty = false) (ht : content hash = some t)
  (hfits : t.FitsAt (versionDir (packageDir cache name) hash.text))

include hw hname hbase haddress ht hfits

/-- A commit that is not in the cache is fetched by its hash from a clone. -/
lemma fetch_new (hfree : w.files.get?
      (place cache ++ [Segment.directoryName name, Segment.directoryName hash.text]) = none)
    (hoffers : ∀ k q, w.files.followTo w.cwd (draftPath (packageDir cache name) k) = .free q →
      Offers w.git w.toHost address.trim (draftPath (packageDir cache name) k) hash) :
    fetch cache name ⟨"", address, hash.text, "", ""⟩ w =
      (.ok ⟨versionDir (packageDir cache name) hash.text,
        ⟨Segment.sanitize name, hash.text, Lockfile.gitSource address.trim hash.text,
          t.checksum⟩⟩,
        w.withFiles (w.files.lay
          (place cache ++ [Segment.directoryName name, Segment.directoryName hash.text]) t)) := by
  have hcache := hw.isEmpty_cache
  have hself := Segment.directoryName_hash hash.isHash
  have hnames : Names (Segment.directoryName hash.text) hash.text :=
    hself.symm ▸ .self hash.isHash
  have hversion := Segment.isName_of_names hnames
  have hskip : ¬ isThere w (versionDir (packageDir cache name) hash.text) = true := by
    intro hthere
    obtain ⟨q, e, hlookup⟩ := lookup_of_isThere hthere
    obtain ⟨-, hget, -⟩ :=
      ((hw.opened hname.isName hbase).lookup_versionDir_iff hcache hversion).mp hlookup
    exact absurd (hfree.symm.trans hget) (by simp)
  have hmake : w.files.makeDirs w.cwd (packageDir cache name) = (.ok (), w.files) :=
    FileSystem.makeDirs_of_lookup (cleanComponents_packageDir hcache hname.isName)
      ((clean_packageDir hcache name).symm ▸ hbase) rfl
  have hrevision : (⟨"", address, hash.text, "", ""⟩ : Dependency).revision =
      .ok (hash.text, hash.text) := by
    rw [revision_of_rev (by rw [hash.isHash.trim]; exact hash.isHash.nonempty), hash.isHash.trim]
  obtain ⟨src, hopened, hdrafted, hobtains⟩ := hw.sound.ensure_eq_obtain
    (d := ⟨"", address, hash.text, "", ""⟩) hcache hname (Nameable.of_isName hversion)
    (fun hrev => hskip (hash.isHash.trim ▸ hrev.2)) hmake hrevision
    (fits_draftPath (isEmpty_packageDir hcache name) hnames
      (versionDir_eq hcache hname.isName hversion ▸ hfits.fits) _) address.trim
  obtain rfl := hopened.at_.eq_place hw.absolute hw.linkless
  -- the clone checks out the tree that the hash stands for
  obtain ⟨c, tree, t', hclone, hresolve, htree, hcheckout⟩ := hoffers _ _ hdrafted.followTo
  obtain rfl : t' = t :=
    Option.some.inj ((hw.honest _ _ _ c hclone tree hash t' htree hcheckout).symm.trans ht)
  have hpinned := pinnedVersion_self hash.isHash
  have hnames' : Names (Segment.directoryName (pinnedVersion hash.text hash.text)) hash.text := by
    rwa [hpinned]
  have hshort : (Segment.directoryName (pinnedVersion hash.text hash.text)).bytes.length ≤
      FileSystem.nameLimit := by
    rw [hpinned, hself]
    exact hash.isHash.length_bytes_le
  obtain ⟨w', hobtain, hfiles⟩ := hopened.obtain_eq_ok hcache hdrafted hclone hresolve htree
    hcheckout hnames' (hpinned.symm ▸ hfits.fits) hshort
  rw [hpinned] at hobtain hfiles
  obtain ⟨hash', t'', hnames'', ht'', -, hresult⟩ := hw.sound.fetch_ensured
    (d := ⟨"", address, hash.text, "", ""⟩) hcache hname haddress (hobtains.trans hobtain) hversion
  obtain rfl : hash' = hash := Hash.eq_of_text (hnames''.unique hnames)
  obtain rfl : t'' = t' := Option.some.inj (ht''.symm.trans ht)
  rw [(hresult (hw.plain hash' t'' ht)).1 hfits, hfiles.resolve_left hskip]
  rfl

/-- A commit is fetched by its hash into a directory that is named for it, or is there already. What
the cache has then does not depend on the version control that offers the commit. -/
lemma fetch_hash :
    ∃ files, Stored (fun q _ => place cache <+: q) w.files files ∧ Linkless files ∧
      Intact content (place cache) files ∧
      files.get? (place cache ++ [Segment.directoryName name, hash.text]) ≠ none ∧
      ∀ git, git.Honest content →
        (∀ k q, w.files.followTo w.cwd (draftPath (packageDir cache name) k) = .free q →
          Offers git w.toHost address.trim (draftPath (packageDir cache name) k) hash) →
        fetch cache name ⟨"", address, hash.text, "", ""⟩ (w.withGit git) =
          (.ok ⟨versionDir (packageDir cache name) hash.text,
            ⟨Segment.sanitize name, hash.text, Lockfile.gitSource address.trim hash.text,
              t.checksum⟩⟩, (w.withFiles files).withGit git) := by
  have hself := Segment.directoryName_hash hash.isHash
  have hnames : Names (Segment.directoryName hash.text) hash.text :=
    hself.symm ▸ .self hash.isHash
  by_cases hfree : w.files.get?
      (place cache ++ [Segment.directoryName name, Segment.directoryName hash.text]) = none
  · have hparent : w.files.get? (place cache ++ [Segment.directoryName name]) ≠ none := by
      rw [(FileSystem.lookup_eq_ok_iff.mp hbase).2]
      exact Option.some_ne_none _
    obtain ⟨hstored, hintact⟩ := hw.intact.lay hw.covered hnames ht hfree hparent
    refine ⟨_, hstored.mono fun q _ hq => (List.prefix_append _ _).trans hq,
      linkless_lay hw.linkless (hw.plain hash t ht) (by simp), hintact, ?_,
      fun git hgit hoffers => ?_⟩
    · rw [hself, FileSystem.get?_lay_self (by simp)]
      exact Option.some_ne_none _
    · exact (hw.withGit hgit).fetch_new hname hbase haddress ht hfits hfree hoffers
  · obtain ⟨e, he⟩ := Option.ne_none_iff_exists'.mp hfree
    have hlookup := ((hw.opened hname.isName hbase).lookup_versionDir_iff hw.isEmpty_cache
      (Segment.isName_of_names hnames)).mpr
        ⟨rfl, he, hfits.fits, hself.symm ▸ hash.isHash.length_bytes_le⟩
    refine ⟨w.files, .refl, hw.linkless, hw.intact, hself ▸ hfree, fun git hgit _ => ?_⟩
    exact (hw.withGit hgit).fetch_there hname haddress hash.isHash.trim hash.isHash.nonempty hnames
      ht hlookup hfits

end Regular

end Cache

end PocketScheme
