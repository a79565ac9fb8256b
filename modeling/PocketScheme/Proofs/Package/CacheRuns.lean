import PocketScheme.Proofs.Package.Fetching
import PocketScheme.Proofs.Package.Repositories
import PocketScheme.Remotes
import Mathlib.Logic.Relation

/-!
The cache over time. It starts empty; then dependencies are fetched, one after the other, while the
repositories get new commits and other things change outside the cache.

* `Cache.Nameable`, `Cache.Pinned`: the names and the pins that dependencies are fetched with;
* `Cache.Sound`: a world in which every checkout is that of the commit which it is named for;
* `Cache.Sound.fetch`: whatever is fetched, it stays so;
* `Cache.Sound.fetch_succeeded`, `Cache.Sound.fetch_failed`: what a fetch comes to in such a world;
* `Cache.Happens`, `Cache.Reachable`: what can happen, and what a world can come to;
* `Cache.Sound.happens`, `Cache.Reachable.sound`: what has come about so is sound;
* `Cache.cache_sound`: every checkout is the tree of its commit, and what a fetch that fails leaves;
* `Cache.checkout_left_behind`: a fetch that fails and leaves a checkout.
-/

namespace PocketScheme

open PocketScheme.Path (IsName)

namespace Cache

open PocketScheme.FileSystem (Covered Grown Stored Fits nameLimit)

/-! ### Names and pins -/

/-- The name of a dependency is not that of its own directory or of the one around it. -/
def Nameable (name : Text) : Prop :=
  name.trim ≠ "." ∧ name.trim ≠ ".."

/-- A dependency with a tag or a branch, or a revision that is no longer than a hash and no path. -/
structure Pinned (d : Dependency) : Prop where
  length_le : d.rev.trim.toList.length ≤ 40
  nameable : Nameable d.rev

variable {content : Contents} {cache name base version commit : Text} {d : Dependency}
  {w w' : World} {src : Place} {files made : FileSystem}

lemma Nameable.isName (h : Nameable name) : IsName (Segment.directoryName name) :=
  Segment.isName_of_trim_ne h.1 h.2

lemma Nameable.isName_trim (h : Nameable name) : IsName (Segment.directoryName name.trim) :=
  Segment.isName_of_trim_ne (by rw [Text.trim_trim]; exact h.1) (by rw [Text.trim_trim]; exact h.2)

/-- A revision that names a checkout is the hash of its commit. -/
lemma Pinned.eq_of_names (hpin : Pinned d) (hne : d.rev.trim.isEmpty = false) {h : Text}
    (hv : Names (Segment.directoryName d.rev.trim) h) : d.rev.trim = h := by
  have htrim : d.rev.trim.trim = d.rev.trim := Text.trim_trim _
  have hlength : (Segment.directoryName d.rev.trim).toList.length ≤ h.toList.length := by
    rw [Segment.directoryName_eq (by rwa [htrim]), List.length_map, htrim, hv.isHash.length_eq]
    exact hpin.length_le
  have heq : Segment.directoryName d.rev.trim = h :=
    Text.eq_of_toList (hv.ends.eq_of_length_le hlength).symm
  have hhead : h ≠ "head" := (Names.self hv.isHash).ne (by decide)
  rw [← htrim]
  exact Segment.trim_of_directoryName heq hhead (hv.isHash.not_mem (by decide))

/-! ### Sound worlds -/

/-- The cache keeps its checkouts in the directory at a place. -/
def At (cache : Text) (w : World) (src : Place) : Prop :=
  w.files.lookup w.cwd (sourceDir cache) = .ok (src, .directory)

lemma At.inj {src' : Place} (h : At cache w src) (h' : At cache w src') : src = src' :=
  (Prod.mk.inj (Except.ok.inj (h.symm.trans h'))).1

lemma At.of_grown (h : At cache w src) (hgrown : Grown w.files files) :
    At cache (w.withFiles files) src :=
  FileSystem.lookup_of_grown hgrown h

/-- A world in which checking out a commit gives what its hash stands for, files are stored in
directories, and the cache is intact. -/
structure Sound (content : Contents) (cache : Text) (w : World) : Prop where
  honest : w.git.Honest content
  covered : Covered w.files
  intact : ∀ src, At cache w src → Intact content src w.files

/-- The directory of a dependency is there. -/
structure Opened (content : Contents) (cache name : Text) (w : World) (src : Place) : Prop where
  sound : Sound content cache w
  at_ : At cache w src
  base : w.files.lookup w.cwd (packageDir cache name) =
    .ok (src ++ [Segment.directoryName name], .directory)

namespace Sound

section

variable (hcache : cache.isEmpty = false) (hw : Sound content cache w)
  (hname : IsName (Segment.directoryName name))

include hcache hw hname

lemma makeDirs : Sound content cache
    (w.withFiles (w.files.makeDirs w.cwd (packageDir cache name)).2) := by
  have hcovered := (FileSystem.stored_makeDirs hw.covered w.cwd (packageDir cache name)).covered
  refine ⟨hw.honest, hcovered hw.covered, fun src hsrc => ?_⟩
  rw [At, sourceDir_eq hcache, packageDir_eq hcache, FileSystem.makeDirs_clean] at hsrc
  obtain ⟨hbefore, hdir, hbelow⟩ := FileSystem.makeDirs_child hw.covered
    (cleanComponents_src hcache) (isEmpty_src cache) hname rfl hsrc
  rw [packageDir_eq hcache, FileSystem.makeDirs_clean]
  have hintact : Intact content src w.files := by
    rcases hbefore with hat | hfree
    · exact hw.intact src (by rwa [At, sourceDir_eq hcache])
    · exact .of_free hw.covered fun n => hw.covered.get?_below hfree [n]
  exact hintact.of_below_eq hdir hbelow

/-- Once the directory of a dependency has been made, it is in that of the cache. -/
lemma opened (hmake : w.files.makeDirs w.cwd (packageDir cache name) = (.ok (), made)) :
    ∃ src, Opened content cache name (w.withFiles made) src := by
  have hsound := hw.makeDirs hcache hname
  rw [hmake] at hsound
  have hclean := clean_packageDir hcache name
  obtain ⟨q, e, hlookup, -⟩ :=
    FileSystem.lookup_of_makeDirs (cleanComponents_packageDir hcache hname) hmake
  rw [hclean] at hlookup
  obtain ⟨hleads, -⟩ := FileSystem.lookup_eq_ok_iff.mp hlookup
  obtain ⟨-, -, src, hsrc, -⟩ := (inDir_packageDir hcache hname).of_leads hleads
  have hintact := hsound.intact src hsrc
  obtain ⟨rfl, hget, -⟩ := ((inDir_packageDir hcache hname).lookup_eq_ok_iff hsrc
    fun t ht => by cases hintact.directory _ _ ht).mp hlookup
  rw [hintact.directory _ _ hget] at hlookup
  exact ⟨src, hsound, hsrc, hlookup⟩

end

end Sound

/-- A new checkout of a version, and nothing else. -/
structure Added (content : Contents) (cache name version : Text) (w w' : World) (src : Place)
    (hash : Hash) (t : Tree) : Prop where
  at_ : At cache w src
  names : Names (Segment.directoryName version) hash.text
  content_eq : content hash = some t
  fits : Fits (versionDir (packageDir cache name) version)
  short : (Segment.directoryName version).bytes.length ≤ nameLimit
  free : w.files.get? (src ++ [Segment.directoryName name, Segment.directoryName version]) = none
  added : w' = w.withFiles (w.files.lay
    (src ++ [Segment.directoryName name, Segment.directoryName version]) t)

namespace Opened

lemma not_link (h : Opened content cache name w src) (v t : Text) :
    w.files.get? (src ++ [Segment.directoryName name] ++ [v]) ≠ some (.link t) := by
  rw [List.append_assoc, List.singleton_append]
  intro ht
  cases (h.sound.intact src h.at_).get?_checkout ht

lemma dir_eq (h : Opened content cache name w src) {dir : Place}
    (hdir : w.files.lookup w.cwd (packageDir cache name) = .ok (dir, .directory)) :
    dir = src ++ [Segment.directoryName name] :=
  (Prod.mk.inj (Except.ok.inj (hdir.symm.trans h.base))).1

section

variable (hcache : cache.isEmpty = false) (h : Opened content cache name w src)

include hcache h

/-- Where the path of a version leads. -/
lemma lookup_versionDir_iff (hversion : IsName (Segment.directoryName version)) {q : Place}
    {e : Entry} :
    w.files.lookup w.cwd (versionDir (packageDir cache name) version) = .ok (q, e) ↔
      q = src ++ [Segment.directoryName name, Segment.directoryName version] ∧
        w.files.get? (src ++ [Segment.directoryName name, Segment.directoryName version]) =
          some e ∧
        Fits (versionDir (packageDir cache name) version) ∧
        (Segment.directoryName version).bytes.length ≤ nameLimit := by
  have hin := inDir_versionDir (isEmpty_packageDir hcache name) (clean_packageDir hcache name)
    hversion
  have hiff := hin.lookup_eq_ok_iff (q := q) (e := e) h.base (h.not_link _)
  rwa [List.append_assoc, List.singleton_append] at hiff

/-- A version that is there is the checkout of the commit that it is named for. -/
lemma checkout_of_lookup (hversion : IsName (Segment.directoryName version)) {q : Place}
    {e : Entry}
    (hlookup : w.files.lookup w.cwd (versionDir (packageDir cache name) version) = .ok (q, e)) :
    ∃ hash t, Names (Segment.directoryName version) hash.text ∧ content hash = some t ∧
      e = .directory ∧ q ≠ [] ∧ w.files.below q = t.checkedOut ∧
      q = src ++ [Segment.directoryName name, Segment.directoryName version] := by
  obtain ⟨rfl, hget, -⟩ := (h.lookup_versionDir_iff hcache hversion).mp hlookup
  have hintact := h.sound.intact src h.at_
  obtain ⟨hash, t, hnames, ht, hholds⟩ := hintact.checkout _ _ (by rw [hget]; simp)
  exact ⟨hash, t, hnames, ht, hintact.get?_checkout hget, by simp, hholds, rfl⟩

/-- A checkout without links has a checksum unless one of its paths is too long. -/
lemma ofPath_checkout (hname : IsName (Segment.directoryName name)) {hash : Hash} {t : Tree}
    (hnames : Names (Segment.directoryName version) hash.text) (ht : t.IsPlain) {q : Place}
    {e : Entry}
    (hlookup : w.files.lookup w.cwd (versionDir (packageDir cache name) version) = .ok (q, e))
    (hholds : w.files.below q = t.checkedOut) :
    (t.FitsAt (versionDir (packageDir cache name) version) →
      Checksum.ofPath w.files w.cwd (versionDir (packageDir cache name) version) =
        .ok t.checksum) ∧
    (¬ t.FitsAt (versionDir (packageDir cache name) version) → ∃ fault,
      Checksum.ofPath w.files w.cwd (versionDir (packageDir cache name) version) =
        .error fault) := by
  have hversion := Segment.isName_of_names hnames
  have hbase := isEmpty_packageDir hcache name
  obtain ⟨-, -, -, -, rfl, hne, -, -⟩ := h.checkout_of_lookup hcache hversion hlookup
  obtain ⟨rfl, hget, hfits, hshort⟩ := (h.lookup_versionDir_iff hcache hversion).mp hlookup
  obtain ⟨hleads, hdirectory⟩ := FileSystem.lookup_eq_ok_iff.mp h.base
  have hto : FileSystem.Leads w.files false w.cwd (versionDir (packageDir cache name) version)
      (src ++ [Segment.directoryName name] ++ [Segment.directoryName version]) :=
    (inDir_versionDir hbase (clean_packageDir hcache name) hversion).leads hleads hdirectory hfits
      hshort (by simp)
  rw [List.append_assoc, List.singleton_append] at hto
  exact Checksum.ofPath_checkout hne hholds ht (clean_versionDir hbase version) hlookup
    (FileSystem.trace_eq_entry_iff.mpr ⟨hto, hget⟩)
    (lastName_versionDir hcache hname hversion hnames)

/-- A draft does not matter to what is there. -/
lemma isThere_lay_iff {k : UInt32} {draft : Text} (t : Tree) {hash : Text}
    (hdrafted : Drafted w.files w.cwd (packageDir cache name) draft
      (src ++ [Segment.directoryName name]) (draftName k))
    (hnames : Names (Segment.directoryName version) hash) :
    isThere (w.withFiles (w.files.lay (src ++ [Segment.directoryName name] ++ [draftName k]) t))
        (versionDir (packageDir cache name) version) = true ↔
      isThere w (versionDir (packageDir cache name) version) = true := by
  have hfs := h.sound.covered
  have hne : Segment.directoryName version ≠ draftName k := hnames.ne hdrafted.short
  have hin := inDir_versionDir (isEmpty_packageDir hcache name) (clean_packageDir hcache name)
    (Segment.isName_of_names hnames)
  constructor
  · intro hthere
    obtain ⟨q, e, hlookup⟩ := lookup_of_isThere hthere
    have hlookup' := (hin.lookup_eq_ok_iff (hdrafted.lookup_base_lay hfs t) fun target htarget =>
      h.not_link _ target (Drafted.get?_lay hne t ▸ htarget)).mp hlookup
    rw [Drafted.get?_lay hne] at hlookup'
    exact isThere_of_lookup ((hin.lookup_eq_ok_iff h.base (h.not_link _)).mpr hlookup')
  · intro hthere
    obtain ⟨q, e, hlookup⟩ := lookup_of_isThere hthere
    exact isThere_of_lookup
      (FileSystem.lookup_of_grown (hdrafted.stored hfs t).grown hlookup)

/-- Whatever comes of a clone, the world stays sound. -/
lemma obtained {address : Text} {dir : Place} {k : UInt32} {c : Clone} {hash : Hash}
    (hobtained : Obtained (packageDir cache name) address d w version commit files dir k c hash) :
    Opened content cache name (w.withFiles files) src ∧
      (files = w.files ∧ isThere w (versionDir (packageDir cache name) version) = true ∨
        ∃ t, Added content cache name version w (w.withFiles files) src hash t) := by
  have hdir := h.dir_eq hobtained.drafted.directory
  obtain ⟨-, -, hnames⟩ := hobtained.version_spec
  rcases hobtained.files_eq with ⟨hthere, rfl⟩ |
    ⟨tree, t, htree, hcheckout, hfits, hshort, hfree, rfl⟩
  · subst hdir
    exact ⟨h, .inl ⟨rfl, (h.isThere_lay_iff hcache c.tree hobtained.drafted hnames).mp hthere⟩⟩
  · rw [hdir, List.append_assoc, List.singleton_append] at hfree ⊢
    have ht := h.sound.honest _ _ _ c hobtained.clone tree hash t htree hcheckout
    obtain ⟨-, hparent⟩ := FileSystem.lookup_eq_ok_iff.mp h.base
    obtain ⟨hstored, hintact⟩ := (h.sound.intact src h.at_).lay h.sound.covered hnames ht hfree
      (by rw [hparent]; simp)
    have hat := h.at_.of_grown hstored.grown
    refine ⟨⟨⟨h.sound.honest, hstored.covered h.sound.covered, fun src' hsrc' => ?_⟩, hat, ?_⟩,
      .inr ⟨t, h.at_, hnames, ht, hfits, hshort, hfree, rfl⟩⟩
    · rw [hsrc'.inj hat]
      exact hintact
    · exact FileSystem.lookup_of_grown hstored.grown h.base

end

end Opened

/-- A new checkout is there. -/
lemma Added.lookup {hash : Hash} {t : Tree} (hcache : cache.isEmpty = false)
    (h : Added content cache name version w w' src hash t)
    (hopened : Opened content cache name w' src) :
    w'.files.lookup w'.cwd (versionDir (packageDir cache name) version) =
        .ok (src ++ [Segment.directoryName name, Segment.directoryName version], .directory) ∧
      w'.files.below (src ++ [Segment.directoryName name, Segment.directoryName version]) =
        t.checkedOut := by
  have hversion := Segment.isName_of_names h.names
  obtain rfl := h.added
  refine ⟨(hopened.lookup_versionDir_iff hcache hversion).mpr ⟨rfl, ?_, h.fits, h.short⟩, ?_⟩
  · exact FileSystem.get?_lay_self (by simp)
  · exact FileSystem.below_lay_self

/-! ### Fetches in sound worlds -/

/-- Nothing has changed but that directories have appeared on the way to that of a dependency. -/
structure OnlyDirectories (cache name : Text) (w w' : World) : Prop where
  rest : w' = w.withFiles w'.files
  get? : ∀ p, w'.files.get? p = w.files.get? p ∨
    w.files.get? p = none ∧ w'.files.get? p = some .directory ∧
      ∃ t ∈ FileSystem.steps (packageDir cache name),
        w'.files.lookup w.cwd t = .ok (p, .directory)

lemma OnlyDirectories.refl : OnlyDirectories cache name w w :=
  ⟨rfl, fun _ => .inl rfl⟩

lemma onlyDirectories_makeDirs (hfs : Covered w.files) : OnlyDirectories cache name w
    (w.withFiles (w.files.makeDirs w.cwd (packageDir cache name)).2) := by
  refine ⟨rfl, fun p => ?_⟩
  rcases (FileSystem.stored_makeDirs hfs w.cwd (packageDir cache name)).get? p with
    heq | ⟨hfree, e, ⟨rfl, t, ht, hlookup⟩, hget⟩
  · exact .inl heq
  · exact .inr ⟨hfree, hget, t, ht, hlookup⟩

/-- What a dependency was fetched at: a version in the cache that it asks for by name, or a
commit. -/
structure FetchedAt (d : Dependency) (version commit : Text) : Prop where
  version_nonempty : version.isEmpty = false
  version_trim : version.trim = version
  commit_nonempty : commit.isEmpty = false
  commit_trim : commit.trim = commit
  kind : (version = d.rev.trim ∧ commit = d.rev.trim) ∨ Names (Segment.directoryName version) commit

lemma FetchedAt.isName (h : FetchedAt d version commit) (hrev : Nameable d.rev) :
    IsName (Segment.directoryName version) := by
  rcases h.kind with ⟨rfl, -⟩ | hnames
  · exact hrev.isName_trim
  · exact Segment.isName_of_names hnames

namespace Sound

section

variable (hcache : cache.isEmpty = false) (hw : Sound content cache w) (hname : Nameable name)

include hcache hw hname

/-- An attempt that succeeds makes directories, and may add a checkout. -/
lemma ensured (h : ensure (packageDir cache name) d.git.trim d w = (.ok (version, commit), w')) :
    FetchedAt d version commit ∧
      isThere w' (versionDir (packageDir cache name) version) = true ∧
      ∃ made src, OnlyDirectories cache name w made ∧ Opened content cache name w' src ∧
      (w' = made ∨ ∃ hash t, Added content cache name version made w' src hash t) := by
  obtain ⟨made, hmake, hcases⟩ := ensure_eq_ok hw.covered (isEmpty_packageDir hcache name)
    (clean_packageDir hcache name) h
  have hmade : OnlyDirectories cache name w (w.withFiles made) := by
    have honly : OnlyDirectories cache name w _ := onlyDirectories_makeDirs hw.covered
    rwa [hmake] at honly
  obtain ⟨src, hopened⟩ := hw.opened hcache hname.isName hmake
  rcases hcases with ⟨hne, rfl, rfl, rfl, hthere⟩ | ⟨files, dir, k, c, hash, rfl, hobtained⟩
  · exact ⟨⟨hne, Text.trim_trim _, hne, Text.trim_trim _, .inl ⟨rfl, rfl⟩⟩, hthere, _, src, hmade,
      hopened, .inl rfl⟩
  · obtain ⟨hne, htrim, hnames⟩ := hobtained.version_spec
    obtain ⟨hopened', hfiles⟩ := hopened.obtained hcache hobtained
    obtain rfl := hobtained.commit_eq
    have hat : FetchedAt d version hash.text :=
      ⟨hne, htrim, hash.isHash.nonempty, hash.isHash.trim, .inr hnames⟩
    rcases hfiles with ⟨rfl, hthere⟩ | ⟨t, hadded⟩
    · exact ⟨hat, hthere, _, src, hmade, hopened', .inl rfl⟩
    · exact ⟨hat, isThere_of_lookup (hadded.lookup hcache hopened').1, _, src, hmade, hopened',
        .inr ⟨hash, t, hadded⟩⟩

/-- Whatever is fetched, the world stays sound. -/
lemma fetch (d : Dependency) : Sound content cache (Cache.fetch cache name d w).2 := by
  rcases hfetch : Cache.fetch cache name d w with ⟨fault | found, w'⟩
  · rcases fetch_eq_error hfetch with ⟨-, rfl⟩ | hensure | ⟨version, commit, cause, hensure, -⟩
    · exact hw
    · obtain rfl := ensure_eq_error hw.covered (isEmpty_packageDir hcache name) hensure
      exact hw.makeDirs hcache hname.isName
    · obtain ⟨-, -, -, src, -, hopened, -⟩ := hw.ensured hcache hname hensure
      exact hopened.sound
  · obtain ⟨-, version, commit, checksum, hensure, -⟩ := fetch_eq_ok hfetch
    obtain ⟨-, -, -, src, -, hopened, -⟩ := hw.ensured hcache hname hensure
    exact hopened.sound

/-- A fetch that succeeds leads to a checkout, and its source names the commit. -/
lemma fetch_succeeded (hpin : Pinned d) {found : Fetched}
    (h : Cache.fetch cache name d w = (.ok found, w')) :
    ∃ hash t q, content hash = some t ∧
      found.package.source = Lockfile.gitSource d.git.trim hash.text ∧
      w'.files.lookup w'.cwd found.dir = .ok (q, .directory) ∧
      w'.files.below q = t.checkedOut := by
  obtain ⟨-, version, commit, checksum, hensure, hchecksum, rfl⟩ := fetch_eq_ok h
  obtain ⟨hfetched, hthere, made, src, -, hopened, -⟩ := hw.ensured hcache hname hensure
  have hversion := hfetched.isName hpin.nameable
  obtain ⟨q, e, hlookup⟩ := lookup_of_isThere hthere
  obtain ⟨hash, t, hnames, ht, rfl, -, hholds, -⟩ :=
    hopened.checkout_of_lookup hcache hversion hlookup
  have hcommit : commit = hash.text := by
    rcases hfetched.kind with ⟨rfl, rfl⟩ | hnames'
    · exact hpin.eq_of_names hfetched.version_nonempty hnames
    · exact hnames'.unique hnames
  exact ⟨hash, t, q, ht, by rw [hcommit], hlookup, hholds⟩

/-- A fetch that fails leaves directories on the way to that of the dependency, or a checkout that
has no checksum. -/
lemma fetch_failed {fault : FetchFault} (h : Cache.fetch cache name d w = (.error fault, w')) :
    OnlyDirectories cache name w w' ∨
      ∃ made src version hash t cause, OnlyDirectories cache name w made ∧
        Added content cache name version made w' src hash t ∧ fault = .path cause ∧
        Checksum.ofPath w'.files w'.cwd (versionDir (packageDir cache name) version) =
          .error cause ∧
        ¬ (t.IsPlain ∧ t.FitsAt (versionDir (packageDir cache name) version)) := by
  rcases fetch_eq_error h with ⟨-, rfl⟩ | hensure | ⟨version, commit, cause, hensure, hcause, rfl⟩
  · exact .inl .refl
  · obtain rfl := ensure_eq_error hw.covered (isEmpty_packageDir hcache name) hensure
    exact .inl (onlyDirectories_makeDirs hw.covered)
  · obtain ⟨-, -, made, src, hmade, hopened, rfl | ⟨hash, t, hadded⟩⟩ :=
      hw.ensured hcache hname hensure
    · exact .inl hmade
    · refine .inr ⟨made, src, version, hash, t, cause, hmade, hadded, rfl, hcause, ?_⟩
      rintro ⟨ht, hfits⟩
      obtain ⟨hlookup, hholds⟩ := hadded.lookup hcache hopened
      obtain ⟨hok, -⟩ := hopened.ofPath_checkout hcache hname.isName hadded.names ht hlookup hholds
      rw [hok hfits] at hcause
      cases hcause

end

end Sound

/-! ### What can happen -/

/-- Nothing has changed in the cache, whatever has become of the repositories and of other files. -/
structure Elsewhere (content : Contents) (cache : Text) (w w' : World) : Prop where
  honest : w'.git.Honest content
  covered : Covered w'.files
  same : ∀ src, At cache w' src → At cache w src ∧ w'.files.below src = w.files.below src

/-- A dependency is fetched, or something changes outside the cache. -/
inductive Happens (content : Contents) (cache : Text) (w : World) : World → Prop
  | fetch {name : Text} {d : Dependency} (hname : Nameable name) :
      Happens content cache w (Cache.fetch cache name d w).2
  | elsewhere {w' : World} (h : Elsewhere content cache w w') : Happens content cache w w'

/-- There is nothing in the cache. -/
structure Fresh (content : Contents) (cache : Text) (w : World) : Prop where
  honest : w.git.Honest content
  covered : Covered w.files
  empty : ∀ src, At cache w src → ∀ n, w.files.get? (src ++ [n]) = none

/-- The world has come about from one with an empty cache. -/
def Reachable (content : Contents) (cache : Text) (w : World) : Prop :=
  ∃ w₀, Fresh content cache w₀ ∧ Relation.ReflTransGen (Happens content cache) w₀ w

lemma Fresh.sound (hw : Fresh content cache w) : Sound content cache w :=
  ⟨hw.honest, hw.covered, fun src hsrc => .of_free hw.covered (hw.empty src hsrc)⟩

namespace Sound

lemma elsewhere (hw : Sound content cache w) (h : Elsewhere content cache w w') :
    Sound content cache w' := by
  refine ⟨h.honest, h.covered, fun src hsrc => ?_⟩
  obtain ⟨hat, hbelow⟩ := h.same src hsrc
  refine (hw.intact src hat).of_below_eq (fun n e he => .inl ?_) fun n v => ?_
  · rwa [FileSystem.get?_of_ne_nil (by simp), ← FileSystem.lookup_below, ← hbelow,
      FileSystem.lookup_below, ← FileSystem.get?_of_ne_nil (by simp)]
  · rw [FileSystem.below_append, hbelow, ← FileSystem.below_append]

/-- Whatever happens, a sound world stays sound. -/
lemma happens (hcache : cache.isEmpty = false) (hw : Sound content cache w)
    (h : Happens content cache w w') : Sound content cache w' := by
  cases h with
  | fetch hname => exact hw.fetch hcache hname _
  | elsewhere h => exact hw.elsewhere h

end Sound

lemma Reachable.sound (hcache : cache.isEmpty = false) (hw : Reachable content cache w) :
    Sound content cache w := by
  obtain ⟨w₀, hfresh, hrun⟩ := hw
  induction hrun with
  | refl => exact hfresh.sound
  | tail _ hstep ih => exact ih.happens hcache hstep

/-- **What the cache holds, and what failures leave in it**. Whatever dependencies have been fetched
into an empty cache, and whatever commits the repositories have got meanwhile: everything two levels
below the cache's directory is named for a commit and holds the tree of that commit. A fetch that
succeeds returns a directory with the tree of the commit behind the last `@` of its source. A fetch
that fails changes nothing but that directories appear on the way to that of the dependency, unless
it fails last of all, in taking the checksum: then it leaves a new checkout. This happens only to
commits that hold links or have paths which become too long in the cache. -/
theorem cache_sound (hcache : cache.isEmpty = false) (hw : Reachable content cache w) :
    (∀ src n v, At cache w src → w.files.get? (src ++ [n, v]) ≠ none →
      ∃ hash t, Names v hash.text ∧ content hash = some t ∧
        w.files.below (src ++ [n, v]) = t.checkedOut) ∧
    ∀ name d, Nameable name → Pinned d →
      (∀ found w', fetch cache name d w = (.ok found, w') →
        ∃ address hash t q,
          Lockfile.gitSource? found.package.source = some (address, hash.text) ∧
          content hash = some t ∧ w'.files.lookup w'.cwd found.dir = .ok (q, .directory) ∧
          w'.files.below q = t.checkedOut) ∧
      ∀ fault w', fetch cache name d w = (.error fault, w') →
        OnlyDirectories cache name w w' ∨
        ∃ made src version hash t cause, OnlyDirectories cache name w made ∧
          Added content cache name version made w' src hash t ∧ fault = .path cause ∧
          Checksum.ofPath w'.files w'.cwd (versionDir (packageDir cache name) version) =
            .error cause ∧
          ¬ (t.IsPlain ∧ t.FitsAt (versionDir (packageDir cache name) version)) := by
  have hsound := hw.sound hcache
  refine ⟨fun src n v hsrc => (hsound.intact src hsrc).checkout n v,
    fun name d hname hpin => ⟨fun found w' h => ?_, fun fault w' h => ?_⟩⟩
  · obtain ⟨hash, t, q, ht, hsource, hlookup, hholds⟩ :=
      hsound.fetch_succeeded hcache hname hpin h
    refine ⟨d.git.trim, hash, t, q, ?_, ht, hlookup, hholds⟩
    rw [hsource, Lockfile.gitSource?_gitSource (hash.isHash.not_mem (by decide))]
  · exact hsound.fetch_failed hcache hname h

/-! ### A tag that moves -/

/-- Where the repository is. -/
def origin : Text := "https://example.com/a.git"

/-- The hash of the first commit. -/
def firstHash : Hash := ⟨"1111111111111111111111111111111111111111", by decide +kernel⟩

/-- The hash of the second commit. -/
def secondHash : Hash := ⟨"2222222222222222222222222222222222222222", by decide +kernel⟩

/-- The tree of a package that holds its manifest. -/
def packageTree (manifest : String) : Tree where
  entries := [(["package.yml"], .file (Text.bytes manifest))]
  distinct := List.nodup_singleton _
  fits b hb := by
    obtain rfl := List.mem_singleton.mp hb
    have hname : IsName ("package.yml" : Text) ∧ (Text.bytes "package.yml").length ≤ nameLimit := by
      decide
    have hown : ("package.yml" : Text) ≠ repositoryName := by decide
    refine ⟨by simp, by simpa using hown, .inl rfl, fun c hc => ?_, by simp⟩
    obtain rfl := List.mem_singleton.mp hc
    exact hname

/-- The first commit. -/
def firstCommit : Hash × Tree := (firstHash, packageTree "name: dep\nversion: 1.0.0\n")

/-- The second commit. -/
def secondCommit : Hash × Tree := (secondHash, packageTree "name: dep\nversion: 2.0.0\n")

/-- What the commits hold. -/
def packageContents : Contents := fun hash => [firstCommit, secondCommit].lookup hash

/-- A repository with some commits, the last of which its tag and its branch name. -/
def repositoryOf (commits : List (Hash × Tree)) (last : Hash) : Repository where
  commits := commits
  tags := [("v1", last)]
  branches := [("main", last)]
  main := "main"

/-- A machine without files, and a repository elsewhere. -/
def machine (r : Repository) : World :=
  { Remotes.world [] [] "/" with git := .serving [(origin, r)] }

/-- What the repository's tag names. -/
def byTag : Dependency := ⟨"", origin, "", "v1", ""⟩

/-- The first commit of the repository. -/
def byHash : Dependency := ⟨"", origin, firstHash.text, "", ""⟩

/-- The name of the first commit's directory, if it is fetched by tag. -/
def firstTagged : Text := "v1_" ++ firstHash.text

lemma nameable_dep : Nameable "dep" :=
  ⟨by decide, by decide⟩

lemma pinned_byTag : Pinned byTag :=
  ⟨by decide, by decide, by decide⟩

lemma honest_first : (Git.serving [(origin, repositoryOf [firstCommit] firstHash)]).Honest
    packageContents := by
  refine Git.honest_serving fun b hb c hc => ?_
  obtain rfl := List.mem_singleton.mp hb
  obtain rfl := List.mem_singleton.mp hc
  rfl

lemma honest_second :
    (Git.serving [(origin, repositoryOf [firstCommit, secondCommit] secondHash)]).Honest
      packageContents := by
  refine Git.honest_serving fun b hb c hc => ?_
  obtain rfl := List.mem_singleton.mp hb
  rcases List.mem_cons.mp hc with rfl | hc
  · rfl
  · obtain rfl := List.mem_singleton.mp hc
    rfl

/-- The machine has no cache. -/
lemma fresh_machine {r : Repository}
    (hhonest : (Git.serving [(origin, r)]).Honest content) : Fresh content "/home" (machine r) := by
  refine ⟨hhonest, fun b hb => (List.not_mem_nil hb).elim, fun src hsrc => ?_⟩
  have hnone : (machine r).files.lookup (machine r).cwd (sourceDir "/home") =
      .error .notExist := rfl
  rw [At, hnone] at hsrc
  cases hsrc

/-- The machine after a fetch by tag, when the repository has got another commit. -/
def movedTag : World :=
  { (fetch "/home" "dep" byTag (machine (repositoryOf [firstCommit] firstHash))).2 with
    git := .serving [(origin, repositoryOf [firstCommit, secondCommit] secondHash)] }

lemma reachable_movedTag : Reachable packageContents "/home" movedTag := by
  have hfresh := fresh_machine honest_first
  have hfetch : Happens packageContents "/home" (machine (repositoryOf [firstCommit] firstHash))
      (fetch "/home" "dep" byTag (machine (repositoryOf [firstCommit] firstHash))).2 :=
    .fetch nameable_dep
  have hsound := hfresh.sound.happens rfl hfetch
  exact ⟨_, hfresh, .tail (.single hfetch)
    (.elsewhere ⟨honest_second, hsound.covered, fun src hsrc => ⟨hsrc, rfl⟩⟩)⟩

/-- The first checkout stays as it is, and fetching by the tag again gives the second commit. -/
theorem cache_sound_movedTag :
    movedTag.files.below ["home", "src", "dep", firstTagged] = firstCommit.2.checkedOut ∧
    ∃ found w' q, fetch "/home" "dep" byTag movedTag = (.ok found, w') ∧
      w'.files.lookup w'.cwd found.dir = .ok (q, .directory) ∧
      w'.files.below q = secondCommit.2.checkedOut := by
  obtain ⟨hcheckouts, hfetches⟩ := cache_sound rfl reachable_movedTag
  have hat : At "/home" movedTag ["home", "src"] :=
    eq_ok_of_toOption_eq_some (by decide +kernel)
  have hsource : (fetch "/home" "dep" byTag movedTag).1.toOption.map
      (Lockfile.gitSource? ·.package.source) = some (some (origin, secondHash.text)) := by
    decide +kernel
  constructor
  · obtain ⟨hash, t, hnames, ht, hholds⟩ :=
      hcheckouts _ "dep" firstTagged hat (by decide +kernel)
    have hfirst : Names firstTagged firstHash.text := ⟨firstHash.isHash, by decide +kernel⟩
    obtain rfl : hash = firstHash := Hash.eq_of_text (hnames.unique hfirst)
    obtain rfl := Option.some.inj ht
    exact hholds
  · rcases hfetch : fetch "/home" "dep" byTag movedTag with ⟨fault | found, w'⟩
    · rw [hfetch] at hsource
      cases hsource
    · rw [hfetch] at hsource
      obtain ⟨address, hash, t, q, hsource', ht, hlookup, hholds⟩ :=
        (hfetches "dep" byTag nameable_dep pinned_byTag).1 found w' hfetch
      obtain ⟨-, htext⟩ :=
        Prod.mk.inj (Option.some.inj (hsource'.symm.trans (Option.some.inj hsource)))
      obtain rfl : hash = secondHash := Hash.eq_of_text htext
      obtain rfl := Option.some.inj ht
      exact ⟨found, w', q, rfl, hlookup, hholds⟩

/-! ### A commit with a link -/

/-- A tree with a link to a directory. -/
def linkedTree : Tree where
  entries := [(["sub"], .directory), (["alias"], .link "sub")]
  distinct := by decide
  fits := by decide

/-- A repository whose only commit has this tree. -/
def linkedRepository : Repository := repositoryOf [(firstHash, linkedTree)] firstHash

/-- What this commit holds. -/
def linkedContents : Contents := fun hash => [(firstHash, linkedTree)].lookup hash

/-- **A fetch that fails leaves a checkout**. Where a commit holds a link to a directory, the link
cannot be hashed like a file. By then the commit is in the cache, and stays there. -/
theorem checkout_left_behind : ∃ fault w',
    Fresh linkedContents "/home" (machine linkedRepository) ∧
    fetch "/home" "dep" byTag (machine linkedRepository) = (.error fault, w') ∧
    At "/home" w' ["home", "src"] ∧ Names firstTagged firstHash.text ∧
    (machine linkedRepository).files.get? ["home", "src", "dep", firstTagged] = none ∧
    w'.files.get? ["home", "src", "dep", firstTagged] = some .directory := by
  have hhonest : (Git.serving [(origin, linkedRepository)]).Honest linkedContents := by
    refine Git.honest_serving fun b hb c hc => ?_
    obtain rfl := List.mem_singleton.mp hb
    obtain rfl := List.mem_singleton.mp hc
    rfl
  have hrun : (fetch "/home" "dep" byTag (machine linkedRepository)).1.isOk = false ∧
      ((fetch "/home" "dep" byTag (machine linkedRepository)).2.files.lookup
        (fetch "/home" "dep" byTag (machine linkedRepository)).2.cwd
        (sourceDir "/home")).toOption = some ((["home", "src"] : Place), Entry.directory) ∧
      (fetch "/home" "dep" byTag (machine linkedRepository)).2.files.get?
        ["home", "src", "dep", firstTagged] = some .directory := by
    decide +kernel
  rcases hfetch : fetch "/home" "dep" byTag (machine linkedRepository) with ⟨fault | found, w'⟩
  · rw [hfetch] at hrun
    obtain ⟨-, hat, hget⟩ := hrun
    exact ⟨fault, w', fresh_machine hhonest, rfl, eq_ok_of_toOption_eq_some hat,
      ⟨firstHash.isHash, by decide +kernel⟩, rfl, hget⟩
  · rw [hfetch] at hrun
    cases hrun.1

end Cache

end PocketScheme
