import PocketScheme.Proofs.Package.CacheRuns

/-!
What the cache changes. Whatever has been fetched before, a dependency is fetched as with an empty
cache, unless the cache has a directory for the very revision that it asks for.

* `Cache.Delivers`: what is fetched from a clone, whatever is in the cache;
* `Cache.Sound.fetch_eq_ok_iff`: a fetch that clones gives that;
* `Cache.Sound.fetch_there`: a fetch that does not;
* `Cache.After`, `Cache.Later`: histories of fetches, and what is the same after all of them;
* `Cache.Fixed`: what a dependency asks for does not change meanwhile;
* `Cache.cache_transparent`: when the cache makes no difference, and which one it makes otherwise;
* `Cache.cache_opaque`: fetches that it does make a difference to.
-/

namespace PocketScheme

open PocketScheme.Path (IsName)

namespace Cache

open PocketScheme.FileSystem (Covered Grown Stored Fits Makeable Attempted nameLimit)

variable {content : Contents} {cache name version commit address revision pin : Text}
  {d : Dependency} {w w₀ w' : World} {c : Clone} {c? : Option Clone} {found : Fetched}
  {made : FileSystem} {src : Place} {hash : Hash} {t : Tree}

/-! ### What a fetch delivers -/

/-- The commit that a dependency asks for, in a clone. -/
def Asked (content : Contents) (d : Dependency) (c : Clone) (pin : Text) (hash : Hash)
    (t : Tree) : Prop :=
  ∃ revision, d.revision = .ok (revision, pin) ∧ c.resolve revision = .ok hash ∧
    content hash = some t

/-- What is fetched from a clone: the commit that the dependency asks for, if the cache has room for
its tree. -/
def Delivers (content : Contents) (cache name : Text) (d : Dependency) (c : Clone)
    (found : Fetched) : Prop :=
  ∃ pin hash t, Asked content d c pin hash t ∧
    t.FitsAt (versionDir (packageDir cache name) (pinnedVersion pin hash.text)) ∧
    (Segment.directoryName (pinnedVersion pin hash.text)).bytes.length ≤ nameLimit ∧
    found = ⟨versionDir (packageDir cache name) (pinnedVersion pin hash.text),
      ⟨Segment.sanitize name, pinnedVersion pin hash.text,
        Lockfile.gitSource d.git.trim hash.text, t.checksum⟩⟩

/-- What a dependency asks for in a clone holds no links, and can be checked out wherever its paths
are not too long. -/
def Settled (content : Contents) (cache name : Text) (d : Dependency) (c : Clone) : Prop :=
  ∀ pin hash t, Asked content d c pin hash t → t.IsPlain ∧
    (t.FitsAt (versionDir (packageDir cache name) (pinnedVersion pin hash.text)) →
      ∃ tree, c.worktree = .ok tree ∧ tree.checkout hash = (.ok (), t))

/-- Cloning for a dependency gives a clone, or nothing, whatever the number of the draft. -/
def Gives (cache name : Text) (d : Dependency) (w : World) (c? : Option Clone) : Prop :=
  ∀ made k, w.files.makeDirs w.cwd (packageDir cache name) = (.ok (), made) →
    (w.git.clone (w.withFiles made).toHost d.git.trim
      (draftPath (packageDir cache name) k)).toOption = c?

/-- The cache has a directory for the revision that a dependency asks for. -/
def HasRevision (cache name : Text) (d : Dependency) (w : World) : Prop :=
  d.rev.trim.isEmpty = false ∧
    isThere w (versionDir (packageDir cache name) d.rev.trim) = true

namespace Opened

/-- No draft is left in the directory of a dependency. -/
lemma get?_draft (h : Opened content cache name w src) (k : UInt32) :
    w.files.get? (src ++ [Segment.directoryName name] ++ [draftName k]) = none := by
  rw [List.append_assoc, List.singleton_append]
  by_contra hthere
  obtain ⟨hash, -, hnames, -⟩ := (h.sound.intact src h.at_).checkout _ _ hthere
  have hlong := hnames.length_le
  have hshort := length_draftName k
  omega

/-- A commit that can be checked out is obtained if there is room for it. -/
lemma obtain_eq_ok (hcache : cache.isEmpty = false) (h : Opened content cache name w src)
    {k : UInt32} {tree : Worktree}
    (hdrafted : Drafted w.files w.cwd (packageDir cache name) (draftPath (packageDir cache name) k)
      (src ++ [Segment.directoryName name]) (draftName k))
    (hclone : w.git.clone w.toHost address (draftPath (packageDir cache name) k) = .ok c)
    (hresolve : c.resolve revision = .ok hash) (htree : c.worktree = .ok tree)
    (hcheckout : tree.checkout hash = (.ok (), t))
    (hnames : Names (Segment.directoryName (pinnedVersion pin hash.text)) hash.text)
    (hfits : Fits (versionDir (packageDir cache name) (pinnedVersion pin hash.text)))
    (hshort : (Segment.directoryName (pinnedVersion pin hash.text)).bytes.length ≤ nameLimit) :
    ∃ w', obtain w (packageDir cache name) (draftPath (packageDir cache name) k) address revision
        pin = (.ok (pinnedVersion pin hash.text, hash.text), w') ∧
      (isThere w (versionDir (packageDir cache name) (pinnedVersion pin hash.text)) = true ∨
        w' = w.withFiles (w.files.lay (src ++ [Segment.directoryName name,
          Segment.directoryName (pinnedVersion pin hash.text)]) t)) := by
  have hfs := h.sound.covered
  have hversion := Segment.isName_of_names hnames
  have hin := inDir_versionDir (isEmpty_packageDir hcache name) (clean_packageDir hcache name)
    hversion
  have hne : Segment.directoryName (pinnedVersion pin hash.text) ≠ draftName k :=
    hnames.ne hdrafted.short
  have hiff := h.isThere_lay_iff hcache c.tree hdrafted hnames
  by_cases hthere : isThere w (versionDir (packageDir cache name) (pinnedVersion pin hash.text))
  · exact ⟨w, (hdrafted.obtain_eq_ok_iff hfs).mpr
      ⟨c, hash, hclone, hresolve, rfl, rfl, .inl ⟨hiff.mpr hthere, rfl⟩⟩, .inl hthere⟩
  · have hfree : w.files.get? (src ++ [Segment.directoryName name] ++
        [Segment.directoryName (pinnedVersion pin hash.text)]) = none := by
      by_contra hsome
      obtain ⟨e, he⟩ := Option.ne_none_iff_exists'.mp hsome
      rw [List.append_assoc, List.singleton_append] at he
      exact hthere (isThere_of_lookup
        ((h.lookup_versionDir_iff hcache hversion).mpr ⟨rfl, he, hfits, hshort⟩))
    refine ⟨_, (hdrafted.obtain_eq_ok_iff hfs).mpr ⟨c, hash, hclone, hresolve, rfl, rfl,
      .inr ⟨Bool.eq_false_iff.mpr fun hlaid => hthere (hiff.mp hlaid), tree, t, _, htree, hcheckout,
        (hdrafted.followTo_free_iff hfs hin hne).mpr ⟨rfl, hfree, hfits, hshort⟩,
        Drafted.not_below hne, rfl⟩⟩, .inr ?_⟩
    rw [List.append_assoc, List.singleton_append]

end Opened

namespace Sound

section

variable (hcache : cache.isEmpty = false) (hw : Sound content cache w) (hname : Nameable name)

include hcache hw hname

/-- Making the directory of a dependency does not matter to what is there. -/
lemma isThere_made (hversion : IsName (Segment.directoryName version))
    (hmake : w.files.makeDirs w.cwd (packageDir cache name) = (.ok (), made)) :
    isThere (w.withFiles made) (versionDir (packageDir cache name) version) = true ↔
      isThere w (versionDir (packageDir cache name) version) = true := by
  have hgrown := (FileSystem.stored_makeDirs hw.covered w.cwd (packageDir cache name)).grown
  rw [hmake] at hgrown
  constructor
  · intro hthere
    obtain ⟨q, e, hlookup⟩ := lookup_of_isThere hthere
    rcases FileSystem.makeDirs_eq_ok hw.covered (cleanComponents_packageDir hcache hname.isName)
      hmake with rfl | ⟨dir, hdir, hempty⟩
    · exact hthere
    · rw [clean_packageDir hcache] at hdir
      obtain ⟨src, hopened⟩ := hw.opened hcache hname.isName hmake
      obtain ⟨-, hget, -⟩ := (hopened.lookup_versionDir_iff hcache hversion).mp hlookup
      obtain rfl := hopened.dir_eq hdir
      have hnone := hempty (Segment.directoryName version) []
      rw [List.append_assoc, List.singleton_append] at hnone
      rw [World.withFiles] at hget
      rw [hnone] at hget
      cases hget
  · intro hthere
    obtain ⟨q, e, hlookup⟩ := lookup_of_isThere hthere
    exact isThere_of_lookup (FileSystem.lookup_of_grown hgrown hlookup)

/-- When the directory of a dependency can be made. -/
lemma makeDirs_eq_ok_iff : (w.files.makeDirs w.cwd (packageDir cache name)).1 = .ok () ↔
    Makeable w.files w.cwd (sourceDir cache) ∧ Fits (packageDir cache name) ∧
      (Segment.directoryName name).bytes.length ≤ nameLimit := by
  have hne := cleanComponents_src hcache
  have hmakeable : Makeable w.files w.cwd (sourceDir cache) ↔
      Makeable w.files w.cwd (cache ++ "/" ++ "src") := by
    rw [Makeable, Makeable, sourceDir_eq hcache, FileSystem.makeDirs_clean, Path.clean_clean]
  rw [hmakeable, packageDir_eq hcache, FileSystem.makeDirs_clean]
  refine FileSystem.makeDirs_child_eq_ok_iff hw.covered hne (isEmpty_src cache) hname.isName
    fun made dir hmake hdir e he => ?_
  obtain ⟨hbefore, hunchanged⟩ := FileSystem.unchanged_makeDirs hw.covered hne hmake hdir
  rw [hunchanged.get? _ []] at he
  rcases hbefore with hat | hfree
  · exact (hw.intact dir (by rwa [At, sourceDir_eq hcache])).directory _ e he
  · rw [hw.covered.get?_below hfree] at he
    cases he

/-- What a fetch comes to if an attempt succeeds. -/
lemma fetch_ensured (haddress : d.git.trim.isEmpty = false)
    (hensure : ensure (packageDir cache name) d.git.trim d w = (.ok (version, commit), w'))
    (hversion : IsName (Segment.directoryName version)) :
    ∃ hash t, Names (Segment.directoryName version) hash.text ∧ content hash = some t ∧
      (Segment.directoryName version).bytes.length ≤ nameLimit ∧
      (t.IsPlain →
        (t.FitsAt (versionDir (packageDir cache name) version) →
          Cache.fetch cache name d w = (.ok ⟨versionDir (packageDir cache name) version,
            ⟨Segment.sanitize name, version, Lockfile.gitSource d.git.trim commit,
              t.checksum⟩⟩, w')) ∧
        (¬ t.FitsAt (versionDir (packageDir cache name) version) →
          ∃ cause, Cache.fetch cache name d w = (.error (.path cause), w'))) := by
  obtain ⟨-, hthere, -, src, -, hopened, -⟩ := hw.ensured hcache hname hensure
  obtain ⟨q, e, hlookup⟩ := lookup_of_isThere hthere
  obtain ⟨-, -, -, hshort⟩ := (hopened.lookup_versionDir_iff hcache hversion).mp hlookup
  obtain ⟨hash, t, hnames, ht, -, -, hholds, -⟩ :=
    hopened.checkout_of_lookup hcache hversion hlookup
  refine ⟨hash, t, hnames, ht, hshort, fun hplain => ?_⟩
  obtain ⟨hfits, hunfit⟩ :=
    hopened.ofPath_checkout hcache hname.isName hnames hplain hlookup hholds
  rw [fetch_of_ensure haddress hensure]
  constructor
  · intro hfit
    rw [hfits hfit]
  · intro hfit
    obtain ⟨cause, hcause⟩ := hunfit hfit
    exact ⟨cause, by rw [hcause]⟩

/-- Where the cache has no directory for its revision, a dependency is obtained from a clone. The
first number that is drawn does for its draft, as no drafts are left. -/
lemma ensure_eq_obtain (hrev : Nameable d.rev) (hskip : ¬ HasRevision cache name d w)
    (hmake : w.files.makeDirs w.cwd (packageDir cache name) = (.ok (), made))
    (hrevision : d.revision = .ok (revision, pin))
    (hfits : Fits (draftPath (packageDir cache name) (w.numbers 0))) (address : Text) :
    ∃ src, Opened content cache name (w.withFiles made) src ∧
      Drafted made w.cwd (packageDir cache name) (draftPath (packageDir cache name) (w.numbers 0))
        (src ++ [Segment.directoryName name]) (draftName (w.numbers 0)) ∧
      ensure (packageDir cache name) address d w = obtain (w.withFiles made)
        (packageDir cache name) (draftPath (packageDir cache name) (w.numbers 0)) address revision
        pin := by
  obtain ⟨src, hopened⟩ := hw.opened hcache hname.isName hmake
  obtain ⟨hdrafted, htemp⟩ := makeTemp_of_free (isEmpty_packageDir hcache name) w.numbers
    hopened.base (hopened.get?_draft _) hfits
  refine ⟨src, hopened, hdrafted,
    ensure_of_drafted hopened.sound.covered hmake hrevision ?_ hdrafted htemp⟩
  by_contra hnot
  push Not at hnot
  exact hskip ⟨by simpa using hnot.1,
    (hw.isThere_made hcache hname hrev.isName_trim hmake).mp (by simpa using hnot.2)⟩

/-- Where the cache has no directory for its revision, a dependency is fetched from a clone. -/
lemma fetch_eq_ok_iff (hrev : Nameable d.rev) (hskip : ¬ HasRevision cache name d w)
    (hgives : Gives cache name d w c?)
    (hsettled : ∀ c, c? = some c → Settled content cache name d c) :
    (Cache.fetch cache name d w).1 = .ok found ↔
      d.git.trim.isEmpty = false ∧
      (w.files.makeDirs w.cwd (packageDir cache name)).1 = .ok () ∧
      ∃ c, c? = some c ∧ Delivers content cache name d c found := by
  have hbase := isEmpty_packageDir hcache name
  constructor
  · intro hok
    rcases hfetch : Cache.fetch cache name d w with ⟨r, w'⟩
    rw [hfetch] at hok
    obtain rfl : r = .ok found := hok
    obtain ⟨haddress, version, commit, checksum, hensure, -, rfl⟩ := fetch_eq_ok hfetch
    obtain ⟨made, hmake, hcases⟩ :=
      ensure_eq_ok hw.covered hbase (clean_packageDir hcache name) hensure
    rcases hcases with ⟨hne, rfl, rfl, rfl, hthere⟩ | ⟨files, dir, k, c, hash, rfl, hobtained⟩
    · exact absurd ⟨hne, (hw.isThere_made hcache hname hrev.isName_trim hmake).mp hthere⟩ hskip
    · obtain ⟨revision, pin, hrevision, hresolve, rfl⟩ := hobtained.resolve
      obtain rfl := hobtained.commit_eq
      obtain ⟨-, -, hnames⟩ := hobtained.version_spec
      have hc : c? = some c := by
        rw [← hgives made k hmake]
        exact congrArg Except.toOption hobtained.clone
      obtain ⟨hash', t, hnames', ht, hshort, hresult⟩ :=
        hw.fetch_ensured hcache hname haddress hensure (Segment.isName_of_names hnames)
      obtain rfl : hash' = hash := Hash.eq_of_text (hnames'.unique hnames)
      have hasked : Asked content d c pin hash' t := ⟨revision, hrevision, hresolve, ht⟩
      obtain ⟨hfits, hunfit⟩ := hresult (hsettled c hc _ _ _ hasked).1
      by_cases hfit : t.FitsAt
          (versionDir (packageDir cache name) (pinnedVersion pin hash'.text))
      · have hdelivered := hfits hfit
        rw [hfetch] at hdelivered
        exact ⟨haddress, by rw [hmake], c, hc, pin, hash', t, hasked, hfit, hshort,
          Except.ok.inj (Prod.mk.inj hdelivered).1⟩
      · obtain ⟨cause, hcause⟩ := hunfit hfit
        rw [hfetch] at hcause
        cases hcause
  · rintro ⟨haddress, hmakes, c, hc, pin, hash, t, hasked, hfit, hshort, rfl⟩
    obtain ⟨made, hmake⟩ :
        ∃ made, w.files.makeDirs w.cwd (packageDir cache name) = (.ok (), made) :=
      ⟨_, Prod.ext hmakes rfl⟩
    obtain ⟨hplain, hcheckout⟩ := hsettled c hc _ _ _ hasked
    obtain ⟨tree, htree, hcheckout⟩ := hcheckout hfit
    obtain ⟨revision, hrevision, hresolve, ht⟩ := hasked
    obtain ⟨hpin, htrim⟩ := pin_of_revision hrevision
    obtain ⟨-, -, hnames⟩ := pinnedVersion_spec hpin htrim hash.isHash
    have hversion := Segment.isName_of_names hnames
    obtain ⟨src, hopened, hdrafted, hobtains⟩ :=
      hw.ensure_eq_obtain hcache hname hrev hskip hmake hrevision
        (fits_draftPath hbase hnames (versionDir_eq hcache hname.isName hversion ▸ hfit.fits) _)
        d.git.trim
    have hclone : w.git.clone (w.withFiles made).toHost d.git.trim
        (draftPath (packageDir cache name) (w.numbers 0)) = .ok c :=
      eq_ok_of_toOption_eq_some ((hgives made _ hmake).trans hc)
    obtain ⟨w', hobtain, -⟩ := hopened.obtain_eq_ok hcache hdrafted hclone hresolve htree hcheckout
      hnames hfit.fits hshort
    have hensure := hobtains.trans hobtain
    obtain ⟨hash', t', hnames', ht', -, hresult⟩ :=
      hw.fetch_ensured hcache hname haddress hensure hversion
    obtain rfl : hash' = hash := Hash.eq_of_text (hnames'.unique hnames)
    obtain rfl : t' = t := Option.some.inj (ht'.symm.trans ht)
    rw [(hresult hplain).1 hfit]

end

end Sound

/-- Where the cache has a directory for its revision, an attempt changes nothing. -/
lemma ensure_there (hcache : cache.isEmpty = false) (hname : Nameable name)
    (hrev : Nameable d.rev) (address : Text) (hthere : HasRevision cache name d w) :
    w.files.makeDirs w.cwd (packageDir cache name) = (.ok (), w.files) ∧
      ensure (packageDir cache name) address d w = (.ok (d.rev.trim, d.rev.trim), w) := by
  obtain ⟨hne, hthere⟩ := hthere
  obtain ⟨q, e, hlookup⟩ := lookup_of_isThere hthere
  have hbase := isEmpty_packageDir hcache name
  have hclean := clean_packageDir hcache name
  obtain ⟨-, -, dir, hdir, -⟩ :=
    (inDir_versionDir hbase hclean hrev.isName_trim).of_leads
      (FileSystem.lookup_eq_ok_iff.mp hlookup).1
  have hmake : w.files.makeDirs w.cwd (packageDir cache name) = (.ok (), w.files) :=
    FileSystem.makeDirs_of_lookup (cleanComponents_packageDir hcache hname.isName)
      (hclean.symm ▸ hdir) rfl
  refine ⟨hmake, ?_⟩
  rw [ensure, hmake]
  dsimp only
  rw [revision_of_rev hne]
  have hskip : (!d.rev.trim.isEmpty && isThere (w.withFiles w.files)
      (versionDir (packageDir cache name) d.rev.trim)) = true := by
    rw [hne, show w.withFiles w.files = w from rfl, hthere]
    rfl
  exact if_pos hskip

/-- Where the cache has a directory for its revision, a dependency is fetched from there. -/
lemma Sound.fetch_there (hcache : cache.isEmpty = false) (hw : Sound content cache w)
    (hname : Nameable name) (hrev : Nameable d.rev) (haddress : d.git.trim.isEmpty = false)
    (hthere : HasRevision cache name d w) :
    ∃ hash t, Names (Segment.directoryName d.rev.trim) hash.text ∧ content hash = some t ∧
      (Cache.fetch cache name d w).2 = w ∧
      (∀ found, (Cache.fetch cache name d w).1 = .ok found → found.package.version = d.rev.trim) ∧
      (t.IsPlain → ∀ found, (Cache.fetch cache name d w).1 = .ok found ↔
        t.FitsAt (versionDir (packageDir cache name) d.rev.trim) ∧
        found = ⟨versionDir (packageDir cache name) d.rev.trim,
          ⟨Segment.sanitize name, d.rev.trim, Lockfile.gitSource d.git.trim d.rev.trim,
            t.checksum⟩⟩) := by
  obtain ⟨-, hensure⟩ := ensure_there hcache hname hrev d.git.trim hthere
  obtain ⟨hash, t, hnames, ht, -, hresult⟩ :=
    hw.fetch_ensured hcache hname haddress hensure hrev.isName_trim
  refine ⟨hash, t, hnames, ht, ?_, fun found hfound => ?_, fun hplain found => ?_⟩
  · rw [fetch_of_ensure haddress hensure]
    split <;> rfl
  · rw [fetch_of_ensure haddress hensure] at hfound
    split at hfound
    · cases hfound
    · obtain rfl := Except.ok.inj hfound
      rfl
  · obtain ⟨hfits, hunfit⟩ := hresult hplain
    by_cases hfit : t.FitsAt (versionDir (packageDir cache name) d.rev.trim)
    · rw [hfits hfit, Except.ok.injEq, eq_comm, and_iff_right hfit]
    · obtain ⟨cause, hcause⟩ := hunfit hfit
      rw [hcause]
      exact iff_of_false (by simp) fun h => hfit h.1

/-- There is no directory for a revision in an empty cache. -/
lemma Fresh.not_hasRevision (hcache : cache.isEmpty = false) (hw : Fresh content cache w)
    (hname : Nameable name) (hrev : Nameable d.rev) : ¬ HasRevision cache name d w := by
  rintro ⟨-, hthere⟩
  obtain ⟨q, e, hlookup⟩ := lookup_of_isThere hthere
  have hin := inDir_packageDir hcache hname.isName
  obtain ⟨-, -, dir, hdir, -⟩ :=
    (inDir_versionDir (isEmpty_packageDir hcache name) (clean_packageDir hcache name)
      hrev.isName_trim).of_leads (FileSystem.lookup_eq_ok_iff.mp hlookup).1
  obtain ⟨-, -, src, hsrc, -⟩ := hin.of_leads (FileSystem.lookup_eq_ok_iff.mp hdir).1
  have hempty := hw.empty src hsrc (Segment.directoryName name)
  obtain ⟨-, hget, -⟩ := (hin.lookup_eq_ok_iff hsrc (by simp [hempty])).mp hdir
  rw [hempty] at hget
  cases hget

/-! ### Histories of fetches -/

/-- A dependency is fetched, or other numbers are drawn for the names of drafts. -/
inductive Fetching (cache : Text) (w : World) : World → Prop
  | fetch {name : Text} {d : Dependency} (hname : Nameable name) :
      Fetching cache w (Cache.fetch cache name d w).2
  | draw (numbers : Nat → UInt32) : Fetching cache w { w with numbers := numbers }

/-- The world after some fetches. -/
def After (cache : Text) : World → World → Prop :=
  Relation.ReflTransGen (Fetching cache)

/-- What is the same after some fetches. -/
structure Later (content : Contents) (cache : Text) (w₀ w : World) : Prop where
  sound : Sound content cache w
  rest : w = { w₀.withFiles w.files with numbers := w.numbers }
  attempted : Attempted w₀.cwd (sourceDir cache) w₀.files w.files

/-- What a fetch makes is in the directory of the cache. -/
lemma attempted_fetch (hcache : cache.isEmpty = false) (hfs : Covered w.files)
    (hname : Nameable name) (d : Dependency) :
    Attempted w.cwd (sourceDir cache) w.files (fetch cache name d w).2.files := by
  rcases fetch_cases hcache hfs name d with hsame | ⟨r, made, hmake, hcases⟩
  · rw [hsame]
    exact .same
  · have hcovered := (FileSystem.stored_makeDirs hfs w.cwd (packageDir cache name)).covered hfs
    rw [hmake] at hcovered
    have hgrown : Grown made (fetch cache name d w).2.files := by
      rcases hcases with hfetch | ⟨-, dir, v, _, t, hdir, -, hfree, hfetch⟩
      · rw [hfetch]
        exact .refl made
      · rw [hfetch]
        refine (Stored.lay (P := fun _ _ => True) hcovered hfree ?_ fun _ _ => trivial).grown
        rw [List.dropLast_concat, (FileSystem.lookup_eq_ok_iff.mp hdir).2]
        exact Option.some_ne_none _
    have hparent : w.files.makeDirs w.cwd (sourceDir cache) =
        w.files.makeDirs w.cwd (cache ++ "/" ++ "src") := by
      rw [sourceDir_eq hcache, FileSystem.makeDirs_clean]
    rw [packageDir_eq hcache, FileSystem.makeDirs_clean] at hmake
    rcases FileSystem.makeDirs_slash_cases (isEmpty_src cache) hname.isName hmake with
      ⟨rfl, q, e, hlookup, -⟩ |
      ⟨-, ⟨fault, hsrc, rfl⟩ | ⟨hs, hsrc, ⟨fault, -, rfl, rfl⟩ | ⟨hdir, rfl⟩⟩⟩
    · have hin := FileSystem.inDir_clean (isEmpty_src cache) hname.isName
      obtain ⟨-, -, src, hsrc, -⟩ := hin.of_leads (FileSystem.lookup_eq_ok_iff.mp hlookup).1
      have hmade := FileSystem.makeDirs_of_lookup (cleanComponents_src hcache) hsrc rfl
      exact .made (hparent.trans hmade) hgrown
    · rcases hcases with hfetch | ⟨hok, -⟩
      · rw [hfetch]
        exact .failed (hparent.trans hsrc)
      · cases hok
    · exact .made (hparent.trans hsrc) hgrown
    · have hcovered' := (FileSystem.stored_makeDirs hfs w.cwd (cache ++ "/" ++ "src")).covered hfs
      rw [hsrc] at hcovered'
      exact .made (hparent.trans hsrc) ((FileSystem.grown_of_makeDir hcovered' hdir).trans hgrown)

lemma fetch_rest (hcache : cache.isEmpty = false) (hfs : Covered w.files) (name : Text)
    (d : Dependency) :
    (fetch cache name d w).2 = w.withFiles (fetch cache name d w).2.files := by
  rcases fetch_cases hcache hfs name d with hsame |
    ⟨r, made, -, hfetch | ⟨-, _, _, _, _, -, -, -, hfetch⟩⟩
  · rw [hsame]
    rfl
  · rw [hfetch]
    rfl
  · rw [hfetch]
    rfl

lemma Later.step (hcache : cache.isEmpty = false) (hw₀ : Covered w₀.files)
    (h : Later content cache w₀ w) (hstep : Fetching cache w w') : Later content cache w₀ w' := by
  have hcwd : w.cwd = w₀.cwd := by rw [h.rest]; rfl
  have hne : Path.cleanComponents (sourceDir cache) ≠ [] := by
    rw [sourceDir_eq hcache, Path.cleanComponents_clean]
    exact cleanComponents_src hcache
  cases hstep with
  | @fetch name d hname =>
      have hfiles := attempted_fetch hcache h.sound.covered hname d
      rw [hcwd] at hfiles
      refine ⟨h.sound.fetch hcache hname d, ?_, h.attempted.trans hne hw₀ hfiles⟩
      have hrest := fetch_rest hcache h.sound.covered name d
      generalize (fetch cache name d w).2 = w' at hrest ⊢
      rw [hrest, h.rest]
      rfl
  | draw numbers =>
      refine ⟨⟨h.sound.honest, h.sound.covered, h.sound.intact⟩, ?_, h.attempted⟩
      rw [h.rest]
      rfl

lemma After.later (hcache : cache.isEmpty = false) (hw₀ : Sound content cache w₀)
    (h : After cache w₀ w) : Later content cache w₀ w := by
  induction h with
  | refl => exact ⟨hw₀, rfl, .same⟩
  | tail _ hstep ih => exact ih.step hcache hw₀.covered hstep

/-- What can be made for a dependency stays the same. -/
lemma Later.makeDirs_iff (hcache : cache.isEmpty = false) (hw₀ : Sound content cache w₀)
    (h : Later content cache w₀ w) (hname : Nameable name) :
    (w.files.makeDirs w.cwd (packageDir cache name)).1 = .ok () ↔
      (w₀.files.makeDirs w₀.cwd (packageDir cache name)).1 = .ok () := by
  have hcwd : w.cwd = w₀.cwd := by rw [h.rest]; rfl
  have hne : Path.cleanComponents (sourceDir cache) ≠ [] := by
    rw [sourceDir_eq hcache, Path.cleanComponents_clean]
    exact cleanComponents_src hcache
  rw [h.sound.makeDirs_eq_ok_iff hcache hname, hw₀.makeDirs_eq_ok_iff hcache hname, hcwd,
    h.attempted.makeable_iff hne hw₀.covered]

/-! ### Transparency -/

/-- What a dependency asks for does not change, whatever is fetched: cloning gives one and the same
clone, or fails, and the commit can be settled in the cache. -/
structure Fixed (content : Contents) (cache name : Text) (d : Dependency) (w₀ : World)
    (c? : Option Clone) : Prop where
  gives : ∀ w, After cache w₀ w → Gives cache name d w c?
  settled : ∀ c, c? = some c → Settled content cache name d c

/-- The revision that a dependency asks for is the full hash of a commit of its repository. -/
def HasCommit (d : Dependency) (c? : Option Clone) : Prop :=
  ∃ c hash, c? = some c ∧ d.rev.trim = hash.text ∧ c.resolve hash.text = .ok hash

/-- What is delivered for the full hash of a commit. -/
lemma delivers_hash_iff (hhash : d.rev.trim = hash.text) (hresolve : c.resolve hash.text = .ok hash)
    (ht : content hash = some t) :
    Delivers content cache name d c found ↔
      t.FitsAt (versionDir (packageDir cache name) d.rev.trim) ∧
      found = ⟨versionDir (packageDir cache name) d.rev.trim,
        ⟨Segment.sanitize name, d.rev.trim, Lockfile.gitSource d.git.trim d.rev.trim,
          t.checksum⟩⟩ := by
  have hrevision := revision_of_rev (d := d) (hhash ▸ hash.isHash.nonempty)
  have hversion := pinnedVersion_self hash.isHash
  rw [hhash] at hrevision ⊢
  constructor
  · rintro ⟨pin, hash', t', ⟨revision, hrevision', hresolve', ht'⟩, hfits, -, hfound⟩
    obtain ⟨rfl, rfl⟩ := Prod.mk.inj (Except.ok.inj (hrevision.symm.trans hrevision'))
    obtain rfl := Except.ok.inj (hresolve.symm.trans hresolve')
    obtain rfl := Option.some.inj (ht.symm.trans ht')
    rw [hversion] at hfits hfound
    exact ⟨hfits, hfound⟩
  · rintro ⟨hfits, hfound⟩
    refine ⟨hash.text, hash, t, ⟨hash.text, hrevision, hresolve, ht⟩, ?_⟩
    rw [hversion, Segment.directoryName_hash hash.isHash]
    exact ⟨hfits, hash.isHash.length_bytes_le, hfound⟩

/-- What is delivered under its own revision was asked for by its hash. -/
lemma Delivers.hasCommit (h : Delivers content cache name d c found)
    (hne : d.rev.trim.isEmpty = false) (hversion : found.package.version = d.rev.trim) :
    HasCommit d (some c) := by
  obtain ⟨pin, hash, t, ⟨revision, hrevision, hresolve, -⟩, -, -, rfl⟩ := h
  obtain ⟨rfl, rfl⟩ :=
    Prod.mk.inj (Except.ok.inj (hrevision.symm.trans (revision_of_rev hne)))
  change pinnedVersion d.rev.trim hash.text = d.rev.trim at hversion
  refine ⟨c, hash, rfl, ?_⟩
  suffices hself : d.rev.trim = hash.text by
    rw [hself] at hresolve
    exact ⟨hself, hresolve⟩
  rw [pinnedVersion, hash.isHash.trim, Text.trim_trim,
    if_neg (by rw [hash.isHash.nonempty]; simp)] at hversion
  split at hversion
  · exact hversion.symm
  · -- the version is longer than the revision
    have hlength := congrArg (fun t : Text => t.toList.length) hversion
    simp only [Text.toList_append, List.length_append] at hlength
    have := hash.isHash.length_eq
    omega

/-- **The cache is transparent, except for revisions that have a directory in it**. Whatever has
been fetched into an empty cache, a dependency is fetched as from there if it has no address, the
cache has no directory for its revision, or its revision is the full hash of a commit of its
repository. Otherwise the directory is taken for the revision without a look at the repository, and
what is fetched differs from what the empty cache would give. -/
theorem cache_transparent (hcache : cache.isEmpty = false) (hfresh : Fresh content cache w₀)
    (hafter : After cache w₀ w) (hname : Nameable name) (hrev : Nameable d.rev)
    (hfixed : Fixed content cache name d w₀ c?) :
    (d.git.trim.isEmpty = true ∨ ¬ HasRevision cache name d w ∨ HasCommit d c? →
      ∀ found, (fetch cache name d w).1 = .ok found ↔ (fetch cache name d w₀).1 = .ok found) ∧
    (d.git.trim.isEmpty = false → HasRevision cache name d w →
      ∃ hash t, Names (Segment.directoryName d.rev.trim) hash.text ∧ content hash = some t ∧
        (fetch cache name d w).2 = w ∧
        (t.IsPlain → ∀ found, (fetch cache name d w).1 = .ok found ↔
          t.FitsAt (versionDir (packageDir cache name) d.rev.trim) ∧
          found = ⟨versionDir (packageDir cache name) d.rev.trim,
            ⟨Segment.sanitize name, d.rev.trim, Lockfile.gitSource d.git.trim d.rev.trim,
              t.checksum⟩⟩) ∧
        (¬ HasCommit d c? → ∀ found, (fetch cache name d w).1 = .ok found →
          (fetch cache name d w₀).1 ≠ .ok found)) := by
  have hsound := hfresh.sound
  have hlater := hafter.later hcache hsound
  have hmakes := hlater.makeDirs_iff hcache hsound hname
  have hcold : ∀ found, (fetch cache name d w₀).1 = .ok found ↔ _ := fun found =>
    hsound.fetch_eq_ok_iff hcache hname hrev (hfresh.not_hasRevision hcache hname hrev)
      (hfixed.gives w₀ .refl) hfixed.settled
  constructor
  · intro hcases found
    by_cases hempty : d.git.trim.isEmpty = true
    · rw [fetch, fetch, if_pos hempty, if_pos hempty]
    · have haddress : d.git.trim.isEmpty = false := by simpa using hempty
      by_cases hthere : HasRevision cache name d w
      · -- the revision is the hash that its directory is named for
        obtain ⟨c, hash, hc, hhash, hresolve⟩ : HasCommit d c? :=
          (hcases.resolve_left hempty).resolve_left (not_not_intro hthere)
        obtain ⟨hash', t, hnames, ht, -, -, hwarm⟩ :=
          hlater.sound.fetch_there hcache hname hrev haddress hthere
        rw [hhash, Segment.directoryName_hash hash.isHash] at hnames
        obtain rfl : hash' = hash := Hash.eq_of_text (hnames.unique (.self hash.isHash))
        have hasked : Asked content d c d.rev.trim hash' t :=
          ⟨hash'.text, hhash ▸ revision_of_rev hthere.1, hresolve, ht⟩
        obtain ⟨hplain, -⟩ := hfixed.settled c hc _ _ _ hasked
        have hmade := (ensure_there hcache hname hrev d.git.trim hthere).1
        rw [hwarm hplain, hcold, ← hmakes, hmade, ← delivers_hash_iff hhash hresolve ht]
        simp [haddress, hc]
      · rw [hcold, ← hmakes]
        exact hlater.sound.fetch_eq_ok_iff hcache hname hrev hthere (hfixed.gives w hafter)
          hfixed.settled
  · intro haddress hthere
    obtain ⟨hash, t, hnames, ht, hsame, hversion, hwarm⟩ :=
      hlater.sound.fetch_there hcache hname hrev haddress hthere
    refine ⟨hash, t, hnames, ht, hsame, hwarm, fun hcommit found hfound hfound' => ?_⟩
    obtain ⟨-, -, c, rfl, hdelivers⟩ := (hcold found).mp hfound'
    exact hcommit (hdelivers.hasCommit hthere.1 (hversion found hfound))

/-! ### Fetching again -/

/-- The machine with a repository that has one commit. -/
def emptyCache : World := machine (repositoryOf [firstCommit] firstHash)

/-- The machine after fetches of the commit, by tag and by hash. -/
def refetched : World :=
  (fetch "/home" "dep" byHash (fetch "/home" "dep" byTag emptyCache).2).2

lemma after_refetched : After "/home" emptyCache refetched :=
  .tail (.single (.fetch nameable_dep)) (.fetch nameable_dep)

/-- Where repositories are served by their addresses, no fetch changes what is cloned. -/
lemma gives_serving (hcache : cache.isEmpty = false) (hw₀ : Sound content cache w₀)
    {repositories : List (Text × Repository)} (hgit : w₀.git = .serving repositories)
    (name : Text) (d : Dependency) (hafter : After cache w₀ w) :
    Gives cache name d w ((repositories.lookup d.git.trim).map Repository.clone) := by
  intro made k _
  have hsame : w.git = .serving repositories := by
    rw [(hafter.later hcache hw₀).rest]
    exact hgit
  rw [hsame, Git.serving]
  dsimp only
  cases repositories.lookup d.git.trim <;> rfl

/-- What is asked for in the repository is its commit. -/
lemma settled_first (cache name : Text) (d : Dependency) :
    Settled packageContents cache name d (repositoryOf [firstCommit] firstHash).clone := by
  rintro pin hash t ⟨revision, -, hresolve, ht⟩
  have hfirst : hash = firstHash := by
    rw [Repository.clone] at hresolve
    dsimp only at hresolve
    split at hresolve
    · rename_i h hlookup
      obtain rfl := Except.ok.inj hresolve
      obtain ⟨before, after, hsplit, -⟩ := List.lookup_eq_some_iff.mp hlookup
      have hmem : (revision, h) ∈ (repositoryOf [firstCommit] firstHash).refs := by simp [hsplit]
      have hall : ∀ b ∈ (repositoryOf [firstCommit] firstHash).refs, b.2 = firstHash := by
        decide +kernel
      exact hall _ hmem
    · cases hresolve
  subst hfirst
  obtain rfl := Option.some.inj ht
  exact ⟨by decide +kernel, fun _ => ⟨_, rfl, rfl⟩⟩

lemma fixed_origin (hd : d.git.trim = origin) : Fixed packageContents "/home" "dep" d emptyCache
    (some (repositoryOf [firstCommit] firstHash).clone) := by
  constructor
  · intro w hafter
    have hgives := gives_serving rfl (fresh_machine honest_first).sound rfl "dep" d hafter
    rwa [hd, List.lookup_cons_self] at hgives
  · intro c hc
    obtain rfl := Option.some.inj hc
    exact settled_first "/home" "dep" d

/-- The commit is in the cache under its hash, and is fetched as without a cache. -/
theorem cache_transparent_refetched :
    HasRevision "/home" "dep" byHash refetched ∧
    ∃ found, fetch "/home" "dep" byHash refetched = (.ok found, refetched) ∧
      (fetch "/home" "dep" byHash emptyCache).1 = .ok found := by
  have hthere : HasRevision "/home" "dep" byHash refetched := by
    rw [HasRevision]
    decide +kernel
  have hnames : Names (Segment.directoryName byHash.rev.trim) firstHash.text := by
    rw [show byHash.rev.trim = firstHash.text from firstHash.isHash.trim,
      Segment.directoryName_hash firstHash.isHash]
    exact .self firstHash.isHash
  have hcommit : HasCommit byHash (some (repositoryOf [firstCommit] firstHash).clone) :=
    ⟨_, firstHash, rfl, firstHash.isHash.trim, eq_ok_of_toOption_eq_some (by decide +kernel)⟩
  obtain ⟨hsame, hwarm⟩ := cache_transparent rfl (fresh_machine honest_first) after_refetched
    nameable_dep (d := byHash) ⟨by decide +kernel, by decide +kernel⟩
    (fixed_origin (by decide +kernel))
  obtain ⟨hash, t, hnames', ht, hworld, hfound, -⟩ := hwarm (by decide +kernel) hthere
  obtain rfl : hash = firstHash := Hash.eq_of_text (hnames'.unique hnames)
  obtain rfl := Option.some.inj ht
  have hok := (hfound (by decide +kernel) _).mpr ⟨by decide +kernel, rfl⟩
  exact ⟨hthere, _, Prod.ext hok hworld, (hsame (.inr (.inr hcommit)) _).mp hok⟩

/-! ### When it is not -/

/-- The first commit, from where there is no repository. -/
def astray : Dependency := ⟨"", "foo://x/y", firstHash.text, "", ""⟩

/-- The name of the first commit's directory as a revision. -/
def byDirectory : Dependency := ⟨"", origin, firstTagged, "", ""⟩

/-- The directory around that of the dependency as a revision. -/
def byParent : Dependency := ⟨"", origin, "..", "", ""⟩

/-- The machine after a fetch that failed, for a dependency with the name of a checkout. -/
def reserved : World := (fetch "/home" firstTagged astray emptyCache).2

/-- How a fetched dependency is locked. -/
def lockedIn (cache name : Text) (d : Dependency) (w : World) : Option LockedPackage :=
  (fetch cache name d w).1.toOption.map Fetched.package

/-- A tree with a link to a file in the checkout of another dependency. -/
def peekingTree : Tree where
  entries := [(["peek"], .link ("../../other/" ++ firstTagged ++ "/package.yml"))]
  distinct := by decide
  fits := by decide

/-- Where the repository with this tree is. -/
def peekingOrigin : Text := "https://example.com/x.git"

/-- What this repository's tag names. -/
def peeking : Dependency := ⟨"", peekingOrigin, "", "v1", ""⟩

/-- Both repositories by their addresses. -/
def twoRepositories : List (Text × Repository) :=
  [(origin, repositoryOf [firstCommit] firstHash),
    (peekingOrigin, repositoryOf [(secondHash, peekingTree)] secondHash)]

/-- The machine with both repositories. -/
def twoOrigins : World := { Remotes.world [] [] "/" with git := .serving twoRepositories }

/-- What their commits hold. -/
def twoContents : Contents := fun hash => [firstCommit, (secondHash, peekingTree)].lookup hash

lemma fresh_twoOrigins : Fresh twoContents "/home" twoOrigins := by
  refine ⟨Git.honest_serving fun b hb c hc => ?_, fun b hb => (List.not_mem_nil hb).elim,
    fun src hsrc => ?_⟩
  · rcases List.mem_cons.mp hb with rfl | hb
    · obtain rfl := List.mem_singleton.mp hc
      rfl
    · obtain rfl := List.mem_singleton.mp hb
      obtain rfl := List.mem_singleton.mp hc
      rfl
  · have hnone : twoOrigins.files.lookup twoOrigins.cwd (sourceDir "/home") =
        .error .notExist := rfl
    rw [At, hnone] at hsrc
    cases hsrc

/-- **The cache can make a difference**. A commit that is in it is fetched for an address that leads
to no repository; the name of a directory in it is taken for a revision that no repository has; and
a link may lead into the checkout of another dependency. A dependency named `.` finds the directory
of another one where its checkout would be, and the revision `..` stands for all there is. -/
theorem cache_opaque :
    (After "/home" emptyCache refetched ∧
      Fixed packageContents "/home" "dep" astray emptyCache none ∧
      (fetch "/home" "dep" astray refetched).1.isOk = true ∧
      (fetch "/home" "dep" astray emptyCache).1.isOk = false ∧
      Fixed packageContents "/home" "dep" byDirectory emptyCache
        (some (repositoryOf [firstCommit] firstHash).clone) ∧
      (fetch "/home" "dep" byDirectory refetched).1.isOk = true ∧
      (fetch "/home" "dep" byDirectory emptyCache).1.isOk = false) ∧
    (Fresh twoContents "/home" twoOrigins ∧
      (∀ w, After "/home" twoOrigins w → Gives "/home" "dep" peeking w
        (some (repositoryOf [(secondHash, peekingTree)] secondHash).clone)) ∧
      After "/home" twoOrigins (fetch "/home" "other" byTag twoOrigins).2 ∧
      (fetch "/home" "dep" peeking (fetch "/home" "other" byTag twoOrigins).2).1.isOk = true ∧
      (fetch "/home" "dep" peeking twoOrigins).1.isOk = false) ∧
    After "/home" emptyCache reserved ∧
      lockedIn "/home" "." byTag reserved ≠ lockedIn "/home" "." byTag emptyCache ∧
      lockedIn "/home" "dep" byParent refetched ≠ lockedIn "/home" "dep" byParent emptyCache := by
  have hastray : Fixed packageContents "/home" "dep" astray emptyCache none := by
    refine ⟨fun w hafter => ?_, fun c hc => by cases hc⟩
    have hnone : [(origin, repositoryOf [firstCommit] firstHash)].lookup astray.git.trim =
        none := rfl
    have hgives := gives_serving rfl (fresh_machine honest_first).sound rfl "dep" astray hafter
    rwa [hnone] at hgives
  have hpeeking : ∀ w, After "/home" twoOrigins w → Gives "/home" "dep" peeking w
      (some (repositoryOf [(secondHash, peekingTree)] secondHash).clone) := by
    intro w hafter
    have hsome : twoRepositories.lookup peeking.git.trim =
        some (repositoryOf [(secondHash, peekingTree)] secondHash) := rfl
    have hgives := gives_serving rfl fresh_twoOrigins.sound rfl "dep" peeking hafter
    rwa [hsome] at hgives
  have hother : Nameable "other" := ⟨by decide, by decide⟩
  -- both fetches from one evaluation of what was fetched before
  have hwarm : (fetch "/home" "dep" astray refetched).1.isOk = true ∧
      (fetch "/home" "dep" byDirectory refetched).1.isOk = true := by
    decide +kernel
  have hcold : (fetch "/home" "dep" astray emptyCache).1.isOk = false ∧
      (fetch "/home" "dep" byDirectory emptyCache).1.isOk = false := by
    decide +kernel
  have hreserved : Nameable firstTagged := ⟨by decide +kernel, by decide +kernel⟩
  exact ⟨⟨after_refetched, hastray, hwarm.1, hcold.1, fixed_origin (by decide +kernel), hwarm.2,
    hcold.2⟩, ⟨fresh_twoOrigins, hpeeking, .single (.fetch hother), by decide +kernel,
    by decide +kernel⟩, .single (.fetch hreserved), by decide +kernel, by decide +kernel⟩

end Cache

end PocketScheme
