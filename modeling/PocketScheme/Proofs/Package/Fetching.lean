import PocketScheme.Proofs.FileSystem.Changing
import PocketScheme.Proofs.Package.Checkouts

/-!
Fetching through the cache. A repository is cloned into a directory with a new name, the draft,
which is moved to its place in the end or removed, so that only what was moved is left.

* `Cache.sourceDir`: the directory that the cache keeps checkouts in;
* `Cache.Drafted`: the path is that of a new name in a directory;
* `Cache.Drafted.obtain_eq_error`, `Cache.Drafted.obtain_eq_ok_iff`: what comes of a clone;
* `Cache.ensure_eq_error`, `Cache.ensure_eq_ok`: what is left of an attempt;
* `Cache.fetch_eq_ok`, `Cache.fetch_eq_error`: the same for a whole fetch;
* `Cache.fetch_cases`: all that a fetch does to the files.
-/

namespace PocketScheme

open PocketScheme.Path (IsName)

namespace Cache

open PocketScheme.FileSystem (Covered Grown Stored Fits Leads InDir nameLimit)

/-! ### Directories of the cache -/

/-- The directory that the directories of dependencies are in. -/
def sourceDir (cache : Text) : Text :=
  Path.join [cache, "src"]

lemma isEmpty_src (cache : Text) : (cache ++ "/" ++ "src").isEmpty = false :=
  Text.isEmpty_append_of_right rfl _

lemma isName_src : IsName ("src" : Text) :=
  ⟨rfl, by decide, by decide, by decide⟩

lemma clean_versionDir {base : Text} (hbase : base.isEmpty = false) (version : Text) :
    Path.clean (versionDir base version) = versionDir base version := by
  rw [versionDir, Path.join_pair hbase (Segment.isEmpty_directoryName version), Path.clean_clean]

/-- The directory of a version is in that of its dependency. -/
lemma inDir_versionDir {base version : Text} (hbase : base.isEmpty = false)
    (hclean : Path.clean base = base) (hversion : IsName (Segment.directoryName version)) :
    InDir base (versionDir base version) (Segment.directoryName version) := by
  have hin := FileSystem.inDir_clean hbase hversion
  rwa [hclean, ← Path.join_pair hbase hversion.nonempty] at hin

section

variable {cache : Text} (hcache : cache.isEmpty = false)

include hcache

lemma sourceDir_eq : sourceDir cache = Path.clean (cache ++ "/" ++ "src") :=
  Path.join_pair hcache rfl

lemma cleanComponents_src : Path.cleanComponents (cache ++ "/" ++ "src") ≠ [] := by
  rw [Path.cleanComponents_slash_name hcache isName_src]
  simp

/-- The directory of a dependency, as a clean path. -/
lemma packageDir_eq (name : Text) : packageDir cache name =
    Path.clean (cache ++ "/" ++ "src" ++ "/" ++ Segment.directoryName name) := by
  have hsrc : Text.isEmpty "src" = false := rfl
  have hthree : Text.intercalate "/" [cache, "src", Segment.directoryName name] =
      cache ++ "/" ++ "src" ++ "/" ++ Segment.directoryName name := by
    rw [show [cache, ("src" : Text), Segment.directoryName name] =
      [cache, "src"] ++ [Segment.directoryName name] from rfl, Path.intercalate_concat (by simp),
      Path.intercalate_pair]
  simp [packageDir, Path.join, hcache, hsrc, Segment.isEmpty_directoryName, hthree]

lemma isEmpty_packageDir (name : Text) : (packageDir cache name).isEmpty = false := by
  rw [packageDir_eq hcache]
  exact Path.isEmpty_clean _

lemma clean_packageDir (name : Text) :
    Path.clean (packageDir cache name) = packageDir cache name := by
  rw [packageDir_eq hcache, Path.clean_clean]

variable {name : Text} (hname : IsName (Segment.directoryName name))

include hname

lemma cleanComponents_packageDir : Path.cleanComponents (packageDir cache name) ≠ [] := by
  rw [packageDir_eq hcache, Path.cleanComponents_clean,
    Path.cleanComponents_slash_name (isEmpty_src cache) hname]
  simp

lemma inDir_packageDir :
    InDir (sourceDir cache) (packageDir cache name) (Segment.directoryName name) := by
  rw [sourceDir_eq hcache, packageDir_eq hcache]
  exact FileSystem.inDir_clean (isEmpty_src cache) hname

lemma versionDir_eq {version : Text} (hversion : IsName (Segment.directoryName version)) :
    versionDir (packageDir cache name) version =
      packageDir cache name ++ "/" ++ Segment.directoryName version := by
  have hne := cleanComponents_packageDir hcache hname
  rw [packageDir_eq hcache] at hne ⊢
  exact Path.join_name (by rwa [Path.cleanComponents_clean] at hne) hversion

/-- A checkout is not in a directory that does not count. -/
lemma lastName_versionDir {version : Text} (hversion : IsName (Segment.directoryName version))
    {hash : Text} (hnames : Names (Segment.directoryName version) hash) :
    Checksum.lastName (versionDir (packageDir cache name) version) ≠ Checksum.skipped := by
  rw [versionDir_eq hcache hname hversion, Checksum.lastName_slash_name _ hversion]
  exact hnames.ne (by decide)

end

/-! ### Revisions -/

lemma pin_of_revision {d : Dependency} {revision pin : Text}
    (h : d.revision = .ok (revision, pin)) : pin.isEmpty = false ∧ pin.trim = pin := by
  rw [Dependency.revision] at h
  split at h
  · rename_i hne
    cases h
    exact ⟨by simpa using hne, Text.trim_trim _⟩
  · split at h
    · rename_i hne
      cases h
      exact ⟨by simpa using hne, Text.trim_trim _⟩
    · split at h
      · rename_i hne
        cases h
        exact ⟨by simpa using hne, Text.trim_trim _⟩
      · cases h

lemma trim_append_mark {pin hash : Text} (hpin : pin.isEmpty = false) (htrim : pin.trim = pin)
    (hhash : IsHash hash) : (pin ++ "@" ++ hash).trim = pin ++ "@" ++ hash := by
  refine Text.trim_eq_self (fun g hg => Text.head?_trim pin g ?_) fun g hg => ?_
  · rw [htrim]
    obtain ⟨gs⟩ := pin
    cases gs with
    | nil => cases hpin
    | cons f gs => exact hg
  · have hne : hash.toList ≠ [] := by
      rw [← List.isEmpty_eq_false_iff]
      exact hhash.nonempty
    rw [Text.toList_append, List.getLast?_append_of_ne_nil _ hne] at hg
    exact (hhash.of_mem_digits (P := fun g => Text.isBlankGlyph g = false) (by decide)) g
      (List.mem_of_getLast? hg)

lemma pinnedVersion_self {hash : Text} (hhash : IsHash hash) : pinnedVersion hash hash = hash := by
  rw [pinnedVersion, hhash.trim, if_neg (by rw [hhash.nonempty]; simp), if_pos (by simp)]

/-- The version of a commit, and the name of its directory. -/
lemma pinnedVersion_spec {pin hash : Text} (hpin : pin.isEmpty = false) (htrim : pin.trim = pin)
    (hhash : IsHash hash) :
    (pinnedVersion pin hash).isEmpty = false ∧
      (pinnedVersion pin hash).trim = pinnedVersion pin hash ∧
      Names (Segment.directoryName (pinnedVersion pin hash)) hash := by
  rw [pinnedVersion, hhash.trim, htrim, if_neg (by rw [hhash.nonempty]; simp)]
  split
  · rw [Segment.directoryName_hash hhash]
    exact ⟨hhash.nonempty, hhash.trim, .self hhash⟩
  · have hver := trim_append_mark hpin htrim hhash
    have hne := Text.isEmpty_append_of_right hhash.nonempty (pin ++ "@")
    refine ⟨hne, hver, hhash, ?_⟩
    rw [Segment.directoryName_eq (by rw [hver]; exact hne), hver, Text.toList_append,
      List.map_append]
    have hkept : hash.toList.map (fun g => if g.satisfies Segment.isPlain then g else .char '_') =
        hash.toList := by
      conv_rhs => rw [← List.map_id hash.toList]
      exact List.map_congr_left fun g hg => if_pos (hhash.isPlain g hg)
    rw [hkept]
    exact List.suffix_append _ _

lemma revision_of_rev {d : Dependency} (hrev : d.rev.trim.isEmpty = false) :
    d.revision = .ok (d.rev.trim, d.rev.trim) := by
  rw [Dependency.revision]
  exact if_pos (by rw [hrev]; rfl)

/-! ### Drafts -/

/-- The name of a draft with a number. -/
def draftName (k : UInt32) : Text :=
  draftFront ++ Number.natText k.toNat

/-- The path of a draft with a number. -/
def draftPath (base : Text) (k : UInt32) : Text :=
  FileSystem.inside base (draftName k)

lemma toList_draftName (k : UInt32) :
    (draftName k).toList = draftFront.toList ++ (Number.natChars k.toNat).map .char := by
  rw [draftName, Text.toList_append, Number.natText, Text.ofString, Text.ofChars,
    String.toList_ofList]

lemma length_natChars (k : UInt32) : (Number.natChars k.toNat).length ≤ 10 :=
  Nat.toDigits_length 10 k.toNat 10 (by decide) (Nat.lt_trans k.toNat_lt (by decide))

lemma length_draftName (k : UInt32) : (draftName k).toList.length ≤ 20 := by
  have hfront : draftFront.toList.length = 10 := by decide
  rw [toList_draftName, List.length_append, List.length_map, hfront]
  have := length_natChars k
  omega

/-- The names of drafts are made of letters, digits and dashes. -/
lemma of_mem_draftName {P : Glyph → Prop} (hfront : ∀ g ∈ draftFront.toList, P g)
    (hdigit : ∀ c : Char, c.isDigit = true → P (.char c)) (k : UInt32) :
    ∀ g ∈ (draftName k).toList, P g := by
  intro g hg
  rw [toList_draftName] at hg
  rcases List.mem_append.mp hg with hg | hg
  · exact hfront g hg
  · obtain ⟨c, hc, rfl⟩ := List.mem_map.mp hg
    exact hdigit c (Nat.isDigit_of_mem_toDigits (by omega) (by omega) hc)

lemma isName_draftName (k : UInt32) : IsName (draftName k) := by
  have hne : ∀ t : Text, t.toList.length < 10 → draftName k ≠ t := by
    rintro t ht rfl
    rw [toList_draftName, List.length_append] at ht
    have hfront : draftFront.toList.length = 10 := by decide
    omega
  refine ⟨?_, hne "." (by decide), hne ".." (by decide), fun hslash => ?_⟩
  · rw [Text.isEmpty, toList_draftName]
    rfl
  · refine of_mem_draftName (P := (· ≠ .char '/')) (by decide) ?_ k _ hslash rfl
    intro c hc heq
    rw [Glyph.char.inj heq] at hc
    cases hc

lemma null_free_draftName (k : UInt32) : Glyph.char '\x00' ∉ (draftName k).toList := by
  intro hnull
  refine of_mem_draftName (P := (· ≠ .char '\x00')) (by decide) ?_ k _ hnull rfl
  intro c hc heq
  rw [Glyph.char.inj heq] at hc
  cases hc

lemma length_bytes_draftName (k : UInt32) : (draftName k).bytes.length ≤ 20 := by
  have hone : ∀ g ∈ (draftName k).toList, g.bytes.length = 1 := by
    refine of_mem_draftName (by decide) (fun c hc => ?_) k
    have hlow : c.toNat < 128 := by
      rw [Char.isDigit, Bool.and_eq_true, decide_eq_true_eq, decide_eq_true_eq] at hc
      exact Nat.lt_of_le_of_lt (UInt32.le_iff_toNat_le.mp hc.2) (by decide)
    rw [Glyph.bytes, String.length_utf8EncodeChar]
    exact Char.utf8Size_eq_one_iff.mpr (UInt32.le_iff_toNat_le.mpr (by
      change c.toNat ≤ 127
      omega))
  rw [Text.bytes, List.length_flatMap, List.map_congr_left hone, List.map_const',
    List.sum_replicate_nat, Nat.mul_one]
  exact length_draftName k

/-- The path of a draft is not too long if that of a checkout is not. -/
lemma fits_draftPath {base version hash : Text} (hbase : base.isEmpty = false)
    (hnames : Names version hash) (hfits : Fits (base ++ "/" ++ version)) (k : UInt32) :
    Fits (draftPath base k) := by
  have hlong : 40 ≤ version.bytes.length :=
    hnames.isHash.length_bytes ▸ hnames.length_bytes_le
  have hfront := hfits.front hbase (List.prefix_append_of_prefix (List.prefix_append _ _))
  have hlength := hfits.length_lt
  rw [Text.bytes_append, Text.bytes_append, List.length_append, List.length_append] at hlength
  have hslash : Text.bytes "/" = [47] := by decide
  rw [hslash, List.length_singleton] at hlength
  have hshort := length_bytes_draftName k
  rw [draftPath, FileSystem.inside]
  split
  · refine ⟨Text.isEmpty_append_of_right (isName_draftName k).nonempty _, fun hnull => ?_, ?_⟩
    · rcases List.mem_append.mp hnull with hnull | hnull
      · exact hfront.null_free hnull
      · exact null_free_draftName k hnull
    · rw [Text.bytes_append, List.length_append]
      omega
  · refine ⟨Text.isEmpty_append_of_right (isName_draftName k).nonempty _, fun hnull => ?_, ?_⟩
    · rcases List.mem_append.mp hnull with hnull | hnull
      · rcases List.mem_append.mp hnull with hnull | hnull
        · exact hfront.null_free hnull
        · exact absurd hnull (by decide)
      · exact null_free_draftName k hnull
    · rw [Text.bytes_append, Text.bytes_append, List.length_append, List.length_append, hslash,
        List.length_singleton]
      omega

/-- The path `draft` is that of a new name in the directory at the path `base`. -/
structure Drafted (fs : FileSystem) (cwd base draft : Text) (dir : Place) (n : Text) : Prop where
  directory : fs.lookup cwd base = .ok (dir, .directory)
  short : n.toList.length < 40
  leads : Leads fs false cwd draft (dir ++ [n])
  free : fs.get? (dir ++ [n]) = none

variable {fs : FileSystem} {cwd base draft address revision pin version commit : Text}
  {dir : Place} {n v : Text} {t : Tree} {w w' : World} {d : Dependency}

lemma drafted_of_makeTemp (hbase : base.isEmpty = false) {numbers : Nat → UInt32}
    {gs : FileSystem} (h : fs.makeTemp cwd base draftFront numbers = .ok (draft, gs)) :
    ∃ dir k, draft = draftPath base k ∧ Drafted fs cwd base draft dir (draftName k) ∧
      gs = fs.put (dir ++ [draftName k]) .directory := by
  obtain ⟨m, hpath, hmake⟩ := FileSystem.makeTemp_eq_ok h
  obtain ⟨q, hleads, hfree, rfl⟩ := FileSystem.makeDir_eq_ok_iff.mp hmake
  have hin : InDir base draft (draftName (numbers m)) := by
    rw [hpath]
    exact FileSystem.inDir_inside hbase (isName_draftName _)
  obtain ⟨-, -, dir, hdir, hq⟩ := hin.of_leads hleads
  obtain rfl := hq (by simp)
  have hshort := length_draftName (numbers m)
  exact ⟨dir, numbers m, hpath, ⟨hdir, by omega, hleads, hfree⟩, rfl⟩

/-- Where no draft is left, the first name that is tried is free. -/
lemma makeTemp_of_free (hbase : base.isEmpty = false) (numbers : Nat → UInt32)
    (hdir : fs.lookup cwd base = .ok (dir, .directory))
    (hfree : fs.get? (dir ++ [draftName (numbers 0)]) = none)
    (hfits : Fits (draftPath base (numbers 0))) :
    Drafted fs cwd base (draftPath base (numbers 0)) dir (draftName (numbers 0)) ∧
    fs.makeTemp cwd base draftFront numbers =
      .ok (draftPath base (numbers 0), fs.put (dir ++ [draftName (numbers 0)]) .directory) := by
  obtain ⟨hleads, hget⟩ := FileSystem.lookup_eq_ok_iff.mp hdir
  have hin : InDir base (draftPath base (numbers 0)) (draftName (numbers 0)) :=
    FileSystem.inDir_inside hbase (isName_draftName _)
  have hshort : (draftName (numbers 0)).bytes.length ≤ nameLimit :=
    Nat.le_trans (length_bytes_draftName _) (by decide)
  have hto : Leads fs false cwd (draftPath base (numbers 0)) (dir ++ [draftName (numbers 0)]) :=
    hin.leads hleads hget hfits hshort (by simp)
  have hlength := length_draftName (numbers 0)
  refine ⟨⟨hdir, by omega, hto, hfree⟩, ?_⟩
  have hmake : fs.makeDir cwd (draftPath base (numbers 0)) =
      .ok (fs.put (dir ++ [draftName (numbers 0)]) .directory) :=
    FileSystem.makeDir_eq_ok_iff.mpr ⟨_, hto, hfree, rfl⟩
  have htries : FileSystem.tryLimit = 9999 + 1 := rfl
  rw [FileSystem.makeTemp, htries, FileSystem.makeTempFrom, ← draftName, ← draftPath, hmake]

namespace Drafted

lemma stored (h : Drafted fs cwd base draft dir n) (hfs : Covered fs) (t : Tree) :
    Stored (fun q _ => dir ++ [n] <+: q) fs (fs.lay (dir ++ [n]) t) := by
  refine .lay hfs h.free ?_ fun rest _ => List.prefix_append _ _
  rw [List.dropLast_concat, (FileSystem.lookup_eq_ok_iff.mp h.directory).2]
  exact Option.some_ne_none _

lemma lookup_base_lay (h : Drafted fs cwd base draft dir n) (hfs : Covered fs) (t : Tree) :
    (fs.lay (dir ++ [n]) t).lookup cwd base = .ok (dir, .directory) :=
  FileSystem.lookup_of_grown (h.stored hfs t).grown h.directory

lemma followTo (h : Drafted fs cwd base draft dir n) :
    fs.followTo cwd draft = .free (dir ++ [n]) :=
  FileSystem.trace_eq_free_iff.mpr ⟨h.leads, h.free⟩

lemma followTo_lay (h : Drafted fs cwd base draft dir n) (hfs : Covered fs) (t : Tree) :
    (fs.lay (dir ++ [n]) t).followTo cwd draft = .entry (dir ++ [n]) .directory := by
  have hget : (fs.lay (dir ++ [n]) t).get? (dir ++ [n]) = some .directory :=
    FileSystem.get?_lay_self (by simp)
  refine FileSystem.trace_eq_entry_iff.mpr ⟨h.leads.of_ways (h.stored hfs t).grown.ways ?_, hget⟩
  intro target hlink
  rw [hget] at hlink
  cases hlink

lemma remove_lay (h : Drafted fs cwd base draft dir n) (hfs : Covered fs) (t : Tree) :
    (fs.lay (dir ++ [n]) t).remove (dir ++ [n]) = fs := by
  rw [FileSystem.lay, FileSystem.remove_graft,
    FileSystem.remove_eq_self (hfs.below_eq_nil h.free)]

/-- A directory that was made for its name only is removed again. -/
lemma removeAll_put (h : Drafted fs cwd base draft dir n) (hfs : Covered fs) :
    (fs.put (dir ++ [n]) .directory).removeAll cwd draft = .ok fs := by
  have hlookup := (h.leads.through (by simp [h.free])).lookup_put (.inl h.free)
    (e := .directory) (by simp)
  have hway : (fs.put (dir ++ [n]) .directory).followTo cwd draft =
      .entry (dir ++ [n]) .directory := by
    refine FileSystem.trace_eq_entry_iff.mpr
      ⟨h.leads.of_ways (FileSystem.Writable.ways (.inl h.free)) ?_, ?_⟩
    · intro target hlink
      rw [(FileSystem.lookup_eq_ok_iff.mp hlookup).2] at hlink
      cases hlink
    · exact (FileSystem.lookup_eq_ok_iff.mp hlookup).2
  rw [FileSystem.removeAll, hway]
  dsimp only
  rw [FileSystem.remove_put_self, FileSystem.remove_eq_self (hfs.below_eq_nil h.free)]

section World

variable (h : Drafted w.files w.cwd base draft dir n)

include h

lemma discard_eq : discard w draft = w := by
  rw [discard, FileSystem.removeAll, h.followTo]
  rfl

lemma layAt_eq (t : Tree) : layAt w draft t = w.withFiles (w.files.lay (dir ++ [n]) t) := by
  rw [layAt, h.followTo]

variable (hfs : Covered w.files)

include hfs

lemma discard_lay (t : Tree) :
    discard (w.withFiles (w.files.lay (dir ++ [n]) t)) draft = w := by
  rw [discard, FileSystem.removeAll, World.withFiles]
  dsimp only
  rw [h.followTo_lay hfs]
  dsimp only
  rw [h.remove_lay hfs]
  rfl

lemma layAt_lay (t u : Tree) : layAt (w.withFiles (w.files.lay (dir ++ [n]) u)) draft t =
    w.withFiles (w.files.lay (dir ++ [n]) t) := by
  rw [layAt, World.withFiles]
  dsimp only
  rw [h.followTo_lay hfs]
  dsimp only
  rw [FileSystem.lay, FileSystem.lay, FileSystem.graft_graft]
  rfl

/-- Moving a draft lays its tree elsewhere. -/
lemma moveDir_eq_ok_iff {target : Text} {gs : FileSystem} :
    (w.files.lay (dir ++ [n]) t).moveDir w.cwd draft target = .ok gs ↔
      ∃ q, (w.files.lay (dir ++ [n]) t).followTo w.cwd target = .free q ∧
        ¬ dir ++ [n] <+: q ∧ gs = w.files.lay q t := by
  rw [FileSystem.moveDir, h.followTo_lay hfs]
  cases (w.files.lay (dir ++ [n]) t).followTo w.cwd target with
  | entry q e => simp
  | nowhere cause => simp
  | free q =>
      simp only [FileSystem.Found.free.injEq, exists_eq_left', List.isPrefixOf_iff_prefix]
      split
      · rename_i hwithin
        simp [hwithin]
      · rename_i hwithin
        rw [h.remove_lay hfs, FileSystem.below_lay_self, and_iff_right hwithin, Except.ok.injEq,
          eq_comm]
        rfl

/-- Whatever fails in checking out or moving a draft, the draft is removed. -/
lemma settle_eq_error {target : Text} {c : Clone} {hash : Hash} {fault : FetchFault}
    (hsettle : settle (w.withFiles (w.files.lay (dir ++ [n]) t)) draft target revision c hash =
      (.error fault, w')) : w' = w := by
  rw [settle] at hsettle
  split at hsettle
  · rw [← (Prod.mk.inj hsettle).2, h.discard_lay hfs]
  · split at hsettle
    · rw [← (Prod.mk.inj hsettle).2, h.layAt_lay hfs, h.discard_lay hfs]
    · rw [h.layAt_lay hfs] at hsettle
      dsimp only at hsettle
      split at hsettle
      · rw [← (Prod.mk.inj hsettle).2, h.discard_lay hfs]
      · cases hsettle

/-- A draft is settled if the commit is checked out in it and then it is moved to a free place. -/
lemma settle_eq_ok_iff {target : Text} {c : Clone} {hash : Hash} :
    settle (w.withFiles (w.files.lay (dir ++ [n]) t)) draft target revision c hash =
        (.ok (), w') ↔
      ∃ tree u q, c.worktree = .ok tree ∧ tree.checkout hash = (.ok (), u) ∧
        (w.files.lay (dir ++ [n]) u).followTo w.cwd target = .free q ∧
        ¬ dir ++ [n] <+: q ∧ w' = w.withFiles (w.files.lay q u) := by
  constructor
  · intro hsettle
    rw [settle] at hsettle
    split at hsettle
    · cases hsettle
    · rename_i tree htree
      split at hsettle
      · cases hsettle
      · rename_i u hcheckout
        rw [h.layAt_lay hfs] at hsettle
        dsimp only at hsettle
        split at hsettle
        · cases hsettle
        · rename_i files hmove
          obtain ⟨q, hfollow, hwithin, rfl⟩ := (h.moveDir_eq_ok_iff hfs).mp hmove
          exact ⟨tree, u, q, htree, hcheckout, hfollow, hwithin, (Prod.mk.inj hsettle).2.symm⟩
  · rintro ⟨tree, u, q, htree, hcheckout, hfollow, hwithin, rfl⟩
    have hmove := (h.moveDir_eq_ok_iff (t := u) hfs).mpr ⟨q, hfollow, hwithin, rfl⟩
    rw [settle, htree]
    dsimp only
    rw [hcheckout]
    dsimp only
    rw [h.layAt_lay hfs]
    dsimp only [World.withFiles]
    rw [hmove]

/-- Whatever fails after a clone, the draft is removed. -/
lemma obtain_eq_error {fault : FetchFault}
    (hobtain : obtain w base draft address revision pin = (.error fault, w')) : w' = w := by
  rw [obtain] at hobtain
  split at hobtain
  · rename_i left hclone
    rw [← (Prod.mk.inj hobtain).2]
    cases left with
    | none => exact h.discard_eq
    | some t =>
        rw [Option.map_some, Option.getD_some, h.layAt_eq]
        exact h.discard_lay hfs t
  · rename_i c hclone
    rw [h.layAt_eq] at hobtain
    dsimp only at hobtain
    split at hobtain
    · rw [← (Prod.mk.inj hobtain).2, h.discard_lay hfs]
    · split at hobtain
      · cases hobtain
      · split at hobtain
        · rename_i hsettle
          rw [← (Prod.mk.inj hobtain).2]
          exact h.settle_eq_error hfs hsettle
        · cases hobtain

/-- A commit is obtained if there is something for it, or it is checked out and moved to a free
place. -/
lemma obtain_eq_ok_iff :
    obtain w base draft address revision pin = (.ok (version, commit), w') ↔
      ∃ c hash, w.git.clone w.toHost address draft = .ok c ∧ c.resolve revision = .ok hash ∧
        version = pinnedVersion pin hash.text ∧ commit = hash.text ∧
        (isThere (w.withFiles (w.files.lay (dir ++ [n]) c.tree)) (versionDir base version) = true ∧
            w' = w ∨
          isThere (w.withFiles (w.files.lay (dir ++ [n]) c.tree)) (versionDir base version) =
            false ∧
            ∃ tree t q, c.worktree = .ok tree ∧ tree.checkout hash = (.ok (), t) ∧
              (w.files.lay (dir ++ [n]) t).followTo w.cwd (versionDir base version) = .free q ∧
              ¬ dir ++ [n] <+: q ∧ w' = w.withFiles (w.files.lay q t)) := by
  rw [obtain]
  cases hclone : w.git.clone w.toHost address draft with
  | error failed => simp
  | ok c =>
      dsimp only
      rw [h.layAt_eq]
      cases hresolve : c.resolve revision with
      | error fault => simp [hresolve]
      | ok hash =>
          dsimp only
          constructor
          · intro hobtain
            refine ⟨c, hash, rfl, hresolve, ?_⟩
            split at hobtain
            · rename_i hthere
              obtain ⟨hok, rfl⟩ := Prod.mk.inj hobtain
              obtain ⟨rfl, rfl⟩ := Prod.mk.inj (Except.ok.inj hok)
              exact ⟨rfl, rfl, .inl ⟨hthere, h.discard_lay hfs _⟩⟩
            · rename_i hthere
              split at hobtain
              · cases hobtain
              · rename_i w₁ hsettle
                obtain ⟨hok, rfl⟩ := Prod.mk.inj hobtain
                obtain ⟨rfl, rfl⟩ := Prod.mk.inj (Except.ok.inj hok)
                exact ⟨rfl, rfl,
                  .inr ⟨by simpa using hthere, (h.settle_eq_ok_iff hfs).mp hsettle⟩⟩
          · rintro ⟨c', hash', hc, hresolve', rfl, rfl, hcases⟩
            obtain rfl := Except.ok.inj hc
            obtain rfl := Except.ok.inj (hresolve.symm.trans hresolve')
            rcases hcases with ⟨hthere, rfl⟩ | ⟨hthere, hsettled⟩
            · rw [if_pos hthere, h.discard_lay hfs]
            · rw [if_neg (by simp [hthere]), (h.settle_eq_ok_iff hfs).mpr hsettled]

end World

omit t in
lemma not_below (hv : v ≠ n) : ¬ dir ++ [n] <+: dir ++ [v] := by
  rw [List.prefix_append_right_inj]
  rintro ⟨rest, hrest⟩
  exact hv (List.cons.inj hrest).1.symm

lemma get?_lay (hv : v ≠ n) (t : Tree) :
    (fs.lay (dir ++ [n]) t).get? (dir ++ [v]) = fs.get? (dir ++ [v]) :=
  FileSystem.get?_graft_of_not (not_below hv)

section Target

variable {target : Text} (h : Drafted fs cwd base draft dir n) (hfs : Covered fs)
  (hin : InDir base target v) (hv : v ≠ n)

include h hfs hin hv

/-- A free path in the directory is that of a free name in it. -/
lemma of_followTo_free {q : Place}
    (hfollow : (fs.lay (dir ++ [n]) t).followTo cwd target = .free q) :
    q = dir ++ [v] ∧ fs.get? (dir ++ [v]) = none ∧ Fits target ∧ v.bytes.length ≤ nameLimit := by
  obtain ⟨hleads, hfree⟩ := FileSystem.trace_eq_free_iff.mp hfollow
  obtain ⟨hfits, hlength, dir', hdir, hq⟩ := hin.of_leads hleads
  obtain ⟨rfl, -⟩ := Prod.mk.inj (Except.ok.inj (hdir.symm.trans (h.lookup_base_lay hfs t)))
  obtain rfl := hq (by simp)
  rw [get?_lay hv] at hfree
  exact ⟨rfl, hfree, hfits, hlength⟩

lemma followTo_free_iff {q : Place} :
    (fs.lay (dir ++ [n]) t).followTo cwd target = .free q ↔
      q = dir ++ [v] ∧ fs.get? (dir ++ [v]) = none ∧ Fits target ∧
        v.bytes.length ≤ nameLimit := by
  refine ⟨h.of_followTo_free hfs hin hv, ?_⟩
  rintro ⟨rfl, hfree, hfits, hlength⟩
  obtain ⟨hleads, hdir⟩ := FileSystem.lookup_eq_ok_iff.mp (h.lookup_base_lay hfs t)
  refine FileSystem.trace_eq_free_iff.mpr ⟨hin.leads hleads hdir hfits hlength (by simp), ?_⟩
  rwa [get?_lay hv]

end Target

end Drafted

lemma lookup_of_isThere {path : Text} (h : isThere w path = true) :
    ∃ q e, w.files.lookup w.cwd path = .ok (q, e) := by
  rw [isThere] at h
  split at h
  · rename_i found hfound
    exact ⟨found.1, found.2, hfound⟩
  · cases h

lemma isThere_of_lookup {path : Text} {found : Place × Entry}
    (h : w.files.lookup w.cwd path = .ok found) : isThere w path = true := by
  rw [isThere, h]

/-! ### Attempts -/

/-- All that an attempt comes to: nothing, a directory that is there, or what is obtained from a
clone. -/
lemma ensure_cases (hfs : Covered w.files) (hbase : base.isEmpty = false)
    {r : Except FetchFault (Text × Text)} (h : ensure base address d w = (r, w')) :
    (∃ fault, r = .error fault ∧ w' = w.withFiles (w.files.makeDirs w.cwd base).2) ∨
    ∃ made, w.files.makeDirs w.cwd base = (.ok (), made) ∧ Covered made ∧
      ((d.rev.trim.isEmpty = false ∧
          isThere (w.withFiles made) (versionDir base d.rev.trim) = true ∧
          r = .ok (d.rev.trim, d.rev.trim) ∧ w' = w.withFiles made) ∨
        ∃ revision pin dir k, d.revision = .ok (revision, pin) ∧
          (d.rev.trim.isEmpty = true ∨
            isThere (w.withFiles made) (versionDir base d.rev.trim) = false) ∧
          Drafted made w.cwd base (draftPath base k) dir (draftName k) ∧
          obtain (w.withFiles made) base (draftPath base k) address revision pin = (r, w')) := by
  have hcovered := (FileSystem.stored_makeDirs hfs w.cwd base).covered hfs
  rw [ensure] at h
  split at h
  · rename_i fault made hmake
    rw [hmake]
    obtain ⟨rfl, rfl⟩ := Prod.mk.inj h
    exact .inl ⟨_, rfl, rfl⟩
  · rename_i made hmake
    rw [hmake] at hcovered ⊢
    dsimp only at h
    split at h
    · obtain ⟨rfl, rfl⟩ := Prod.mk.inj h
      exact .inl ⟨_, rfl, rfl⟩
    · rename_i revision pin hrevision
      split at h
      · rename_i hthere
        rw [Bool.and_eq_true, Bool.not_eq_true'] at hthere
        obtain ⟨rfl, rfl⟩ := Prod.mk.inj h
        exact .inr ⟨made, rfl, hcovered, .inl ⟨hthere.1, hthere.2, rfl, rfl⟩⟩
      · rename_i hthere
        split at h
        · obtain ⟨rfl, rfl⟩ := Prod.mk.inj h
          exact .inl ⟨_, rfl, rfl⟩
        · rename_i draft files htemp
          obtain ⟨dir, k, rfl, hdraft, rfl⟩ := drafted_of_makeTemp hbase htemp
          rw [World.withFiles] at hdraft h
          dsimp only at hdraft h
          rw [hdraft.removeAll_put hcovered] at h
          exact .inr ⟨made, rfl, hcovered, .inr ⟨revision, pin, dir, k, hrevision,
            by simpa [or_iff_not_imp_left] using hthere, hdraft, h⟩⟩

/-- A failed attempt leaves the directories on the way to the dependency's own. -/
lemma ensure_eq_error (hfs : Covered w.files) (hbase : base.isEmpty = false) {fault : FetchFault}
    (h : ensure base address d w = (.error fault, w')) :
    w' = w.withFiles (w.files.makeDirs w.cwd base).2 := by
  rcases ensure_cases hfs hbase h with ⟨-, -, hworld⟩ |
    ⟨made, hmake, hcovered, ⟨-, -, hok, -⟩ | ⟨revision, pin, dir, k, -, -, hdraft, hobtain⟩⟩
  · exact hworld
  · cases hok
  · rw [hmake]
    exact Drafted.obtain_eq_error (w := w.withFiles made) hdraft hcovered hobtain

/-- Without a directory for its revision, a dependency is obtained from a clone. -/
lemma ensure_of_drafted {made : FileSystem} {k : UInt32} (hfs : Covered made)
    (hmake : w.files.makeDirs w.cwd base = (.ok (), made))
    (hrevision : d.revision = .ok (revision, pin))
    (hskip : d.rev.trim.isEmpty = true ∨
      isThere (w.withFiles made) (versionDir base d.rev.trim) = false)
    (hdrafted : Drafted made w.cwd base (draftPath base k) dir (draftName k))
    (htemp : made.makeTemp w.cwd base draftFront w.numbers =
      .ok (draftPath base k, made.put (dir ++ [draftName k]) .directory)) :
    ensure base address d w =
      obtain (w.withFiles made) base (draftPath base k) address revision pin := by
  have hnot : ¬ (!d.rev.trim.isEmpty &&
      isThere (w.withFiles made) (versionDir base d.rev.trim)) = true := by
    rcases hskip with hempty | hthere
    · simp [hempty]
    · simp [hthere]
  rw [ensure, hmake]
  dsimp only
  rw [hrevision]
  dsimp only
  rw [if_neg hnot]
  dsimp only [World.withFiles]
  rw [htemp]
  dsimp only
  rw [hdrafted.removeAll_put hfs]

/-- What is obtained for a dependency in its directory: a commit that was there, or a new checkout
in a free place. -/
structure Obtained (base address : Text) (d : Dependency) (w : World) (version commit : Text)
    (files : FileSystem) (dir : Place) (k : UInt32) (c : Clone) (hash : Hash) : Prop where
  needed : d.rev.trim.isEmpty = true ∨ isThere w (versionDir base d.rev.trim) = false
  drafted : Drafted w.files w.cwd base (draftPath base k) dir (draftName k)
  clone : w.git.clone w.toHost address (draftPath base k) = .ok c
  resolve : ∃ revision pin, d.revision = .ok (revision, pin) ∧ c.resolve revision = .ok hash ∧
    version = pinnedVersion pin hash.text
  commit_eq : commit = hash.text
  files_eq :
    isThere (w.withFiles (w.files.lay (dir ++ [draftName k]) c.tree))
        (versionDir base version) = true ∧ files = w.files ∨
    ∃ tree t, c.worktree = .ok tree ∧ tree.checkout hash = (.ok (), t) ∧
      Fits (versionDir base version) ∧
      (Segment.directoryName version).bytes.length ≤ nameLimit ∧
      w.files.get? (dir ++ [Segment.directoryName version]) = none ∧
      files = w.files.lay (dir ++ [Segment.directoryName version]) t

lemma Obtained.version_spec {files : FileSystem} {k : UInt32} {c : Clone} {hash : Hash}
    (h : Obtained base address d w version commit files dir k c hash) :
    version.isEmpty = false ∧ version.trim = version ∧
      Names (Segment.directoryName version) hash.text := by
  obtain ⟨revision, pin, hrevision, -, rfl⟩ := h.resolve
  obtain ⟨hpin, htrim⟩ := pin_of_revision hrevision
  exact pinnedVersion_spec hpin htrim hash.isHash

/-- An attempt succeeds with a directory that is there, or with what is obtained. -/
lemma ensure_eq_ok (hfs : Covered w.files) (hbase : base.isEmpty = false)
    (hclean : Path.clean base = base)
    (h : ensure base address d w = (.ok (version, commit), w')) :
    ∃ made, w.files.makeDirs w.cwd base = (.ok (), made) ∧
      ((d.rev.trim.isEmpty = false ∧ version = d.rev.trim ∧ commit = d.rev.trim ∧
          w' = w.withFiles made ∧ isThere w' (versionDir base version) = true) ∨
        ∃ files dir k c hash, w' = w.withFiles files ∧
          Obtained base address d (w.withFiles made) version commit files dir k c hash) := by
  rcases ensure_cases hfs hbase h with ⟨fault, hfault, -⟩ | ⟨made, hmake, hcovered,
    ⟨hrev, hthere, hok, rfl⟩ | ⟨revision, pin, dir, k, hrevision, hneeded, hdraft, hobtain⟩⟩
  · cases hfault
  · obtain ⟨rfl, rfl⟩ := Prod.mk.inj (Except.ok.inj hok)
    exact ⟨made, hmake, .inl ⟨hrev, rfl, rfl, rfl, hthere⟩⟩
  · refine ⟨made, hmake, .inr ?_⟩
    obtain ⟨c, hash, hclone, hresolve, rfl, rfl, hcases⟩ :=
      (Drafted.obtain_eq_ok_iff (w := w.withFiles made) hdraft hcovered).mp hobtain
    have hresolved : ∃ revision' pin', d.revision = .ok (revision', pin') ∧
        c.resolve revision' = .ok hash ∧
        pinnedVersion pin hash.text = pinnedVersion pin' hash.text :=
      ⟨revision, pin, hrevision, hresolve, rfl⟩
    rcases hcases with ⟨hthere, rfl⟩ | ⟨-, tree, t, q, htree, hcheckout, hfollow, -, rfl⟩
    · exact ⟨made, dir, k, c, hash, rfl, hneeded, hdraft, hclone, hresolved, rfl,
        .inl ⟨hthere, rfl⟩⟩
    · -- the commit has a directory of another name than the draft
      obtain ⟨hpin, htrim⟩ := pin_of_revision hrevision
      obtain ⟨-, -, hnames⟩ := pinnedVersion_spec hpin htrim hash.isHash
      have hin := inDir_versionDir hbase hclean (Segment.isName_of_names hnames)
      obtain ⟨rfl, hfree, hfits, hlength⟩ :=
        hdraft.of_followTo_free hcovered hin (hnames.ne hdraft.short) hfollow
      exact ⟨_, dir, k, c, hash, rfl, hneeded, hdraft, hclone, hresolved, rfl,
        .inr ⟨tree, t, htree, hcheckout, hfits, hlength, hfree, rfl⟩⟩

/-! ### Fetches -/

lemma fetch_eq_ok {cache name : Text} {found : Fetched}
    (h : fetch cache name d w = (.ok found, w')) :
    d.git.trim.isEmpty = false ∧ ∃ version commit checksum,
      ensure (packageDir cache name) d.git.trim d w = (.ok (version, commit), w') ∧
      Checksum.ofPath w'.files w'.cwd (versionDir (packageDir cache name) version) = .ok checksum ∧
      found = ⟨versionDir (packageDir cache name) version,
        ⟨Segment.sanitize name, version, Lockfile.gitSource d.git.trim commit, checksum⟩⟩ := by
  rw [fetch] at h
  split at h
  · cases h
  · rename_i haddress
    refine ⟨by simpa using haddress, ?_⟩
    dsimp only at h
    split at h
    · cases h
    · rename_i version commit w₁ hensure
      split at h
      · cases h
      · rename_i checksum hchecksum
        obtain ⟨hfound, rfl⟩ := Prod.mk.inj h
        exact ⟨version, commit, checksum, hensure, hchecksum, (Except.ok.inj hfound).symm⟩

/-- What a fetch comes to after an attempt that succeeds. -/
lemma fetch_of_ensure {cache name : Text} (haddress : d.git.trim.isEmpty = false)
    (hensure : ensure (packageDir cache name) d.git.trim d w = (.ok (version, commit), w')) :
    fetch cache name d w =
      match Checksum.ofPath w'.files w'.cwd (versionDir (packageDir cache name) version) with
      | .error cause => (.error (.path cause), w')
      | .ok checksum => (.ok ⟨versionDir (packageDir cache name) version,
          ⟨Segment.sanitize name, version, Lockfile.gitSource d.git.trim commit, checksum⟩⟩,
        w') := by
  rw [fetch]
  dsimp only
  rewrite [if_neg (by simp [haddress]), hensure]
  rfl

/-- A fetch fails where an attempt does, or with a checkout that has no checksum. -/
lemma fetch_eq_error {cache name : Text} {fault : FetchFault}
    (h : fetch cache name d w = (.error fault, w')) :
    (d.git.trim.isEmpty = true ∧ w' = w) ∨
    ensure (packageDir cache name) d.git.trim d w = (.error fault, w') ∨
    ∃ version commit cause,
      ensure (packageDir cache name) d.git.trim d w = (.ok (version, commit), w') ∧
      Checksum.ofPath w'.files w'.cwd (versionDir (packageDir cache name) version) =
        .error cause ∧ fault = .path cause := by
  rw [fetch] at h
  split at h
  · rename_i haddress
    exact .inl ⟨haddress, (Prod.mk.inj h).2.symm⟩
  · dsimp only at h
    split at h
    · rename_i hensure
      obtain ⟨hfault, rfl⟩ := Prod.mk.inj h
      cases hfault
      exact .inr (.inl hensure)
    · rename_i version commit w₁ hensure
      split at h
      · rename_i cause hchecksum
        obtain ⟨hfault, rfl⟩ := Prod.mk.inj h
        cases hfault
        exact .inr (.inr ⟨version, commit, cause, hensure, hchecksum, rfl⟩)
      · cases h

/-- All that a fetch does to the files: it makes directories, and may add a tree to the last one. -/
lemma fetch_cases {cache : Text} (hcache : cache.isEmpty = false) (hfs : Covered w.files)
    (name : Text) (d : Dependency) :
    (fetch cache name d w).2 = w ∨
      ∃ r made, w.files.makeDirs w.cwd (packageDir cache name) = (r, made) ∧
        ((fetch cache name d w).2 = w.withFiles made ∨
          r = .ok () ∧ ∃ dir v hash t,
            made.lookup w.cwd (packageDir cache name) = .ok (dir, .directory) ∧
            Names v hash ∧ made.get? (dir ++ [v]) = none ∧
            (fetch cache name d w).2 = w.withFiles (made.lay (dir ++ [v]) t)) := by
  have hbase := isEmpty_packageDir hcache name
  have hensured : ∀ {version commit w'},
      ensure (packageDir cache name) d.git.trim d w = (.ok (version, commit), w') →
      ∃ made, w.files.makeDirs w.cwd (packageDir cache name) = (.ok (), made) ∧
        (w' = w.withFiles made ∨ ∃ dir v hash t,
          made.lookup w.cwd (packageDir cache name) = .ok (dir, .directory) ∧ Names v hash ∧
          made.get? (dir ++ [v]) = none ∧ w' = w.withFiles (made.lay (dir ++ [v]) t)) := by
    intro version commit w' hensure
    obtain ⟨made, hmake, hcases⟩ := ensure_eq_ok hfs hbase (clean_packageDir hcache name) hensure
    refine ⟨made, hmake, ?_⟩
    rcases hcases with ⟨-, -, -, rfl, -⟩ | ⟨files, dir, k, c, hash, rfl, hobtained⟩
    · exact .inl rfl
    · rcases hobtained.files_eq with ⟨-, rfl⟩ | ⟨_, t, -, -, -, -, hfree, rfl⟩
      · exact .inl rfl
      · obtain ⟨-, -, hnames⟩ := hobtained.version_spec
        exact .inr ⟨dir, _, _, t, hobtained.drafted.directory, hnames, hfree, rfl⟩
  rcases hfetch : fetch cache name d w with ⟨fault | found, w'⟩
  · rcases fetch_eq_error hfetch with ⟨-, rfl⟩ | hensure | ⟨_, _, _, hensure, -⟩
    · exact .inl rfl
    · exact .inr ⟨_, _, rfl, .inl (ensure_eq_error hfs hbase hensure)⟩
    · obtain ⟨made, hmake, hcases⟩ := hensured hensure
      exact .inr ⟨_, made, hmake, hcases.imp_right fun h => ⟨rfl, h⟩⟩
  · obtain ⟨-, _, _, _, hensure, -⟩ := fetch_eq_ok hfetch
    obtain ⟨made, hmake, hcases⟩ := hensured hensure
    exact .inr ⟨_, made, hmake, hcases.imp_right fun h => ⟨rfl, h⟩⟩

end Cache

end PocketScheme
