import PocketScheme.Proofs.Lockfile.RoundTrip
import PocketScheme.Proofs.Package.Fetching

/-!
How the source of a fetched package is read back. It is written as an address and a commit with a
mark between them; addresses may have the same mark in them, commits do not, so the last one counts.

* `Lockfile.gitSource?_eq_none_iff`: the sources that have no commit;
* `Lockfile.spelled?`: the entry of a package in a lockfile that is not in normal form;
* `Lockfile.find?_normalize`: what becomes of it in the normal form;
* `Lockfile.PinsFrom`: what is pinned by an entry from a repository;
* `Lockfile.sources_decoded`: dependencies are pinned to the commit that was written, and to no
  other.
-/

namespace PocketScheme.Lockfile

variable {l : Lockfile} {name address commit source : Text} {e : LockedPackage}

/-! ### Sources -/

lemma splitLastAt_eq_none_iff {gs : List Glyph} : splitLastAt gs = none ↔ Glyph.char '@' ∉ gs := by
  constructor
  · intro h hmem
    obtain ⟨rest, front, hsplit, hrest⟩ := List.eq_append_cons_of_mem (List.mem_reverse.mpr hmem)
    have hgs : gs = front.reverse ++ .char '@' :: rest.reverse := by
      rw [← List.reverse_reverse gs, hsplit]
      simp
    rw [hgs, splitLastAt_append (by simpa using hrest)] at h
    cases h
  · intro h
    have hall : ∀ g ∈ gs.reverse, (g != .char '@') = true := by
      intro g hg
      rw [bne_iff_ne]
      rintro rfl
      exact h (List.mem_reverse.mp hg)
    rw [splitLastAt, List.dropWhile_eq_nil_iff.mpr hall]

/-- A source has a commit if and only if it starts like one from a repository and has the mark. -/
lemma gitSource?_eq_none_iff : gitSource? source = none ↔
    source.startsWith gitMark = false ∨ Glyph.char '@' ∉ source.toList := by
  rw [gitSource?, Text.dropFront?]
  cases hrest : gitMark.toList.isPrefixOf? source.toList with
  | none =>
      refine iff_of_true rfl (.inl ?_)
      rw [Text.startsWith, Bool.eq_false_iff, ne_eq, List.isPrefixOf_iff_prefix]
      rintro ⟨rest, happend⟩
      rw [List.isPrefixOf?_eq_some_iff_append_eq.mpr happend] at hrest
      cases hrest
  | some rest =>
      have happend := List.isPrefixOf?_eq_some_iff_append_eq.mp hrest
      have hstarts : source.startsWith gitMark = true := by
        rw [Text.startsWith, List.isPrefixOf_iff_prefix]
        exact ⟨rest, happend⟩
      have hmark : Glyph.char '@' ∉ gitMark.toList := by decide
      rw [hstarts, ← happend, List.mem_append, or_iff_right hmark, ← splitLastAt_eq_none_iff]
      cases hsplit : splitLastAt rest <;> simp [hsplit]

/-! ### Entries -/

/-- The first entry under any spelling of a package's name. -/
def spelled? (l : Lockfile) (name : Text) : Option LockedPackage :=
  l.entries.find? fun p => Segment.sanitize p.name == Segment.sanitize name

/-- The entry of a package in the normal form. -/
lemma find?_normalize (l : Lockfile) (name : Text) :
    l.normalize.find? name = (l.spelled? name).map LockedPackage.normalize := by
  have hstable := (arranges_normalize l).stable (Segment.sanitize name)
  rw [find?, ← List.head?_filter, hstable, List.head?_filter, List.find?_map]
  rfl

/-! ### Pins -/

/-- From the repository at `address` a package is pinned to the commit, and from elsewhere it is not
pinned. -/
def PinsFrom (l : Lockfile) (name address : Text) (e : LockedPackage) (commit : Text) : Prop :=
  ∀ d : Dependency, (pinned (some l) name d = some (e, commit) ↔ d.git.trim = address) ∧
    (d.git.trim ≠ address → pinned (some l) name d = none)

lemma pinned_eq_ite (hfind : l.find? name = some e)
    (hsource : gitSource? e.source = some (address, commit)) (d : Dependency) :
    pinned (some l) name d = if d.git.trim = address then some (e, commit) else none := by
  by_cases haddress : d.git.trim = address
  · simp [pinned, hfind, hsource, haddress]
  · simp [pinned, hfind, hsource, haddress, Ne.symm haddress]

lemma pinsFrom_of_find? (hfind : l.find? name = some e)
    (hsource : e.source = gitSource address commit)
    (hcommit : Glyph.char '@' ∉ commit.toList) : PinsFrom l name address e commit := by
  intro d
  have hpinned := pinned_eq_ite hfind (hsource ▸ gitSource?_gitSource hcommit) d
  by_cases haddress : d.git.trim = address
  · rw [hpinned, if_pos haddress]
    exact ⟨iff_of_true rfl haddress, fun hne => absurd haddress hne⟩
  · rw [hpinned, if_neg haddress]
    exact ⟨iff_of_false nofun haddress, fun _ => rfl⟩

/-- The entry of a package keeps its source in the normal form. -/
lemma pinsFrom_normalize (hfind : l.spelled? name = some e)
    (hsource : e.source = gitSource address commit)
    (hcommit : Glyph.char '@' ∉ commit.toList) (hne : commit.isEmpty = false)
    (htrim : commit.trim = commit) :
    l.normalize.find? name = some e.normalize ∧ e.normalize.source = e.source ∧
      PinsFrom l.normalize name address e.normalize commit := by
  have hfound : l.normalize.find? name = some e.normalize := by
    rw [find?_normalize, hfind, Option.map_some]
  have hkept : e.normalize.source = e.source := by
    rw [LockedPackage.normalize, hsource, trim_gitSource address hne htrim]
  exact ⟨hfound, hkept, pinsFrom_of_find? hfound (hkept.trans hsource) hcommit⟩

lemma pinned_eq_none_of_source (hfind : l.find? name = some e)
    (hsource : e.source.startsWith gitMark = false ∨ Glyph.char '@' ∉ e.source.toList)
    (d : Dependency) :
    pinned (some l) name d = none := by
  simp [pinned, hfind, gitSource?_eq_none_iff.mpr hsource]

/-- **Sources are decoded as they were written**. Take any package, any address, which may have
marks in it, and any commit that is not empty and has neither marks nor blanks. If the entry of
the package has the source that is made of the two, in the lockfile as it is or in its normal
form, then a dependency is pinned to this entry and commit if and only if its address, without the
blanks around it, is this one; with any other address it is not pinned. Nor is it without a
lockfile, without an entry, or if the source of its entry does not start as one from a repository
or has no mark. Whatever is fetched is locked under its name with a source made of its address and
a commit. -/
theorem sources_decoded (name address commit : Text) (hne : commit.isEmpty = false)
    (hmark : Glyph.char '@' ∉ commit.toList)
    (hblank : ∀ g ∈ commit.toList, Text.isBlankGlyph g = false) :
    (∀ l e, find? l name = some e → e.source = gitSource address commit →
        PinsFrom l name address e commit) ∧
      (∀ l e, spelled? l name = some e → e.source = gitSource address commit →
        l.normalize.find? name = some e.normalize ∧ e.normalize.source = e.source ∧
          PinsFrom l.normalize name address e.normalize commit) ∧
      (∀ d, pinned none name d = none) ∧
      (∀ l d, find? l name = none → pinned (some l) name d = none) ∧
      (∀ l e d, find? l name = some e →
        e.source.startsWith gitMark = false ∨ Glyph.char '@' ∉ e.source.toList →
        pinned (some l) name d = none) ∧
      ∀ cache d w found w', Cache.fetch cache name d w = (.ok found, w') →
        found.package.name = Segment.sanitize name ∧
          ∃ version commit', Cache.ensure (Cache.packageDir cache name) d.git.trim d w =
              (.ok (version, commit'), w') ∧
            found.package.source = gitSource d.git.trim commit' := by
  have htrim : commit.trim = commit := Text.trim_eq_self_of_forall hblank
  refine ⟨fun l e hfind hsource => pinsFrom_of_find? hfind hsource hmark,
    fun l e hfind hsource => pinsFrom_normalize hfind hsource hmark hne htrim, fun d => rfl,
    fun l d hfind => ?_, fun l e d hfind hsource => pinned_eq_none_of_source hfind hsource d,
    fun cache d w found w' hfetch => ?_⟩
  · simp [pinned, hfind]
  · obtain ⟨-, version, commit', checksum, hensure, -, rfl⟩ := Cache.fetch_eq_ok hfetch
    exact ⟨rfl, version, commit', hensure, rfl⟩

/-- An address with a mark in it. -/
def markedAddress : Text := "git@host:me/dep.git"

/-- A commit from there. -/
def markedCommit : Text := "abc123"

/-- The entry of a package that was fetched from there. -/
def markedEntry : LockedPackage :=
  ⟨"my_dep", "v1@abc123", gitSource markedAddress markedCommit, "00ff"⟩

/-- A lockfile that is not in normal form. -/
def markedLock : Lockfile :=
  ⟨"/app/package.lock", "app", "",
    [some ⟨"other", "", "path+/other", "00"⟩, none, some markedEntry]⟩

/-- The address has to be the same up to its last mark, and not only up to the first one. -/
theorem sources_decoded_marked :
    pinned (some markedLock) "my-dep" ⟨"", " git@host:me/dep.git ", "", "v1", ""⟩ =
        some (markedEntry, markedCommit) ∧
      pinned (some markedLock.normalize) "my-dep" ⟨"", "git@host:me/dep.git", "", "v1", ""⟩ =
        some (markedEntry.normalize, markedCommit) ∧
      pinned (some markedLock) "my-dep" ⟨"", "git", "", "v1", ""⟩ = none := by
  have hdecoded := sources_decoded "my-dep" markedAddress markedCommit (by decide) (by decide)
    (by decide)
  obtain ⟨hbefore, hafter, -⟩ := hdecoded
  have hpins := hbefore markedLock markedEntry (by decide) rfl
  obtain ⟨-, -, hpins'⟩ := hafter markedLock markedEntry (by decide) rfl
  refine ⟨(hpins _).1.mpr ?_, (hpins' _).1.mpr ?_, (hpins _).2 ?_⟩ <;> decide

end PocketScheme.Lockfile
