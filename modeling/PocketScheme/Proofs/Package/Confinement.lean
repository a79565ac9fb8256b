import PocketScheme.Proofs.Package.CacheRuns

/-!
Where fetched code is. A dependency is put two levels below the cache's own directory, in a
directory for its name and one for its version, unless one of the two is a step to somewhere else.

* `Segment.Ordinary`: a component that can stand for a name or a version;
* `Segment.ordinary_directoryName_iff`: the texts that are made into such a component;
* `Path.length_walk_lt`: a step that is no name leads no further down;
* `FileSystem.lookup_up`: there is always a directory around a directory;
* `Cache.nameable_version_iff`: a version is a step to somewhere else only if it was asked for;
* `Cache.fetched_confined`: the directory of a fetched dependency, and when it is where it should
  be.
-/

namespace PocketScheme

open PocketScheme.Path (IsName components reach walk step)

/-! ### Ordinary components -/

namespace Segment

/-- A component of letters, digits, dots, dashes and underscores that leads from a directory to
something in it. -/
structure Ordinary (c : Text) : Prop where
  nonempty : c.isEmpty = false
  plain : ∀ g ∈ c.toList, g.satisfies isPlain = true
  ne_here : c ≠ "."
  ne_up : c ≠ ".."

lemma Ordinary.isName {c : Text} (h : Ordinary c) : IsName c :=
  ⟨h.nonempty, h.ne_here, h.ne_up, fun hslash => by cases h.plain _ hslash⟩

lemma isPlain_directoryName (t : Text) :
    ∀ g ∈ (directoryName t).toList, g.satisfies isPlain = true := by
  cases h : t.trim.isEmpty with
  | true =>
      rw [directoryName, if_pos h]
      decide
  | false =>
      rw [directoryName_eq h, List.forall_mem_map]
      intro g _
      split
      · assumption
      · rfl

lemma directoryName_of_trim {t u : Text} (h : t.trim = u.trim) :
    directoryName t = directoryName u := by
  rw [directoryName, directoryName, h]

lemma isName_directoryName_iff {t : Text} : IsName (directoryName t) ↔ Cache.Nameable t := by
  refine ⟨fun h => ⟨fun htrim => h.ne_here ?_, fun htrim => h.ne_up ?_⟩, Cache.Nameable.isName⟩
  · rw [directoryName_of_trim (u := ".") htrim]
    decide
  · rw [directoryName_of_trim (u := "..") htrim]
    decide

/-- Everything but the two steps is made into an ordinary component. -/
lemma ordinary_directoryName_iff {t : Text} : Ordinary (directoryName t) ↔ Cache.Nameable t := by
  rw [← isName_directoryName_iff]
  exact ⟨Ordinary.isName, fun h => ⟨h.nonempty, isPlain_directoryName t, h.ne_here, h.ne_up⟩⟩

end Segment

/-! ### Steps -/

namespace Path

lemma length_step_le (p : Place) (c : Text) : (step p c).length ≤ p.length + 1 := by
  unfold step
  split
  · omega
  · split
    · rw [List.length_dropLast]
      omega
    · simp

/-- A step that is no name leads no further down. -/
lemma length_step_of_not_isName {c : Text} (hslash : Glyph.char '/' ∉ c.toList) (hc : ¬ IsName c)
    (p : Place) : (step p c).length ≤ p.length := by
  rcases component_cases hslash with hstay | rfl | hname
  · rw [step, if_pos hstay]
  · rw [step_up, List.length_dropLast]
    omega
  · exact absurd hname hc

lemma length_walk_lt {c d : Text} (hc : Glyph.char '/' ∉ c.toList) (hd : Glyph.char '/' ∉ d.toList)
    (hno : ¬ (IsName c ∧ IsName d)) (p : Place) : (walk p [c, d]).length < p.length + 2 := by
  have hfirst := length_step_le p c
  have hsecond := length_step_le (step p c) d
  rw [walk_cons, walk_cons, walk_nil]
  by_cases hname : IsName c
  · have := length_step_of_not_isName hd (fun h => hno ⟨hname, h⟩) (step p c)
    omega
  · have := length_step_of_not_isName hc hname p
    omega

end Path

/-! ### The directory around a directory -/

lemma Path.components_up : components ".." = [(".." : Text)] :=
  components_name (by decide)

lemma Path.components_here : components "." = [("." : Text)] :=
  components_name (by decide)

/-- Where a step upwards leads from a clean path: back to the directory that it is in, to the root,
or behind the steps upwards that the path consists of. -/
lemma Path.clean_up_cases {p : Text} (hp : p.isEmpty = false) :
    (∃ n, IsName n ∧ clean p = clean (clean (p ++ "/" ++ "..") ++ "/" ++ n)) ∨
      clean (p ++ "/" ++ "..") = "/" ∨
      (clean p = "." ∧ clean (p ++ "/" ++ "..") = "..") ∨
      clean (p ++ "/" ++ "..") = clean p ++ "/" ++ ".." := by
  have habs := isAbsolute_slash hp ".."
  have hcs : cleanComponents (p ++ "/" ++ "..") =
      (cleanStep (isAbsolute p) (cleanComponents p).reverse "..").reverse := by
    rw [cleanComponents, habs, components_slash, components_up, List.foldl_append, List.foldl_cons,
      List.foldl_nil, cleanComponents, List.reverse_reverse]
  have hnormal := normal_cleanComponents p
  generalize hback : (cleanComponents p).reverse = back at hcs hnormal
  rw [List.reverse_eq_iff] at hback
  cases hnormal with
  | nil =>
      rcases clean_cases p with ⟨hroot, -⟩ | ⟨hroot, -, hclean⟩ | ⟨-, hne, -⟩
      · rw [hroot] at hcs
        refine .inr (.inl ?_)
        rw [clean, habs, hroot, hcs]
        rfl
      · rw [hroot] at hcs
        refine .inr (.inr (.inl ⟨hclean, ?_⟩))
        rw [clean, habs, hroot, hcs]
        decide
      · exact absurd hback hne
  | @name n cs hn h =>
      have hstep : cleanStep (isAbsolute p) (n :: cs) ".." = cs := by
        unfold cleanStep
        rw [if_neg (by decide), if_pos (by decide)]
        simp [hn.ne_up]
      rw [hstep] at hcs
      refine .inl ⟨n, hn, ?_⟩
      have hempty := isEmpty_clean (p ++ "/" ++ "..")
      rw [clean, clean, isAbsolute_slash hempty, isAbsolute_clean, habs,
        cleanComponents_slash_name hempty hn, cleanComponents_clean, hcs, hback,
        List.reverse_cons]
  | @up cs hrooted hups h =>
      have hstep : cleanStep (isAbsolute p) ((".." : Text) :: cs) ".." =
          (".." : Text) :: ".." :: cs := rfl
      rw [hstep, List.reverse_cons, ← hback] at hcs
      refine .inr (.inr (.inr ?_))
      have hne : cleanComponents p ≠ [] := by
        rw [hback]
        simp
      rcases clean_cases (p ++ "/" ++ "..") with ⟨hroot, -⟩ | ⟨-, hnil, -⟩ | ⟨-, -, hclean, -⟩
      · rw [habs, hrooted] at hroot
        cases hroot
      · rw [hcs] at hnil
        simp at hnil
      · rcases clean_cases p with ⟨hroot, -⟩ | ⟨-, hnil, -⟩ | ⟨-, -, hclean', -⟩
        · rw [hrooted] at hroot
          cases hroot
        · exact absurd hnil hne
        · rw [hclean, hcs, intercalate_concat hne, hclean']

namespace FileSystem

variable {fs : FileSystem} {cwd : Text} {dir : Place}

lemma followFrom_up (hdir : fs.get? dir = some .directory) (n : Nat) :
    fs.followFrom true n dir [".."] = fs.spot dir.dropLast := by
  refine followFrom_of_arrived ?_
  have hstep : fs.stepFrom true dir ".." = .place dir.dropLast := by
    rw [stepFrom, hdir]
    rfl
  rw [advance, Bool.true_or, hstep]
  rfl

/-- There is a directory around a directory, if the path to it is not too long. -/
lemma lookup_up (hfs : Covered fs) {p : Text} (hp : p.isEmpty = false)
    (hdir : fs.lookup cwd (Path.clean p) = .ok (dir, .directory))
    (hfits : Fits (Path.clean p ++ "/" ++ "..")) :
    ∃ q e, fs.lookup cwd (Path.clean (p ++ "/" ++ "..")) = .ok (q, e) := by
  obtain ⟨hleads, hget⟩ := lookup_eq_ok_iff.mp hdir
  obtain ⟨e, he⟩ : ∃ e, fs.get? dir.dropLast = some e :=
    Option.ne_none_iff_exists'.mp (hfs.get?_dropLast (by simp [hget]))
  obtain ⟨-, hfollow⟩ := leads_iff.mp hleads
  rcases Path.clean_up_cases hp with ⟨n, hn, hclean⟩ | hroot | ⟨hhere, hup⟩ | hup
  · rw [hclean] at hleads
    have hin := inDir_clean (Path.isEmpty_clean (p ++ "/" ++ "..")) hn
    rw [Path.clean_clean] at hin
    obtain ⟨-, -, around, haround, -⟩ := hin.of_leads hleads
    exact ⟨around, .directory, haround⟩
  · rw [hroot]
    exact ⟨[], .directory, rfl⟩
  · rw [hhere] at hfollow
    obtain ⟨hstart, -⟩ := (followFrom_stay (by decide)).mp hfollow
    have hto : Leads fs true cwd ".." dir.dropLast := by
      refine leads_iff.mpr ⟨by decide, ?_⟩
      have hsame : start cwd ".." = dir := hstart
      rw [hsame, Path.components_up]
      exact followFrom_up hget _
    rw [hup]
    exact ⟨_, e, lookup_eq_ok_iff.mpr ⟨hto, he⟩⟩
  · have hto : Leads fs true cwd (Path.clean p ++ "/" ++ "..") dir.dropLast := by
      refine leads_iff.mpr ⟨hfits, ?_⟩
      rw [start, Path.isAbsolute_slash (Path.isEmpty_clean p), ← start, Path.components_slash,
        Path.components_up]
      rcases followFrom_append fs true (by simp : [(".." : Text)] ≠ []) linkLimit
        (start cwd (Path.clean p)) (components (Path.clean p)) with
        ⟨q, k, hq, happend⟩ | ⟨cause, hnone, -⟩
      · obtain rfl : q = dir := spot_inj.mp (hq.symm.trans hfollow)
        rw [happend]
        exact followFrom_up hget k
      · exact absurd (hfollow.symm.trans hnone) spot_ne_nowhere
    rw [hup]
    exact ⟨_, e, lookup_eq_ok_iff.mpr ⟨hto, he⟩⟩

end FileSystem

namespace Cache

open PocketScheme.Segment (directoryName Ordinary)
open PocketScheme.FileSystem (Covered Fits)

variable {cache name address base version commit : Text} {d : Dependency} {w w' : World}

/-! ### Versions -/

lemma nameable_trim {t : Text} : Nameable t.trim ↔ Nameable t := by
  rw [Nameable, Nameable, Text.trim_trim]

/-- Where there is room for the name of a draft, there is for a step. -/
lemma fits_up {k : UInt32} (hfits : Fits (draftPath base k)) (hbase : base.isEmpty = false) :
    Fits (base ++ "/" ++ "..") := by
  have hlong : base.bytes.length + 10 ≤ (draftPath base k).bytes.length ∧
      base.toList <+: (draftPath base k).toList := by
    have hfront : draftFront.bytes.length = 10 := by decide
    rw [draftPath, FileSystem.inside, draftName]
    split
    · refine ⟨?_, List.prefix_append _ _⟩
      rw [Text.bytes_append, Text.bytes_append, List.length_append, List.length_append, hfront]
      omega
    · refine ⟨?_, List.prefix_append_of_prefix (List.prefix_append _ _)⟩
      rw [Text.bytes_append, Text.bytes_append, Text.bytes_append, List.length_append,
        List.length_append, List.length_append, hfront]
      omega
  obtain ⟨hlong, hwithin⟩ := hlong
  have hfront := hfits.front hbase hwithin
  refine ⟨Text.isEmpty_append_of_right rfl _, fun hnull => ?_, ?_⟩
  · rcases List.mem_append.mp hnull with hnull | hnull
    · rcases List.mem_append.mp hnull with hnull | hnull
      · exact hfront.null_free hnull
      · exact absurd hnull (by decide)
    · exact absurd hnull (by decide)
  · have hslash : (Text.bytes "/").length = 1 := by decide
    have hup : (Text.bytes "..").length = 2 := by decide
    have hlength := hfits.length_lt
    rw [Text.bytes_append, Text.bytes_append, List.length_append, List.length_append, hslash, hup]
    omega

/-- A step is where the cache keeps a dependency, or around it, and so it is there and nothing is
cloned for it. -/
lemma Obtained.nameable_rev {files : FileSystem} {dir : Place} {k : UInt32} {c : Clone}
    {hash : Hash} (h : Obtained base address d w version commit files dir k c hash)
    (hw : Covered w.files)
    (hbase : base.isEmpty = false) (hclean : Path.clean base = base) : Nameable d.rev := by
  have hdir := h.drafted.directory
  have hthere : ∀ t : Text, d.rev.trim = t → t.isEmpty = false →
      isThere w (versionDir base t) = true → False := by
    rintro t rfl hempty hthere
    rcases h.needed with hneeded | hneeded
    · rw [hempty] at hneeded
      cases hneeded
    · rw [hthere] at hneeded
      cases hneeded
  refine ⟨fun hrev => hthere _ hrev rfl ?_, fun hrev => hthere _ hrev rfl ?_⟩
  · have hsame : versionDir base "." = base := by
      have hhere : directoryName "." = "." := by decide
      have hcomponents : Path.cleanComponents (base ++ "/" ++ ".") = Path.cleanComponents base := by
        rw [Path.cleanComponents, Path.isAbsolute_slash hbase, Path.components_slash,
          Path.components_here, List.foldl_append, List.foldl_cons, List.foldl_nil,
          Path.cleanStep_stay (by decide),
          ← Path.cleanComponents]
      rw [versionDir, hhere, Path.join_pair hbase rfl, Path.clean, Path.isAbsolute_slash hbase,
        hcomponents, ← Path.clean, hclean]
    rw [hsame]
    exact isThere_of_lookup hdir
  · have hup : directoryName ".." = ".." := by decide
    have hfits := fits_up (FileSystem.leads_iff.mp h.drafted.leads).1 hbase
    rw [← hclean] at hdir hfits
    obtain ⟨q, e, hlookup⟩ := FileSystem.lookup_up hw hbase hdir hfits
    rw [versionDir, hup, Path.join_pair hbase rfl]
    exact isThere_of_lookup hlookup

/-- The version is a step to somewhere else only if the dependency asks for it. -/
lemma nameable_version_iff (hw : Covered w.files) (hbase : base.isEmpty = false)
    (hclean : Path.clean base = base) (h : ensure base address d w = (.ok (version, commit), w')) :
    Nameable version ↔ Nameable d.rev := by
  obtain ⟨made, hmake, hcases⟩ := ensure_eq_ok hw hbase hclean h
  rcases hcases with ⟨-, rfl, -⟩ | ⟨files, dir, k, c, hash, -, hobtained⟩
  · exact nameable_trim
  · -- the version ends with a hash, which no step does
    obtain ⟨-, -, hnames⟩ := hobtained.version_spec
    have hcovered := (FileSystem.stored_makeDirs hw w.cwd base).covered hw
    rw [hmake] at hcovered
    exact iff_of_true (Segment.isName_directoryName_iff.mp (Segment.isName_of_names hnames))
      (hobtained.nameable_rev hcovered hbase hclean)

/-! ### Directories -/

section

variable (hcache : cache.isEmpty = false)

include hcache

/-- Where the directory of a version is, whatever the name and the version are. -/
lemma reach_dir (cwd name version : Text) :
    reach cwd (versionDir (packageDir cache name) version) =
      walk (reach cwd (Path.join [cache, "src"])) [directoryName name, directoryName version] := by
  rw [versionDir, Path.join_pair (isEmpty_packageDir hcache name)
      (Segment.isEmpty_directoryName version), Path.reach_clean,
    Path.reach_slash (isEmpty_packageDir hcache name),
    Path.components_name (Segment.slash_free_directoryName version), packageDir_eq hcache,
    Path.reach_clean, Path.reach_slash (isEmpty_src cache),
    Path.components_name (Segment.slash_free_directoryName name), Path.join_pair hcache rfl,
    Path.reach_clean]
  rfl

lemma dir_eq (hname : Nameable name) (hversion : Nameable version) :
    versionDir (packageDir cache name) version =
      Path.join [cache, "src"] ++ "/" ++ directoryName name ++ "/" ++ directoryName version := by
  rw [versionDir_eq hcache hname.isName hversion.isName, packageDir_eq hcache,
    Path.clean_slash_name (isEmpty_src cache) (cleanComponents_src hcache) hname.isName,
    Path.join_pair hcache rfl]

/-- Two ordinary components behind the cache's own directory lead two levels down. -/
lemma reach_below (cwd : Text) {n v : Text} (hn : Ordinary n) (hv : Ordinary v) :
    reach cwd (Path.join [cache, "src"] ++ "/" ++ n ++ "/" ++ v) =
      reach cwd (Path.join [cache, "src"]) ++ [n, v] := by
  have hjoin : (Path.join [cache, "src"]).isEmpty = false := by
    rw [Path.join_pair hcache rfl]
    exact Path.isEmpty_clean _
  rw [Path.reach_slash_name (Text.isEmpty_append_of_right hn.nonempty _) hv.isName,
    Path.reach_slash_name hjoin hn.isName, List.append_assoc, List.singleton_append]

end

/-- **Fetched code and the cache**: names and versions are made into components of plain
characters, and the directory of a fetched dependency is where the two lead from the cache's own
directory. It is exactly two levels below, by ordinary components, if neither the dependency's name
nor its revision is one of the steps `.` and `..`, and otherwise it is elsewhere. -/
theorem fetched_confined (hcache : cache.isEmpty = false) (hw : Covered w.files) {found : Fetched}
    (hfetch : fetch cache name d w = (.ok found, w')) :
    (∀ t, (directoryName t).isEmpty = false ∧
      (∀ g ∈ (directoryName t).toList, g.satisfies Segment.isPlain = true) ∧
      (Ordinary (directoryName t) ↔ t.trim ≠ "." ∧ t.trim ≠ "..")) ∧
    (∀ cwd, reach cwd found.dir = walk (reach cwd (Path.join [cache, "src"]))
      [directoryName name, directoryName found.package.version]) ∧
    ((∃ n v, Ordinary n ∧ Ordinary v ∧
        found.dir = Path.join [cache, "src"] ++ "/" ++ n ++ "/" ++ v) ↔
      Nameable name ∧ Nameable d.rev) ∧
    (Nameable name → Nameable d.rev → found.dir = Path.join [cache, "src"] ++ "/" ++
      directoryName name ++ "/" ++ directoryName found.package.version) := by
  obtain ⟨-, version, commit, checksum, hensure, -, rfl⟩ := fetch_eq_ok hfetch
  have hversion := nameable_version_iff hw (isEmpty_packageDir hcache name)
    (clean_packageDir hcache name) hensure
  have hdir : Nameable name → Nameable d.rev → versionDir (packageDir cache name) version =
      Path.join [cache, "src"] ++ "/" ++ directoryName name ++ "/" ++ directoryName version :=
    fun hname hrev => dir_eq hcache hname (hversion.mpr hrev)
  refine ⟨fun t => ⟨Segment.isEmpty_directoryName t, Segment.isPlain_directoryName t,
    Segment.ordinary_directoryName_iff⟩, fun cwd => reach_dir hcache cwd name version, ?_, hdir⟩
  constructor
  · rintro ⟨n, v, hn, hv, heq⟩
    -- a step among the two would leave the directory less than two levels below
    have hboth : IsName (directoryName name) ∧ IsName (directoryName version) := by
      by_contra hno
      have hlt := Path.length_walk_lt (Segment.slash_free_directoryName name)
        (Segment.slash_free_directoryName version) hno (reach w.cwd (Path.join [cache, "src"]))
      rw [← reach_dir hcache, show versionDir (packageDir cache name) version = _ from heq,
        reach_below hcache w.cwd hn hv, List.length_append] at hlt
      exact absurd hlt (lt_irrefl _)
    exact ⟨Segment.isName_directoryName_iff.mp hboth.1,
      hversion.mp (Segment.isName_directoryName_iff.mp hboth.2)⟩
  · rintro ⟨hname, hrev⟩
    exact ⟨_, _, Segment.ordinary_directoryName_iff.mpr hname,
      Segment.ordinary_directoryName_iff.mpr (hversion.mpr hrev), hdir hname hrev⟩

/-- The first commit by its tag is put below the directory of its name. -/
theorem fetched_confined_byTag :
    ("/home" : Text).isEmpty = false ∧ Nameable "dep" ∧ Nameable byTag.rev ∧
    ∃ found w', fetch "/home" "dep" byTag (machine (repositoryOf [firstCommit] firstHash)) =
        (.ok found, w') ∧
      found.dir = "/home/src/dep/" ++ firstTagged ∧
      ∃ n v, Ordinary n ∧ Ordinary v ∧
        found.dir = Path.join ["/home", "src"] ++ "/" ++ n ++ "/" ++ v := by
  have hdir : (fetch "/home" "dep" byTag
      (machine (repositoryOf [firstCommit] firstHash))).1.toOption.map Fetched.dir =
      some ("/home/src/dep/" ++ firstTagged) := by
    decide +kernel
  rcases hfetch : fetch "/home" "dep" byTag (machine (repositoryOf [firstCommit] firstHash)) with
    ⟨fault | found, w'⟩
  · rw [hfetch] at hdir
    cases hdir
  · rw [hfetch] at hdir
    have hcovered := (fresh_machine honest_first).covered
    exact ⟨rfl, nameable_dep, pinned_byTag.nameable, found, w', rfl, Option.some.inj hdir,
      (fetched_confined rfl hcovered hfetch).2.2.1.mpr ⟨nameable_dep, pinned_byTag.nameable⟩⟩

/-- The directory around the cache's as a revision. -/
def byStep : Dependency :=
  ⟨"", origin, "..", "", ""⟩

/-- The steps are kept as they are, and lead out of the cache: code that is fetched under the name
`..` is put beside the cache's own directory, and by the revision `..` as well it is all of the
files. -/
theorem fetched_unconfined :
    (directoryName "." = "." ∧ directoryName ".." = "..") ∧
    (fetch "/home" ".." byTag (machine (repositoryOf [firstCommit] firstHash))).1.toOption.map
      Fetched.dir = some ("/home/" ++ firstTagged) ∧
    (fetch "/home" ".." byStep (machine (repositoryOf [firstCommit] firstHash))).1.toOption.map
      Fetched.dir = some "/" := by
  decide +kernel

end Cache

end PocketScheme
