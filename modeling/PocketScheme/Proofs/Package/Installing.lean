import PocketScheme.Proofs.Lockfile.RoundTrip
import PocketScheme.Proofs.Manifest.Validity
import PocketScheme.Proofs.Package.Locating
import PocketScheme.Proofs.Package.Order

/-!
Installing and loading a project, step by step.

* `Manifest.Beside`: a manifest in the directory of its project;
* `Loaded.OnlyResolves`: dependencies of a project were resolved, and nothing else was done;
* `install_cases`: all that installing comes to;
* `Lockfile.Lists`, `Lockfile.lists_prepare`: the lockfile of a project lists its packages.
-/

namespace PocketScheme

open PocketScheme.Path (IsName reach)
open PocketScheme.Manifest (pathOf)
open PocketScheme.FileSystem (Leads InDir Writable)

/-! ### The directory of a project -/

lemma FileSystem.lookup_root (fs : FileSystem) (cwd : Text) :
    fs.lookup cwd "/" = .ok ([], .directory) := rfl

/-- The path of a place is in the directory at the path of the place around it. -/
lemma FileSystem.inDir_pathOf {q : Place} {n : Text} (hq : ∀ c ∈ q, IsName c) (hn : IsName n) :
    InDir (pathOf q) (pathOf (q ++ [n])) n := by
  have hin := FileSystem.inDir_clean (a := pathOf q) rfl hn
  rwa [Path.clean_of_isAbsolute (Path.isAbsolute_pathOf q), Path.walk_pathOf hq,
    ← Path.join_pair rfl hn.nonempty, Path.join_pathOf hq hn.nonempty,
    Path.components_name hn.slash_free, Path.walk_cons, Path.walk_nil, hn.step] at hin

/-- The path from the root leads straight to its place. -/
lemma World.eq_of_absolute? {w : World} (hcwd : Path.isAbsolute w.cwd = true) {path p : Text}
    (h : w.absolute? path = some p) : p = pathOf (reach w.cwd path) := by
  rw [World.absolute?] at h
  split at h
  · rw [← Path.absolute_eq hcwd]
    exact (Option.some.inj h).symm
  · cases h

lemma Lockfile.isName_fileName : IsName Lockfile.fileName :=
  ⟨rfl, by decide, by decide, by decide⟩

/-- The manifest is that of the project in a directory, by the names to its path and by its
place. -/
structure Manifest.Beside (w : World) (path : Text) (m : Manifest) (q dir : Place) : Prop where
  names : ∀ c ∈ q, IsName c
  reach : ∃ n, Path.reach w.cwd path = q ++ [n]
  dir_eq : m.dir = pathOf q
  lookup : w.files.lookup w.cwd (pathOf q) = .ok (dir, .directory)

namespace Manifest

variable {w : World} {path : Text} {m : Manifest} {q dir : Place}

/-- The path is no part of what a manifest says. -/
lemma parse_of_parse {codec : Codec} {p : Text} {content : Text.Bytes}
    (h : parse codec p content = .ok m) :
    m.path = p ∧ ∀ p', parse codec p' content = .ok { m with path := p' } := by
  rw [parse] at h
  split at h
  · cases h
  · cases h
  · rename_i f hread
    dsimp only at h
    split at h
    · rename_i hissues
      cases h
      refine ⟨rfl, fun p' => ?_⟩
      rw [parse, hread]
      exact if_pos hissues
    · cases h

/-- A manifest that is loaded is a file in the directory of its project. -/
lemma beside_of_load (hcwd : Path.isAbsolute w.cwd = true) (h : load w path = .ok m) :
    ∃ q dir, Beside w path m q dir := by
  obtain ⟨-, p, place, content, habs, hlookup, hparse⟩ := load_eq_ok_iff.mp h
  have hp : p = pathOf (Path.reach w.cwd path) := World.eq_of_absolute? hcwd habs
  have hnames := Path.isName_reach hcwd path
  rcases List.eq_nil_or_concat (Path.reach w.cwd path) with hnil | ⟨q, n, hq⟩
  · rw [hp, hnil] at hlookup
    have hroot := (FileSystem.lookup_root w.files w.cwd).symm.trans hlookup
    cases hroot
  · rw [List.concat_eq_append] at hq
    rw [hq] at hnames hp
    obtain ⟨hnames, hn⟩ := List.forall_mem_append.mp hnames
    have hname : IsName n := hn n (by simp)
    rw [hp] at hlookup
    obtain ⟨-, -, dir, hdir, -⟩ := (FileSystem.inDir_pathOf hnames hname).of_leads
      (FileSystem.lookup_eq_ok_iff.mp hlookup).1
    refine ⟨q, dir, hnames, ⟨n, hq⟩, ?_, hdir⟩
    rw [Manifest.dir, (parse_of_parse hparse).1, hp, Path.dir_pathOf hnames hname]

namespace Beside

variable (h : Beside w path m q dir)

include h

/-- The path of the lockfile beside a manifest. -/
lemma join_lockfile :
    Path.join [m.dir, Lockfile.fileName] = pathOf (q ++ [Lockfile.fileName]) := by
  have hn := Lockfile.isName_fileName
  rw [h.dir_eq, Path.join_pathOf h.names rfl, Path.components_name hn.slash_free, Path.walk_cons,
    Path.walk_nil, hn.step]

lemma isName_lockfile : ∀ c ∈ q ++ [Lockfile.fileName], IsName c :=
  List.forall_mem_append.mpr
    ⟨h.names, List.forall_mem_singleton.mpr Lockfile.isName_fileName⟩

lemma absolute?_lockfile {u : World} (hcwd : Path.isAbsolute u.cwd = true) :
    u.absolute? (pathOf (q ++ [Lockfile.fileName])) =
      some (pathOf (q ++ [Lockfile.fileName])) := by
  rw [World.absolute?, if_pos (by rfl), Path.absolute_eq hcwd,
    Path.reach_pathOf _ h.isName_lockfile]

end Beside

end Manifest

/-! ### Installing -/

/-- Nothing was done, or dependencies of the manifest at a path were resolved and nothing else was
done. -/
def Loaded.OnlyResolves {α : Type} (l : Loaded α) (fetcher : Option Fetcher) (path : Text)
    (w : World) : Prop :=
  (l.world = w ∧ l.requests = []) ∨
    ∃ m lock r s, Manifest.load w path = .ok m ∧
      Resolution.Resolves fetcher lock m m.dependencies (.initial m w) r s ∧
      l.world = s.world ∧ l.requests = s.requests

section

variable {fetcher : Option Fetcher} {path : Text} {w : World}

/-- All that installing comes to: it fails in resolving, or a lockfile is written in the end. -/
lemma install_cases (fetcher : Option Fetcher) (w : World) (path : Text) :
    ((∃ fault, (install fetcher w path).result = .error fault) ∧
      (install fetcher w path).OnlyResolves fetcher path w) ∨
    ∃ m s r w₁, Manifest.load w path = .ok m ∧
      Resolution.Resolves fetcher none m m.dependencies (.initial m w) (.ok ()) s ∧
      Lockfile.save s.world (some (lockOf m w.now s.order))
        (Path.join [m.dir, Lockfile.fileName]) = (r, w₁) ∧
      install fetcher w path = ⟨r.mapError .unsaved, w₁, s.requests⟩ := by
  rw [install]
  split
  · exact .inl ⟨⟨_, rfl⟩, .inl ⟨rfl, rfl⟩⟩
  · rename_i m hload
    split
    · exact .inl ⟨⟨_, rfl⟩, .inl ⟨rfl, rfl⟩⟩
    · rename_i fault s hresolve
      exact .inl ⟨⟨_, rfl⟩, .inr ⟨m, none, _, s, hload,
        Resolution.resolve_eq_error_iff.mp hresolve, rfl, rfl⟩⟩
    · rename_i packages s hresolve
      obtain ⟨hrun, rfl⟩ := Resolution.resolve_eq_ok_iff.mp hresolve
      dsimp only
      rcases hsave : Lockfile.save s.world (some (lockOf m w.now s.order))
        (Path.join [m.dir, Lockfile.fileName]) with ⟨r, w₁⟩
      refine .inr ⟨m, s, r, w₁, hload, hrun, hsave, ?_⟩
      cases r <;> rfl

/-- Loading writes no lockfile. -/
lemma onlyResolves_ofTarget (fetcher : Option Fetcher) (w : World) (path target : Text) :
    (Program.ofTarget fetcher w path target).OnlyResolves fetcher path w := by
  rw [Program.ofTarget]
  split
  · exact .inl ⟨rfl, rfl⟩
  · rename_i m t lock hprepare
    have hload : Manifest.load w path = .ok m := by
      rw [Program.prepare] at hprepare
      split at hprepare
      · rename_i hload
        obtain ⟨_, hm, hprepare⟩ := exists_of_bind_eq_ok hprepare
        obtain ⟨_, -, hprepare⟩ := exists_of_bind_eq_ok hprepare
        obtain ⟨_, -, hprepare⟩ := exists_of_bind_eq_ok hprepare
        cases hm
        cases hprepare
        exact hload
      · cases hprepare
    split
    · exact .inl ⟨rfl, rfl⟩
    · rename_i fault s hresolve
      exact .inr ⟨m, lock, _, s, hload, Resolution.resolve_eq_error_iff.mp hresolve, rfl, rfl⟩
    · rename_i packages s hresolve
      exact .inr ⟨m, lock, _, s, hload, (Resolution.resolve_eq_ok_iff.mp hresolve).1, rfl, rfl⟩

end

/-! ### The lockfile of a project -/

/-- One entry for each package, with different names, in the order of the names. -/
structure Lockfile.Lists (lock : Lockfile) (packages : List ResolvedPackage) : Prop where
  entries : lock.entries.Perm (packages.map fun p => p.locked.normalize)
  names : (lock.entries.map LockedPackage.name).Perm (packages.map ResolvedPackage.name)
  ordered : lock.entries.Pairwise fun p q => p.name ≠ q.name ∧ Text.comesFirst p.name q.name = true

section

variable {cache : Text} {m : Manifest} {w : World} {s : Resolution}

/-- The lockfile of packages has one entry for each. -/
lemma entries_prepare_lockOf (m : Manifest) (now : Text) (packages : List ResolvedPackage)
    (p now' : Text) : ((lockOf m now packages).prepare p now').entries.Perm
      (packages.map fun p => p.locked.normalize) := by
  have hentries : (lockOf m now packages).entries = packages.map ResolvedPackage.locked := by
    simp [lockOf, Lockfile.entries, List.filterMap_map]
  have hperm : ((lockOf m now packages).prepare p now').entries.Perm
      ((lockOf m now packages).entries.map LockedPackage.normalize) :=
    (Lockfile.arranges_normalize _).perm
  rwa [hentries, List.map_map] at hperm

namespace Resolution.Resolves

/-- The entries of a lockfile are named as the packages are. -/
lemma normalize_name {r : Except PackageFault Unit}
    (h : Resolves (Fetcher.cached cache) none m m.dependencies (.initial m w) r s) :
    ∀ p ∈ s.order, p.locked.normalize.name = p.name := by
  intro p hp
  obtain ⟨hlocked, hsanitize⟩ := h.named (by simp [Resolution.initial]) p hp
  rw [LockedPackage.normalize, hlocked, hsanitize]

lemma names_perm {r : Except PackageFault Unit}
    (h : Resolves (Fetcher.cached cache) none m m.dependencies (.initial m w) r s)
    {entries : List LockedPackage}
    (hentries : entries.Perm (s.order.map fun p => p.locked.normalize)) :
    (entries.map LockedPackage.name).Perm (s.order.map ResolvedPackage.name) := by
  have hmap := hentries.map LockedPackage.name
  rw [List.map_map] at hmap
  exact hmap.trans (.of_eq (List.map_congr_left h.normalize_name))

end Resolution.Resolves

lemma Lockfile.lists_prepare
    (h : Resolution.Resolves (Fetcher.cached cache) none m m.dependencies (.initial m w) (.ok ())
      s) (now p now' : Text) : ((lockOf m now s.order).prepare p now').Lists s.order := by
  have hperm := entries_prepare_lockOf m now s.order p now'
  have hnames := h.names_perm hperm
  have hnodup := hnames.nodup_iff.mpr (h.tidy (Resolution.tidy_initial m w) rfl).1.nodup
  have hordered : ((lockOf m now s.order).prepare p now').entries.Pairwise
      fun p q => Text.comesFirst p.name q.name = true := (Lockfile.arranges_normalize _).ordered
  exact ⟨hperm, hnames, (List.pairwise_map.mp hnodup).and hordered⟩

end

end PocketScheme
