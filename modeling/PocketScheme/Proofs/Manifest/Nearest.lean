import PocketScheme.Proofs.FileSystem.Following
import PocketScheme.Remotes

/-!
The nearest manifest. A search looks for a manifest in a directory, in the one around it and so on
up to the root, and takes the first one that it finds. It fails at the first path that it cannot
look at.

* `Manifest.above`: the directories that a search goes through;
* `Manifest.leadsToFile`, `Manifest.Refused`, `Manifest.Passed`: what looking at a path can come to;
* `Manifest.findIn_cases`: a search ends at the first path that is not passed;
* `Manifest.nearest_found`: what a search comes to;
* `Manifest.unsearchable_paths`: where there is no manifest, and a search does not say so.
-/

namespace PocketScheme.Manifest

open PocketScheme.Path (IsName reach)
open PocketScheme.FileSystem (placeOf)

variable {w : World} {q : Place} {start : Text}

/-! ### Directories around -/

lemma isName_fileName : IsName fileName := by
  decide

/-- The directory that is `n` levels above another one. -/
def above (dir : Text) : Nat → Text
  | 0 => dir
  | n + 1 => Path.dir (above dir n)

/-- The path of the manifest of a directory. -/
def manifestIn (dir : Text) : Text :=
  Path.join [dir, fileName]

lemma above_pathOf (hq : ∀ c ∈ q, IsName c) (n : Nat) :
    above (pathOf q) n = pathOf (q.take (q.length - n)) := by
  induction n with
  | zero => rw [above, Nat.sub_zero, List.take_length]
  | succ n ih =>
      rw [above, ih]
      rcases Nat.eq_zero_or_pos (q.length - n) with hroot | hpos
      · -- the root is its own directory
        rw [hroot, show q.length - (n + 1) = 0 by omega]
        rfl
      · obtain ⟨k, hk⟩ := Nat.exists_eq_add_of_lt hpos
        have hlt : k < q.length := by omega
        rw [show q.length - n = k + 1 by omega, show q.length - (n + 1) = k by omega,
          List.take_succ_eq_append_getElem hlt]
        exact Path.dir_pathOf (fun c hc => hq c (List.mem_of_mem_take hc))
          (hq _ (List.getElem_mem hlt))

lemma manifestIn_pathOf (hq : ∀ c ∈ q, IsName c) :
    manifestIn (pathOf q) = pathOf (q ++ [fileName]) := by
  rw [manifestIn, Path.join_pathOf hq isName_fileName.nonempty,
    Path.components_name isName_fileName.slash_free, Path.walk_cons, Path.walk_nil,
    isName_fileName.step]

lemma above_of_length_le (hq : ∀ c ∈ q, IsName c) {n : Nat} (hn : q.length ≤ n) :
    above (pathOf q) n = "/" := by
  rw [above_pathOf hq, Nat.sub_eq_zero_of_le hn]
  rfl

/-! ### Looking at paths -/

/-- The path leads to something that is not a directory. -/
def leadsToFile (w : World) (path : Text) : Bool :=
  match w.files.lookup w.cwd path with
  | .ok (_, e) => !e.isDirectory
  | .error _ => false

/-- Looking at the path fails, and not because nothing is there. -/
def Refused (w : World) (path : Text) (cause : PathCause) : Prop :=
  w.files.lookup w.cwd path = .error cause ∧ cause ≠ .notExist

/-- There is nothing at the path, or a directory. -/
def Passed (w : World) (path : Text) : Prop :=
  leadsToFile w path = false ∧ ∀ cause, ¬ Refused w path cause

/-- The path is passed or not, and in the second case leads to a file or is refused. -/
lemma look_cases (w : World) (path : Text) : Passed w path ∨
    ¬ Passed w path ∧ (leadsToFile w path = true ∨ ∃ cause, Refused w path cause) := by
  by_cases hfile : leadsToFile w path = true
  · exact .inr ⟨fun h => by simp [h.1] at hfile, .inl hfile⟩
  · by_cases hrefused : ∃ cause, Refused w path cause
    · exact .inr ⟨fun h => hrefused.elim h.2, .inr hrefused⟩
    · exact .inl ⟨by simpa using hfile, not_exists.mp hrefused⟩

lemma not_refused_of_leadsToFile {path : Text} {cause : PathCause}
    (h : leadsToFile w path = true) : ¬ Refused w path cause := by
  rintro ⟨hlookup, -⟩
  rw [leadsToFile, hlookup] at h
  cases h

/-! ### Searching -/

lemma findIn_of_passed {d : Place} (h : Passed w (pathOf (d ++ [fileName]))) (dirs : List Place) :
    findIn w (d :: dirs) = findIn w dirs := by
  obtain ⟨hfile, hrefused⟩ := h
  rw [leadsToFile] at hfile
  rw [findIn]
  cases hlookup : w.files.lookup w.cwd (pathOf (d ++ [fileName])) with
  | ok found =>
      obtain ⟨p, e⟩ := found
      rw [hlookup] at hfile
      dsimp only at hfile ⊢
      rw [if_pos (by simpa using hfile)]
  | error cause =>
      have hcause : cause = .notExist := by
        by_contra hne
        exact hrefused cause ⟨hlookup, hne⟩
      rw [hcause]
      rfl

lemma findIn_of_leadsToFile {d : Place} (h : leadsToFile w (pathOf (d ++ [fileName])) = true)
    (dirs : List Place) : findIn w (d :: dirs) = .ok (some (pathOf (d ++ [fileName]))) := by
  rw [leadsToFile] at h
  rw [findIn]
  cases hlookup : w.files.lookup w.cwd (pathOf (d ++ [fileName])) with
  | ok found =>
      obtain ⟨p, e⟩ := found
      rw [hlookup] at h
      dsimp only at h ⊢
      rw [if_neg (by simpa using h)]
  | error cause =>
      rw [hlookup] at h
      cases h

/-- What is said of a path that is refused. -/
def refusal (path : Text) (cause : PathCause) : FindFault :=
  .unseen path ⟨"stat", path, cause⟩

lemma findIn_of_refused {d : Place} {cause : PathCause}
    (h : Refused w (pathOf (d ++ [fileName])) cause) (dirs : List Place) :
    findIn w (d :: dirs) = .error (refusal (pathOf (d ++ [fileName])) cause) := by
  rw [findIn, h.1]
  dsimp only
  rw [if_neg (by simpa using h.2)]
  rfl

/-- A search through directories, each by its number, ends at the first one whose manifest is not
passed. -/
lemma findIn_cases (w : World) (dir : Nat → Place) (k : Nat) :
    let path := fun n => pathOf (dir n ++ [fileName])
    let result := findIn w ((List.range k).map dir)
    ((∀ n < k, Passed w (path n)) ∧ result = .ok none) ∨
      ∃ n < k, (∀ m < n, Passed w (path m)) ∧
        (leadsToFile w (path n) = true ∧ result = .ok (some (path n)) ∨
          ∃ cause, Refused w (path n) cause ∧ result = .error (refusal (path n) cause)) := by
  induction k generalizing dir with
  | zero => exact .inl ⟨nofun, rfl⟩
  | succ k ih =>
      intro path result
      have hresult : result = findIn w (dir 0 :: (List.range k).map fun n => dir (n + 1)) := by
        change findIn w ((List.range (k + 1)).map dir) = _
        rw [List.range_succ_eq_map, List.map_cons, List.map_map]
        rfl
      rcases look_cases w (path 0) with hpassed | ⟨-, hfile | ⟨cause, hrefused⟩⟩
      · -- the search goes on from the next directory
        rw [hresult, findIn_of_passed hpassed]
        have hbelow : ∀ n, (∀ m < n, Passed w (path (m + 1))) → ∀ m < n + 1, Passed w (path m) := by
          intro n hn m hm
          cases m with
          | zero => exact hpassed
          | succ m => exact hn m (by omega)
        rcases ih fun n => dir (n + 1) with ⟨hall, hnone⟩ | ⟨n, hn, hbefore, hend⟩
        · exact .inl ⟨hbelow k hall, hnone⟩
        · exact .inr ⟨n + 1, by omega, hbelow n hbefore, hend⟩
      · exact .inr ⟨0, by omega, nofun, .inl ⟨hfile, hresult.trans (findIn_of_leadsToFile hfile _)⟩⟩
      · exact .inr ⟨0, by omega, nofun, .inr
          ⟨cause, hrefused, hresult.trans (findIn_of_refused hrefused _)⟩⟩

/-! ### Where a search starts -/

/-- The directory that a search starts in: that of a file, or else the path itself. -/
def startDir (w : World) (start : Text) : Text :=
  let path := Path.absolute w.cwd start
  if leadsToFile w path then Path.dir path else path

/-- The path from the root is known: a relative path starts in a directory that is there. -/
def Starts (w : World) (start : Text) : Prop :=
  Path.isAbsolute start = true ∨ w.files.isDirectory (placeOf w.cwd) = true

/-- The path that a search looks at in the directory that is `n` levels above the first one. -/
def candidate (w : World) (start : Text) (n : Nat) : Text :=
  manifestIn (above (startDir w start) n)

/-- The place that a search starts at. -/
def startPlace (w : World) (start : Text) : Place :=
  if leadsToFile w (Path.absolute w.cwd start) then (reach w.cwd start).dropLast
  else reach w.cwd start

lemma placeOf_pathOf (hq : ∀ c ∈ q, IsName c) : placeOf (pathOf q) = q := by
  rw [placeOf, Path.cleanComponents_of_isAbsolute (Path.isAbsolute_pathOf q), Path.walk_pathOf hq]

section

variable (hcwd : Path.isAbsolute w.cwd = true)

include hcwd

lemma isName_startPlace : ∀ c ∈ startPlace w start, IsName c := by
  rw [startPlace]
  split
  · exact fun c hc => Path.isName_reach hcwd start c (List.dropLast_subset _ hc)
  · exact Path.isName_reach hcwd start

lemma startDir_eq : startDir w start = pathOf (startPlace w start) := by
  have hdir : Path.dir (pathOf (reach w.cwd start)) = pathOf (reach w.cwd start).dropLast := by
    rw [List.dropLast_eq_take]
    exact above_pathOf (Path.isName_reach hcwd start) 1
  rw [startDir, startPlace, Path.absolute_eq hcwd]
  split
  · exact hdir
  · rfl

lemma candidate_eq (n : Nat) : candidate w start n =
    pathOf ((startPlace w start).take ((startPlace w start).length - n) ++ [fileName]) := by
  have hnames : ∀ c ∈ startPlace w start, IsName c := isName_startPlace hcwd
  rw [candidate, startDir_eq hcwd, above_pathOf hnames,
    manifestIn_pathOf fun c hc => hnames c (List.mem_of_mem_take hc)]

/-- Above the root there is nothing new. -/
lemma candidate_of_length_le {n : Nat} (hn : (startPlace w start).length ≤ n) :
    candidate w start n = candidate w start (startPlace w start).length := by
  rw [candidate_eq hcwd, candidate_eq hcwd, Nat.sub_eq_zero_of_le hn, Nat.sub_self]

lemma find_of_starts (h : Starts w start) :
    find w start = findIn w (ancestors (startPlace w start)) := by
  have hplace := placeOf_pathOf (Path.isName_reach hcwd start)
  rw [find, World.absolute?, startPlace, Path.absolute_eq hcwd, leadsToFile,
    if_pos ((Bool.or_eq_true _ _).mpr h)]
  dsimp only
  rw [hplace]
  cases w.files.lookup w.cwd (pathOf (reach w.cwd start)) with
  | error cause => rfl
  | ok found => cases hdirectory : found.2.isDirectory <;> simp [hdirectory]

omit hcwd in
lemma find_of_not_starts (h : ¬ Starts w start) : find w start = .error (.unresolved start) := by
  rw [find, World.absolute?, if_neg fun hor => h ((Bool.or_eq_true _ _).mp hor)]

/-- A search ends at the first path that is not passed. -/
lemma find_cases (h : Starts w start) :
    ((∀ n, Passed w (candidate w start n)) ∧ find w start = .ok none) ∨
      ∃ n, (∀ m < n, Passed w (candidate w start m)) ∧
        (leadsToFile w (candidate w start n) = true ∧
            find w start = .ok (some (candidate w start n)) ∨
          ∃ cause, Refused w (candidate w start n) cause ∧
            find w start = .error (refusal (candidate w start n) cause)) := by
  have hcases := findIn_cases w
    (fun n => (startPlace w start).take ((startPlace w start).length - n))
    ((startPlace w start).length + 1)
  rw [find_of_starts hcwd h, ancestors]
  simp only [← candidate_eq hcwd] at hcases
  rcases hcases with ⟨hall, hnone⟩ | ⟨n, -, hbefore, hend⟩
  · refine .inl ⟨fun n => ?_, hnone⟩
    rcases Nat.lt_or_ge n ((startPlace w start).length + 1) with hn | hn
    · exact hall n hn
    · rw [candidate_of_length_le hcwd (by omega)]
      exact hall _ (by omega)
  · exact .inr ⟨n, hbefore, hend⟩

end

lemma not_passed_of_leadsToFile {path : Text} (h : leadsToFile w path = true) :
    ¬ Passed w path := by
  rintro ⟨hfile, -⟩
  rw [h] at hfile
  cases hfile

/-- There is only one first number that is not passed. -/
lemma first_unique {P : Nat → Prop} {n m : Nat} (hn : ¬ P n) (hbefore : ∀ k < n, P k)
    (hm : ¬ P m) (hbefore' : ∀ k < m, P k) : n = m := by
  rcases Nat.lt_trichotomy n m with hlt | heq | hlt
  · exact absurd (hbefore' n hlt) hn
  · exact heq
  · exact absurd (hbefore m hlt) hm

/-- **The nearest manifest is found**. Take any files and any path, relative or not. The directories
above the one that the search starts in end at the root. The search finds the manifest of the first
of these directories that has one, if in each one before there is none and this can be seen. It
finds nothing if and only if in all of them there is none and this can be seen. It fails if and only
if the path is relative to a directory that is gone, or at the first path that is refused if there
is no manifest before. -/
theorem nearest_found (w : World) (start : Text) (hcwd : Path.isAbsolute w.cwd = true) :
    (∃ n, above (startDir w start) n = "/") ∧
      (∀ path, find w start = .ok (some path) ↔ Starts w start ∧
        ∃ n, path = candidate w start n ∧ leadsToFile w path = true ∧
          ∀ m < n, Passed w (candidate w start m)) ∧
      (find w start = .ok none ↔ Starts w start ∧ ∀ n, Passed w (candidate w start n)) ∧
      ∀ fault, find w start = .error fault ↔
        ¬ Starts w start ∧ fault = .unresolved start ∨
        Starts w start ∧ ∃ n cause, Refused w (candidate w start n) cause ∧
          fault = refusal (candidate w start n) cause ∧
          ∀ m < n, Passed w (candidate w start m) := by
  have hroot : above (startDir w start) (startPlace w start).length = "/" := by
    rw [startDir_eq hcwd, above_of_length_le (isName_startPlace hcwd) (Nat.le_refl _)]
  refine ⟨⟨_, hroot⟩, ?_⟩
  by_cases hstarts : Starts w start
  · rcases find_cases hcwd hstarts with ⟨hall, hfind⟩ | ⟨n, hbefore, hend⟩
    · -- all are passed, so that none leads to a file and none is refused
      rw [hfind]
      refine ⟨fun path => iff_of_false nofun ?_, iff_of_true rfl ⟨hstarts, hall⟩,
        fun fault => iff_of_false nofun ?_⟩
      · rintro ⟨-, n, rfl, hfile, -⟩
        exact not_passed_of_leadsToFile hfile (hall n)
      · rintro (⟨hnot, -⟩ | ⟨-, n, cause, hrefused, -⟩)
        · exact hnot hstarts
        · exact (hall n).2 cause hrefused
    · rcases hend with ⟨hfile, hfind⟩ | ⟨cause, hrefused, hfind⟩
      · have hnot := not_passed_of_leadsToFile hfile
        rw [hfind]
        refine ⟨fun path => ⟨fun h => ?_, ?_⟩, iff_of_false nofun fun h => hnot (h.2 n),
          fun fault => iff_of_false nofun ?_⟩
        · obtain rfl := Option.some.inj (Except.ok.inj h)
          exact ⟨hstarts, n, rfl, hfile, hbefore⟩
        · rintro ⟨-, m, rfl, hfile', hbefore'⟩
          rw [first_unique hnot hbefore (not_passed_of_leadsToFile hfile') hbefore']
        · rintro (⟨hnot, -⟩ | ⟨-, m, cause, hrefused, -, hbefore'⟩)
          · exact hnot hstarts
          · obtain rfl := first_unique hnot hbefore (fun h => h.2 cause hrefused) hbefore'
            exact not_refused_of_leadsToFile hfile hrefused
      · have hnot : ¬ Passed w (candidate w start n) := fun h => h.2 cause hrefused
        rw [hfind]
        refine ⟨fun path => iff_of_false nofun ?_, iff_of_false nofun fun h => hnot (h.2 n),
          fun fault => ⟨fun h => ?_, ?_⟩⟩
        · rintro ⟨-, m, rfl, hfile, hbefore'⟩
          obtain rfl := first_unique hnot hbefore (not_passed_of_leadsToFile hfile) hbefore'
          exact not_refused_of_leadsToFile hfile hrefused
        · exact .inr ⟨hstarts, n, cause, hrefused, (Except.error.inj h).symm, hbefore⟩
        · rintro (⟨hnot, -⟩ | ⟨-, m, cause', hrefused', rfl, hbefore'⟩)
          · exact absurd hstarts hnot
          · obtain rfl := first_unique hnot hbefore (fun h => h.2 cause' hrefused') hbefore'
            rw [Except.error.inj (hrefused.1.symm.trans hrefused'.1)]
  · rw [find_of_not_starts hstarts]
    refine ⟨fun path => iff_of_false nofun fun h => hstarts h.1,
      iff_of_false nofun fun h => hstarts h.1, fun fault => ⟨fun h => ?_, ?_⟩⟩
    · exact .inl ⟨hstarts, (Except.error.inj h).symm⟩
    · rintro (⟨-, rfl⟩ | ⟨hstarts', -⟩)
      · rfl
      · exact absurd hstarts' hstarts

/-- A directory with a manifest, and one in it where a directory has the name of the manifest. -/
def nested : World :=
  Remotes.world [] [(["a"], .directory), (["a", fileName], .file []), (["a", "b"], .directory),
    (["a", "b", fileName], .directory)] "/a"

/-- The directory is passed over, and the manifest around it is found. -/
theorem nearest_found_nested : Starts nested "b" ∧ startDir nested "b" = "/a/b" ∧
    find nested "b" = .ok (some "/a/package.yml") := by
  have hstarts : Starts nested "b" := .inr (by decide)
  refine ⟨hstarts, by decide, ?_⟩
  refine ((nearest_found nested "b" (by decide)).2.1 "/a/package.yml").mpr
    ⟨hstarts, 1, by decide, by decide, fun m hm => ?_⟩
  obtain rfl : m = 0 := by omega
  refine ⟨by decide, ?_⟩
  rintro cause ⟨hlookup, -⟩
  have hthere : (nested.files.lookup nested.cwd (candidate nested "b" 0)).toOption ≠ none := by
    decide
  rw [hlookup] at hthere
  exact hthere rfl

/-! ### Searches that fail -/

/-- None of the directories has a manifest, and a search does not say so. -/
def Fails (w : World) (start : Text) : Prop :=
  (∀ n, leadsToFile w (candidate w start n) = false) ∧ ∃ fault, find w start = .error fault

lemma fails_of_forall (hcwd : Path.isAbsolute w.cwd = true)
    (h : ∀ n ∈ List.range ((startPlace w start).length + 1),
      leadsToFile w (candidate w start n) = false)
    (hfind : (find w start).toOption = none) : Fails w start := by
  refine ⟨fun n => ?_, ?_⟩
  · rcases Nat.lt_or_ge n ((startPlace w start).length + 1) with hn | hn
    · exact h n (List.mem_range.mpr hn)
    · rw [candidate_of_length_le hcwd (by omega)]
      exact h _ (List.mem_range.mpr (by omega))
  · cases hresult : find w start with
    | error fault => exact ⟨fault, rfl⟩
    | ok found =>
        rw [hresult] at hfind
        cases hfind

/-- A name of 256 bytes. -/
def longName : Text :=
  ⟨List.replicate 256 (.char 'x')⟩

/-- There is no manifest, but a search does not say so if it starts at a name that is too long, in a
working directory that is gone, at a link to itself, or in a directory that may not be entered. -/
theorem unsearchable_paths :
    Fails (Remotes.world [] [] "/") ("/" ++ longName) ∧
      Fails (Remotes.world [] [] "/gone") "." ∧
      Fails (Remotes.world [] [(["l"], .link "l")] "/") "l" ∧
      Fails (Remotes.world [] [(["d"], .barred true)] "/") "d" := by
  refine ⟨fails_of_forall rfl ?_ ?_, fails_of_forall rfl ?_ ?_, fails_of_forall rfl ?_ ?_,
    fails_of_forall rfl ?_ ?_⟩ <;> decide +kernel

end PocketScheme.Manifest
