import PocketScheme.Proofs.FileSystem.Following
import Mathlib.Data.List.Chain

/-!
What the operations on paths do.

* `FileSystem.write_cases`: all that writing a file can do;
* `FileSystem.makeDirs_slash_name`: a directory in another one is made after that;
* `FileSystem.stored_makeDirs`: making directories makes those on the way, and no others;
* `FileSystem.lookup_of_makeDirs`: what has been made is there;
* `FileSystem.makeDirs_child`, `FileSystem.makeDirs_child_eq_ok_iff`: a directory in another one;
* `FileSystem.Attempted`: what is left of attempts to make things in a directory;
* `FileSystem.makeTemp_eq_ok`: a new directory has a name of its own.
-/

namespace PocketScheme.FileSystem

open PocketScheme.Path (components IsName)

variable {fs gs : FileSystem} {p q : Place} {e : Entry} {last : Bool} {cs : List Text}
  {c cwd path : Text}

/-! ### Writing files -/

/-- A file can be written at the place: there is nothing, or a file. -/
def Writable (fs : FileSystem) (q : Place) : Prop :=
  fs.get? q = none ∨ ∃ old, fs.get? q = some (.file old)

lemma Writable.ne_nil (h : Writable fs q) : q ≠ [] := by
  rintro rfl
  rcases h with h | ⟨old, h⟩ <;> cases h

lemma Writable.ways (h : Writable fs q) : Ways fs (fs.put q e) := by
  have hne : ∀ p f, fs.get? p = some f → (∀ old, f ≠ .file old) → p ≠ q := by
    rintro p f hp hf rfl
    rcases h with h | ⟨old, h⟩
    · rw [hp] at h
      cases h
    · rw [hp] at h
      exact hf old (Option.some.inj h)
  constructor
  · intro p hp
    rwa [get?_put_of_ne (hne p _ hp (by simp))]
  · intro p t hp
    rwa [get?_put_of_ne (hne p _ hp (by simp))]

/-- What has been written is there. -/
lemma Leads.lookup_put (hleads : Leads fs true cwd path q) (hq : Writable fs q)
    (he : ∀ t, e ≠ .link t) : (fs.put q e).lookup cwd path = .ok (q, e) := by
  have hget : (fs.put q e).get? q = some e := get?_put_self hq.ne_nil
  refine lookup_eq_ok_iff.mpr ⟨hleads.of_ways hq.ways fun t ht => ?_, hget⟩
  rw [hget] at ht
  exact absurd (Option.some.inj ht) (he t)

/-- All that writing can do: a file is there afterwards, with the whole content if nothing failed,
or nothing has changed. -/
lemma write_cases (fs : FileSystem) (space : Place → Option Nat) (cwd path : Text)
    (content : Text.Bytes) :
    (∃ q stored, Leads fs true cwd path q ∧ Writable fs q ∧
      (fs.write space cwd path content).2 = fs.put q (.file stored) ∧
      ((fs.write space cwd path content).1 = .ok () → stored = content)) ∨
    (∃ fault, fs.write space cwd path content = (.error fault, fs)) := by
  have hfill : ∀ q, ∃ stored, (fs.fill space q path content).2 = fs.put q (.file stored) ∧
      ((fs.fill space q path content).1 = .ok () → stored = content) := by
    intro q
    rw [fill]
    split
    · split
      · exact ⟨content, rfl, fun _ => rfl⟩
      · exact ⟨_, rfl, fun h => by cases h⟩
    · exact ⟨content, rfl, fun _ => rfl⟩
  rw [write, follow]
  split
  · rename_i q old htrace
    obtain ⟨hleads, hget⟩ := trace_eq_entry_iff.mp htrace
    obtain ⟨stored, hstored⟩ := hfill q
    exact .inl ⟨q, stored, hleads, .inr ⟨old, hget⟩, hstored⟩
  · rename_i q htrace
    obtain ⟨hleads, hget⟩ := trace_eq_free_iff.mp htrace
    obtain ⟨stored, hstored⟩ := hfill q
    exact .inl ⟨q, stored, hleads, .inl hget, hstored⟩
  all_goals exact .inr ⟨_, rfl⟩

/-- A file that was written can be read. -/
lemma write_eq_ok {space : Place → Option Nat} {content : Text.Bytes}
    (h : fs.write space cwd path content = (.ok (), gs)) :
    ∃ q, Leads fs true cwd path q ∧ Writable fs q ∧ gs = fs.put q (.file content) ∧
      gs.lookup cwd path = .ok (q, .file content) := by
  rcases write_cases fs space cwd path content with
    ⟨q, stored, hleads, hwritable, hfiles, hstored⟩ | ⟨fault, hfault⟩
  · rw [h] at hfiles hstored
    obtain rfl := hstored rfl
    obtain rfl : gs = fs.put q (.file stored) := hfiles
    exact ⟨q, hleads, hwritable, rfl, hleads.lookup_put hwritable (by simp)⟩
  · rw [h] at hfault
    cases hfault

/-! ### Making directories -/

lemma makeDir_eq_ok_iff : fs.makeDir cwd path = .ok gs ↔
    ∃ q, Leads fs false cwd path q ∧ fs.get? q = none ∧ gs = fs.put q .directory := by
  rw [makeDir, followTo]
  cases htrace : fs.trace false cwd path with
  | free q =>
      obtain ⟨hleads, hget⟩ := trace_eq_free_iff.mp htrace
      simp only [Except.ok.injEq]
      constructor
      · rintro rfl
        exact ⟨q, hleads, hget, rfl⟩
      · rintro ⟨r, hr, -, rfl⟩
        rw [hleads.inj hr]
  | entry q e =>
      obtain ⟨hleads, hget⟩ := trace_eq_entry_iff.mp htrace
      refine iff_of_false (by simp) ?_
      rintro ⟨r, hr, hfree, -⟩
      rw [hr.inj hleads, hget] at hfree
      cases hfree
  | nowhere cause =>
      refine iff_of_false (by simp) ?_
      rintro ⟨r, hr, -⟩
      rw [Leads, htrace] at hr
      exact spot_ne_nowhere hr.symm

/-- A directory that has been made is there. -/
lemma lookup_of_makeDir (h : fs.makeDir cwd path = .ok gs) :
    ∃ q, fs.get? q = none ∧ gs = fs.put q .directory ∧
      gs.lookup cwd path = .ok (q, .directory) := by
  obtain ⟨q, hleads, hfree, rfl⟩ := makeDir_eq_ok_iff.mp h
  refine ⟨q, hfree, rfl, ?_⟩
  exact (hleads.through (by simp [hfree])).lookup_put (.inl hfree) (by simp)

lemma grown_of_makeDir (hfs : Covered fs) (h : fs.makeDir cwd path = .ok gs) : Grown fs gs := by
  obtain ⟨q, hleads, hfree, rfl⟩ := makeDir_eq_ok_iff.mp h
  have hparent : fs.get? q.dropLast ≠ none := by simp [hleads.parent hfs hfree]
  exact (Stored.put (P := fun _ _ => True) trivial hfree hparent).grown

/-- A directory that a path leads to which is on a list. -/
def MadeFor (cwd : Text) (paths : List Text) (gs : FileSystem) (q : Place) (e : Entry) : Prop :=
  e = .directory ∧ ∃ t ∈ paths, gs.lookup cwd t = .ok (q, .directory)

lemma MadeFor.mono {ts us : List Text} (h : MadeFor cwd ts fs q e) (hts : ts ⊆ us)
    (hgrown : Grown fs gs) : MadeFor cwd us gs q e := by
  obtain ⟨he, t, ht, hlookup⟩ := h
  exact ⟨he, t, hts ht, lookup_of_grown hgrown hlookup⟩

lemma stored_makeAll (hfs : Covered fs) (cwd : Text) (ts : List Text) :
    Stored (MadeFor cwd ts (fs.makeAll cwd ts).2) fs (fs.makeAll cwd ts).2 := by
  induction ts with
  | nil => exact .refl
  | cons path ts ih =>
      rw [makeAll]
      split
      · split <;> exact .refl
      · have hsub : ts ⊆ path :: ts := List.subset_cons_self path ts
        split
        · rename_i hmake
          rw [hmake] at ih
          exact ih.mono fun q e h => h.mono hsub (.refl _)
        · rename_i made hmake
          rw [hmake] at ih
          split
          · rename_i hdir
            obtain ⟨q, hleads, hfree, rfl⟩ := makeDir_eq_ok_iff.mp hdir
            have hlookup : (made.put q .directory).lookup cwd path = .ok (q, .directory) :=
              (hleads.through (by simp [hfree])).lookup_put (.inl hfree) (by simp)
            have hparent := hleads.parent (ih.covered hfs) hfree
            have hput : Stored (MadeFor cwd (path :: ts) (made.put q .directory)) made
                (made.put q .directory) :=
              .put ⟨rfl, path, List.mem_cons_self, hlookup⟩ hfree (by simp [hparent])
            exact (ih.mono fun q e h => h.mono hsub hput.grown).trans hput
          · exact ih.mono fun q e h => h.mono hsub (.refl _)

/-- Making directories makes those on the way, and no others. -/
lemma stored_makeDirs (hfs : Covered fs) (cwd path : Text) :
    Stored (MadeFor cwd (steps path) (fs.makeDirs cwd path).2) fs (fs.makeDirs cwd path).2 :=
  (stored_makeAll hfs cwd _).mono fun _ _ h => h.mono (List.reverse_subset.mpr
    (List.Subset.refl _)) (.refl _)

lemma makeAll_of_lookup {ts : List Text} (h : fs.lookup cwd path = .ok (q, e))
    (he : e.isDirectory = true) : fs.makeAll cwd (path :: ts) = (.ok (), fs) := by
  rw [makeAll, h]
  dsimp only
  rw [if_pos he]

/-- A directory that is there after all was there before, or was made last. -/
lemma of_makeAll_cons {ts : List Text} (h : fs.makeAll cwd (path :: ts) = (.ok (), gs)) :
    gs = fs ∨ ∃ hs, fs.makeAll cwd ts = (.ok (), hs) ∧ hs.makeDir cwd path = .ok gs := by
  rw [makeAll] at h
  split at h
  · split at h
    · cases h
      exact .inl rfl
    · cases h
  · split at h
    · cases h
    · rename_i hmake
      split at h
      · rename_i hdir
        cases h
        exact .inr ⟨_, hmake, hdir⟩
      · cases h

/-- What has been made is there. -/
lemma lookup_of_makeAll {ts : List Text} (h : fs.makeAll cwd (path :: ts) = (.ok (), gs)) :
    ∃ q e, gs.lookup cwd path = .ok (q, e) ∧ e.isDirectory = true := by
  rw [makeAll] at h
  split at h
  · rename_i q e hlookup
    split at h
    · cases h
      exact ⟨q, e, hlookup, ‹_›⟩
    · cases h
  · split at h
    · cases h
    · split at h
      · rename_i hdir
        cases h
        obtain ⟨q, -, -, hlookup⟩ := lookup_of_makeDir hdir
        exact ⟨q, .directory, hlookup, rfl⟩
      · cases h

/-! ### The way to a directory -/

/-- The path to the first components of a clean path. -/
def pathTo (path : Text) (front : List Text) : Text :=
  let lead : Text := if Path.isAbsolute path then "/" else ""
  lead ++ Text.intercalate "/" front

/-- The paths to the first components. -/
def stepsTo (path : Text) (front : List Text) : List Text :=
  (List.range front.length).map fun n => pathTo path (front.take (n + 1))

lemma stepsTo_concat (path : Text) (front : List Text) (c : Text) :
    stepsTo path (front ++ [c]) = stepsTo path front ++ [pathTo path (front ++ [c])] := by
  rw [stepsTo, stepsTo, List.length_append, List.length_singleton, List.range_succ,
    List.map_append]
  congr 1
  · refine List.map_congr_left fun n hn => ?_
    rw [List.take_append_of_le_length (List.mem_range.mp hn)]
  · rw [List.map_singleton, List.take_of_length_le (by simp)]

lemma steps_eq (path : Text) : steps path = stepsTo path (Path.cleanComponents path) := rfl

lemma pathTo_cleanComponents (hne : Path.cleanComponents path ≠ []) :
    pathTo path (Path.cleanComponents path) = Path.clean path := by
  rcases Path.clean_cases path with ⟨habs, hclean⟩ | ⟨-, hnil, -⟩ | ⟨habs, -, hclean, -⟩
  · rw [pathTo, habs, hclean]
    rfl
  · exact absurd hnil hne
  · rw [pathTo, habs, hclean]
    rfl

/-- The last step leads to the directory itself. -/
lemma steps_reverse (hne : Path.cleanComponents path ≠ []) :
    ∃ ts, (steps path).reverse = Path.clean path :: ts := by
  have hlast := pathTo_cleanComponents hne
  rw [steps_eq]
  rcases List.eq_nil_or_concat (Path.cleanComponents path) with hnil | ⟨front, c, hcs⟩
  · exact absurd hnil hne
  · rw [hcs, List.concat_eq_append] at hlast ⊢
    rw [stepsTo_concat, hlast, List.reverse_append]
    exact ⟨_, rfl⟩

lemma steps_slash_name {a n : Text} (ha : a.isEmpty = false) (hn : IsName n) :
    (steps (a ++ "/" ++ n)).reverse = Path.clean (a ++ "/" ++ n) :: (steps a).reverse := by
  have hcs := Path.cleanComponents_slash_name ha hn
  have hne : Path.cleanComponents (a ++ "/" ++ n) ≠ [] := by simp [hcs]
  have hlast := pathTo_cleanComponents hne
  have hpath : stepsTo (a ++ "/" ++ n) = stepsTo a := by
    funext front
    rw [stepsTo, stepsTo]
    refine List.map_congr_left fun m _ => ?_
    rw [pathTo, pathTo, Path.isAbsolute_slash ha]
  rw [hcs] at hlast
  rw [steps_eq, steps_eq, hcs, stepsTo_concat, hlast, hpath, List.reverse_append]
  rfl

/-- A directory in another one is made after that. -/
lemma makeDirs_slash_name {a n : Text} (ha : a.isEmpty = false) (hn : IsName n) :
    fs.makeDirs cwd (a ++ "/" ++ n) = match fs.lookup cwd (Path.clean (a ++ "/" ++ n)) with
      | .ok (_, e) => if e.isDirectory then (.ok (), fs)
        else (.error ⟨"mkdir", Path.clean (a ++ "/" ++ n), .notDirectory⟩, fs)
      | .error _ => match fs.makeDirs cwd a with
        | (.error fault, fs) => (.error fault, fs)
        | (.ok (), fs) => match fs.makeDir cwd (Path.clean (a ++ "/" ++ n)) with
          | .ok fs => (.ok (), fs)
          | .error fault => (.error fault, fs) := by
  rw [makeDirs, steps_slash_name ha hn, makeAll]
  rfl

/-- All that making a directory in another one can come to. -/
lemma makeDirs_slash_cases {a n : Text} (ha : a.isEmpty = false) (hn : IsName n)
    {r : Except PathFault Unit} (h : fs.makeDirs cwd (a ++ "/" ++ n) = (r, gs)) :
    (gs = fs ∧ ∃ q e, fs.lookup cwd (Path.clean (a ++ "/" ++ n)) = .ok (q, e) ∧
      (r = .ok () ↔ e.isDirectory = true)) ∨
    (∃ cause, fs.lookup cwd (Path.clean (a ++ "/" ++ n)) = .error cause) ∧
      ((∃ fault, fs.makeDirs cwd a = (.error fault, gs) ∧ r = .error fault) ∨
        ∃ hs, fs.makeDirs cwd a = (.ok (), hs) ∧
          ((∃ fault, hs.makeDir cwd (Path.clean (a ++ "/" ++ n)) = .error fault ∧
              r = .error fault ∧ gs = hs) ∨
            hs.makeDir cwd (Path.clean (a ++ "/" ++ n)) = .ok gs ∧ r = .ok ())) := by
  rw [makeDirs_slash_name ha hn] at h
  split at h
  · rename_i q e hlookup
    refine .inl ?_
    split at h
    · rename_i he
      cases h
      exact ⟨rfl, q, e, hlookup, iff_of_true rfl he⟩
    · rename_i he
      cases h
      exact ⟨rfl, q, e, hlookup, iff_of_false (by simp) he⟩
  · rename_i cause hlookup
    refine .inr ⟨⟨cause, hlookup⟩, ?_⟩
    split at h
    · rename_i fault hs hmake
      cases h
      exact .inl ⟨fault, hmake, rfl⟩
    · rename_i hs hmake
      refine .inr ⟨hs, hmake, ?_⟩
      split at h
      · rename_i hdir
        cases h
        exact .inr ⟨hdir, rfl⟩
      · rename_i fault hdir
        cases h
        exact .inl ⟨fault, hdir, rfl, rfl⟩

lemma lookup_of_makeDirs (hne : Path.cleanComponents path ≠ [])
    (h : fs.makeDirs cwd path = (.ok (), gs)) :
    ∃ q e, gs.lookup cwd (Path.clean path) = .ok (q, e) ∧ e.isDirectory = true := by
  obtain ⟨ts, hts⟩ := steps_reverse hne
  rw [makeDirs, hts] at h
  exact lookup_of_makeAll h

lemma makeDirs_of_lookup (hne : Path.cleanComponents path ≠ [])
    (h : fs.lookup cwd (Path.clean path) = .ok (q, e)) (he : e.isDirectory = true) :
    fs.makeDirs cwd path = (.ok (), fs) := by
  obtain ⟨ts, hts⟩ := steps_reverse hne
  rw [makeDirs, hts]
  exact makeAll_of_lookup h he

lemma makeDirs_clean (fs : FileSystem) (cwd path : Text) :
    fs.makeDirs cwd (Path.clean path) = fs.makeDirs cwd path := by
  rw [makeDirs, makeDirs, steps, steps, Path.cleanComponents_clean, Path.isAbsolute_clean]

/-! ### Making directories again -/

/-- There is something around a directory. -/
lemma Leads.of_up (h : Leads fs last cwd path q) (hfs : Covered fs)
    (hcs : components path = cs ++ [("..": Text)]) : fs.get? q ≠ none := by
  obtain ⟨-, hfollow⟩ := leads_iff.mp h
  rw [hcs] at hfollow
  obtain ⟨dir, -, hdir, -, hq⟩ := of_followFrom_concat hfollow
  rw [hq fun _ _ hlink => hlink.2.1 rfl, Path.step_up]
  exact hfs.get?_dropLast (by simp [hdir])

/-- The path goes one component further than another one, and up only from one that does. -/
structure Further (path parent : Text) : Prop where
  fits : Fits path → Fits parent
  isAbsolute : Path.isAbsolute path = Path.isAbsolute parent
  components : ∃ c, Path.components path = Path.components parent ++ [c] ∧
    (IsName c ∨ ∃ cs, Path.components parent = cs ++ [("..": Text)])

namespace Further

variable {parent : Text}

/-- What leads somewhere leads through a directory. -/
lemma lookup (h : Further path parent) (hpath : fs.lookup cwd path = .ok (q, e)) :
    ∃ dir, fs.lookup cwd parent = .ok (dir, .directory) := by
  obtain ⟨hfits, hfollow⟩ := leads_iff.mp (lookup_eq_ok_iff.mp hpath).1
  obtain ⟨c, hcs, -⟩ := h.components
  rw [hcs, start, h.isAbsolute, ← start] at hfollow
  obtain ⟨dir, hfront, hdir, -, -⟩ := of_followFrom_concat hfollow
  exact ⟨dir, lookup_eq_ok_iff.mpr ⟨leads_iff.mpr ⟨h.fits hfits, hfront⟩, hdir⟩⟩

/-- There is nothing in a directory that was just made. -/
lemma lookup_of_makeDir (h : Further path parent) (hfs : Covered fs)
    (hmake : fs.makeDir cwd parent = .ok gs) : ∃ cause, gs.lookup cwd path = .error cause := by
  refine lookup_eq_error_of_not fun q e hq => ?_
  obtain ⟨r, hleads, hfree, rfl⟩ := makeDir_eq_ok_iff.mp hmake
  obtain ⟨hpath, hget⟩ := lookup_eq_ok_iff.mp hq
  obtain ⟨c, hcs, hc | ⟨cs, hup⟩⟩ := h.components
  · have hparent : (fs.put r .directory).lookup cwd parent = .ok (r, .directory) :=
      (hleads.through (by simp [hfree])).lookup_put (.inl hfree) (by simp)
    obtain ⟨-, hfollow⟩ := leads_iff.mp hpath
    rw [hcs, start, h.isAbsolute, ← start] at hfollow
    obtain ⟨dir, hfront, -, -, hq⟩ := of_followFrom_concat hfollow
    obtain ⟨hto, -⟩ := lookup_eq_ok_iff.mp hparent
    have hdir : dir = r := spot_inj.mp (hfront.symm.trans (leads_iff.mp hto).2)
    have hempty : (fs.put r .directory).get? (r ++ [c]) = none := by
      rw [get?_put_of_ne (by simp), hfs.get?_below hfree]
    have hnolink : ∀ t, ¬ LinkAt (fs.put r .directory) r c t := by
      intro t hlink
      have hat := hlink.2.2
      rw [hempty] at hat
      cases hat
    rw [hdir] at hq
    rw [hq fun _ => hnolink, hc.step, hempty] at hget
    cases hget
  · exact hleads.of_up hfs hup hfree

end Further

/-- What could not be made cannot be made the next time. -/
lemma makeAll_again (hfs : Covered fs) {ts : List Text} (hts : ts.IsChain Further)
    {fault : PathFault} (h : fs.makeAll cwd ts = (.error fault, gs)) :
    gs.makeAll cwd ts = (.error fault, gs) := by
  induction ts generalizing fault gs with
  | nil => cases h
  | cons path ts ih =>
      have hwhole := h
      rw [makeAll] at h
      split at h
      · split at h
        · cases h
        · cases h
          exact hwhole
      · rename_i cause hlookup
        have hrest := hts.tail
        -- the path leads nowhere afterwards, and its parents come out as before
        suffices hnext : (∃ cause, gs.lookup cwd path = .error cause) ∧
            (gs.makeAll cwd ts = (.error fault, gs) ∨
              gs.makeAll cwd ts = (.ok (), gs) ∧ gs.makeDir cwd path = .error fault) by
          obtain ⟨⟨cause, hcause⟩, hagain | ⟨hagain, hdir⟩⟩ := hnext
          · rw [makeAll, hcause, hagain]
          · rw [makeAll, hcause, hagain]
            dsimp only
            rw [hdir]
        cases ts with
        | nil =>
            rw [makeAll] at h
            dsimp only at h
            split at h
            · cases h
            · rename_i hdir
              cases h
              exact ⟨⟨cause, hlookup⟩, .inr ⟨rfl, hdir⟩⟩
        | cons parent ts =>
            have hfurther : Further path parent := List.rel_of_isChain_cons_cons hts
            split at h
            · rename_i hmake
              cases h
              have hagain := ih hrest hmake
              refine ⟨lookup_eq_error_of_not fun q e hq => ?_, .inl hagain⟩
              obtain ⟨dir, hdir⟩ := hfurther.lookup hq
              rw [makeAll_of_lookup hdir rfl] at hagain
              cases hagain
            · rename_i made hmake
              split at h
              · cases h
              · rename_i hdir
                cases h
                obtain ⟨q, e, hparent, he⟩ := lookup_of_makeAll hmake
                refine ⟨?_, .inr ⟨makeAll_of_lookup hparent he, hdir⟩⟩
                rcases of_makeAll_cons hmake with rfl | ⟨before, hbefore, hmade⟩
                · exact ⟨cause, hlookup⟩
                · have hcovered := (stored_makeAll hfs cwd ts).covered hfs
                  rw [hbefore] at hcovered
                  exact hfurther.lookup_of_makeDir hcovered hmade

/-- The path to the first components is a front of the clean path. -/
lemma pathTo_isFront {front rest : List Text}
    (hsplit : Path.cleanComponents path = front ++ rest) (hne : front ≠ []) :
    (pathTo path front).toList <+: (Path.clean path).toList ∧
      (pathTo path front).isEmpty = false ∧
      Path.isAbsolute (pathTo path front) = Path.isAbsolute path ∧
      components (pathTo path front) =
        if Path.isAbsolute path then ("" : Text) :: front else front := by
  have hmem : ∀ c ∈ front, c ∈ Path.cleanComponents path := by
    intro c hc
    rw [hsplit]
    exact List.mem_append_left _ hc
  have hslash : ∀ c ∈ front, Glyph.char '/' ∉ c.toList :=
    fun c hc => Path.slash_free_cleanComponents path c (hmem c hc)
  have hfront := Path.intercalate_append_isPrefix hne rest
  rw [← hsplit] at hfront
  rcases Path.clean_cases path with ⟨habs, hclean⟩ | ⟨-, hnil, -⟩ | ⟨habs, -, hclean, -⟩
  · rw [pathTo, habs, hclean]
    refine ⟨?_, rfl, rfl, ?_⟩
    · exact (List.prefix_append_right_inj _).mpr hfront
    · exact (Path.components_pathOf _ hslash).trans (by rw [if_neg hne]; rfl)
  · rw [hnil] at hsplit
    exact absurd (List.append_eq_nil_iff.mp hsplit.symm).1 hne
  · have hlead : pathTo path front = Text.intercalate "/" front := by
      rw [pathTo, habs]
      rfl
    rw [hlead, habs, hclean]
    obtain ⟨c, cs, hcs⟩ := List.exists_cons_of_ne_nil hne
    have hc : c ∈ front := hcs ▸ List.mem_cons_self
    have hempty : c.isEmpty = false :=
      (Path.normal_cleanComponents path).nonempty c (List.mem_reverse.mpr (hmem c hc))
    refine ⟨hfront, ?_, ?_, Path.components_intercalate hne hslash⟩
    · rw [hcs]
      exact Path.isEmpty_intercalate hempty cs
    · rw [hcs]
      exact Path.isAbsolute_intercalate hempty (hslash c hc) cs

/-- Each step goes one component further than the one before. -/
lemma isChain_stepsTo {front rest : List Text}
    (hsplit : Path.cleanComponents path = front ++ rest) :
    (stepsTo path front).reverse.IsChain Further := by
  induction front using List.reverseRecOn generalizing rest with
  | nil => exact .nil
  | append_singleton front c ih =>
      have hsplit' : Path.cleanComponents path = front ++ ([c] ++ rest) := by
        rw [hsplit, List.append_assoc]
      rw [stepsTo_concat, List.reverse_append, List.reverse_singleton, List.singleton_append]
      rcases List.eq_nil_or_concat front with rfl | ⟨front, d, rfl⟩
      · exact .singleton _
      · rw [List.concat_eq_append] at hsplit hsplit' ih ⊢
        have hchain := ih hsplit'
        rw [stepsTo_concat, List.reverse_append, List.reverse_singleton, List.singleton_append]
          at hchain ⊢
        refine List.isChain_cons_cons.mpr ⟨?_, hchain⟩
        have hne : front ++ [d] ≠ [] := by simp
        obtain ⟨-, hempty, habs, hcs⟩ := pathTo_isFront hsplit' hne
        obtain ⟨-, -, habs', hcs'⟩ := pathTo_isFront hsplit (by simp)
        refine ⟨fun h => h.front hempty ?_, habs'.trans habs.symm, c, ?_, ?_⟩
        · exact (List.prefix_append_right_inj _).mpr (Path.intercalate_append_isPrefix hne [c])
        · rw [hcs', hcs]
          split <;> rfl
        · -- behind steps upwards there may be more of them
          have hnormal := Path.normal_cleanComponents path
          rw [hsplit, List.reverse_append, List.reverse_append, List.reverse_singleton,
            List.singleton_append] at hnormal
          cases hnormal.of_append with
          | name hc _ => exact .inl hc
          | up _ hup _ =>
              have hd : d = ".." := hup d (by simp)
              rw [hcs, hd]
              refine .inr ?_
              split
              · exact ⟨("" : Text) :: front, rfl⟩
              · exact ⟨front, rfl⟩

lemma isChain_steps (path : Text) : (steps path).reverse.IsChain Further :=
  isChain_stepsTo (List.append_nil _).symm

lemma makeDirs_again (hfs : Covered fs) {fault : PathFault}
    (h : fs.makeDirs cwd path = (.error fault, gs)) :
    gs.makeDirs cwd path = (.error fault, gs) :=
  makeAll_again hfs (isChain_steps path) h

/-! ### Making a directory in another one -/

/-- Whatever is below a place, apart from the place itself, is so in another file system. -/
def Unchanged (fs gs : FileSystem) (root : Place) : Prop :=
  ∀ rest, rest ≠ [] → gs.below (root ++ rest) = fs.below (root ++ rest)

lemma Unchanged.get? (h : Unchanged fs gs p) (c : Text) (rest : Place) :
    gs.get? (p ++ c :: rest) = fs.get? (p ++ c :: rest) := by
  have hne : p ++ c :: rest ≠ [] := by simp
  rw [← List.append_nil (p ++ c :: rest), get?_append hne, get?_append hne,
    h _ (List.cons_ne_nil c rest)]

/-- A directory was there before it was made, or there was nothing at all. -/
lemma unchanged_makeDirs (hfs : Covered fs) (hne : Path.cleanComponents path ≠ [])
    {r : Except PathFault Unit} (hmake : fs.makeDirs cwd path = (r, gs))
    (h : gs.lookup cwd (Path.clean path) = .ok (p, .directory)) :
    (fs.lookup cwd (Path.clean path) = .ok (p, .directory) ∨ fs.get? p = none) ∧
      Unchanged fs gs p := by
  have hstored := stored_makeDirs hfs cwd path
  rw [hmake] at hstored
  cases r with
  | error fault =>
      -- what could not be made is not there
      have hagain := makeDirs_again hfs hmake
      rw [makeDirs_of_lookup hne h rfl] at hagain
      cases hagain
  | ok =>
      obtain ⟨ts, hts⟩ := steps_reverse hne
      rw [makeDirs, hts] at hmake
      rcases of_makeAll_cons hmake with rfl | ⟨before, hbefore, hdir⟩
      · exact ⟨.inl h, fun _ _ => rfl⟩
      · have hgrown := stored_makeAll hfs cwd ts
        rw [hbefore] at hgrown
        obtain ⟨q, hfree, rfl, hlookup⟩ := lookup_of_makeDir hdir
        obtain ⟨rfl, -⟩ := Prod.mk.inj (Except.ok.inj (h.symm.trans hlookup))
        have hfree' := hgrown.grown.eq_none hfree
        refine ⟨.inr hfree', fun rest hrest => ?_⟩
        have hcovered := hgrown.covered hfs
        rw [below_put_elsewhere fun hwithin => hrest ?_,
          hcovered.below_eq_nil (hcovered.get?_below hfree rest),
          hfs.below_eq_nil (hfs.get?_below hfree' rest)]
        have hlength := hwithin.length_le
        rw [List.length_append] at hlength
        exact List.length_eq_zero_iff.mp (by omega)

/-- A directory was there before it was made, or there is nothing in it. -/
lemma makeDirs_eq_ok (hfs : Covered fs) (hne : Path.cleanComponents path ≠ [])
    (h : fs.makeDirs cwd path = (.ok (), gs)) :
    gs = fs ∨ ∃ q, gs.lookup cwd (Path.clean path) = .ok (q, .directory) ∧
      ∀ c rest, gs.get? (q ++ c :: rest) = none := by
  obtain ⟨ts, hts⟩ := steps_reverse hne
  rw [makeDirs, hts] at h
  rcases of_makeAll_cons h with rfl | ⟨before, hbefore, hdir⟩
  · exact .inl rfl
  · have hcovered := (stored_makeAll hfs cwd ts).covered hfs
    rw [hbefore] at hcovered
    obtain ⟨q, hfree, rfl, hlookup⟩ := lookup_of_makeDir hdir
    refine .inr ⟨q, hlookup, fun c rest => ?_⟩
    rw [get?_put_of_ne (by simp), hcovered.get?_below hfree]

/-- All that making a directory in another one does to what is in that one. -/
lemma makeDirs_child {a n : Text} (hfs : Covered fs) (hne : Path.cleanComponents a ≠ [])
    (ha : a.isEmpty = false) (hn : IsName n) {r : Except PathFault Unit}
    (hmake : fs.makeDirs cwd (a ++ "/" ++ n) = (r, gs))
    (h : gs.lookup cwd (Path.clean a) = .ok (p, .directory)) :
    (fs.lookup cwd (Path.clean a) = .ok (p, .directory) ∨ fs.get? p = none) ∧
      (∀ m e, gs.get? (p ++ [m]) = some e → fs.get? (p ++ [m]) = some e ∨ e = .directory) ∧
      ∀ m v, gs.below (p ++ [m, v]) = fs.below (p ++ [m, v]) := by
  have hsame : Unchanged fs gs p →
      (∀ m e, gs.get? (p ++ [m]) = some e → fs.get? (p ++ [m]) = some e ∨ e = .directory) ∧
      ∀ m v, gs.below (p ++ [m, v]) = fs.below (p ++ [m, v]) :=
    fun hunchanged => ⟨fun m e he => .inl (hunchanged.get? m [] ▸ he), fun m v =>
      hunchanged _ (List.cons_ne_nil m [v])⟩
  rcases makeDirs_slash_cases ha hn hmake with ⟨rfl, -⟩ |
    ⟨-, ⟨fault, hparent, -⟩ | ⟨made, hparent, ⟨fault, -, -, rfl⟩ | ⟨hdir, -⟩⟩⟩
  · exact ⟨.inl h, hsame fun _ _ => rfl⟩
  · obtain ⟨hbefore, hunchanged⟩ := unchanged_makeDirs hfs hne hparent h
    exact ⟨hbefore, hsame hunchanged⟩
  · obtain ⟨hbefore, hunchanged⟩ := unchanged_makeDirs hfs hne hparent h
    exact ⟨hbefore, hsame hunchanged⟩
  · obtain ⟨q, hleads, hfree, rfl⟩ := makeDir_eq_ok_iff.mp hdir
    obtain ⟨-, -, dir, hlookup, hq⟩ := (inDir_clean ha hn).of_leads hleads
    have hq := hq (by simp)
    have hcovered := (stored_makeDirs hfs cwd a).covered hfs
    rw [hparent] at hcovered
    obtain ⟨rfl, -⟩ := Prod.mk.inj (Except.ok.inj (h.symm.trans
      (lookup_of_grown (grown_of_makeDir hcovered hdir) hlookup)))
    obtain ⟨hbefore, hunchanged⟩ := unchanged_makeDirs hfs hne hparent hlookup
    refine ⟨hbefore, fun m e he => ?_, fun m v => ?_⟩
    · by_cases hm : p ++ [m] = q
      · rw [hm, get?_put_self (ne_nil_of_get?_eq_none hfree)] at he
        exact .inr (Option.some.inj he).symm
      · rw [get?_put_of_ne hm] at he
        exact .inl (hunchanged.get? m [] ▸ he)
    · rw [below_put_elsewhere, hunchanged _ (List.cons_ne_nil m [v])]
      intro hwithin
      have hlength := hwithin.length_le
      simp [hq] at hlength

/-- The directory at the path can be made, and then entered. -/
def Makeable (fs : FileSystem) (cwd path : Text) : Prop :=
  ∃ made dir, fs.makeDirs cwd path = (.ok (), made) ∧
    made.lookup cwd (Path.clean path) = .ok (dir, .directory)

/-- A directory is made in another one if that can be made and the path is not too long, unless
something else is there. -/
lemma makeDirs_child_eq_ok_iff {a n : Text} (hfs : Covered fs) (hne : Path.cleanComponents a ≠ [])
    (ha : a.isEmpty = false) (hn : IsName n)
    (hclear : ∀ hs dir, fs.makeDirs cwd a = (.ok (), hs) →
      hs.lookup cwd (Path.clean a) = .ok (dir, .directory) →
      ∀ e, hs.get? (dir ++ [n]) = some e → e = .directory) :
    (fs.makeDirs cwd (a ++ "/" ++ n)).1 = .ok () ↔
      Makeable fs cwd a ∧ Fits (Path.clean (a ++ "/" ++ n)) ∧ n.bytes.length ≤ nameLimit := by
  have hin := inDir_clean ha hn
  rcases hmake : fs.makeDirs cwd (a ++ "/" ++ n) with ⟨r, gs⟩
  rcases makeDirs_slash_cases ha hn hmake with ⟨rfl, q, e, hlookup, hr⟩ |
    ⟨⟨cause, hlookup⟩, ⟨fault, hparent, rfl⟩ |
      ⟨made, hparent, ⟨fault, hdir, rfl, -⟩ | ⟨hdir, rfl⟩⟩⟩
  · obtain ⟨hfits, hlength, dir, hdir, -⟩ := hin.of_leads (lookup_eq_ok_iff.mp hlookup).1
    have hmade := makeDirs_of_lookup hne hdir rfl
    have hclear := hclear gs dir hmade hdir
    obtain ⟨-, hget, -⟩ := (hin.lookup_eq_ok_iff hdir fun t ht => by cases hclear _ ht).mp hlookup
    exact iff_of_true (hr.mpr (hclear e hget ▸ rfl)) ⟨⟨gs, dir, hmade, hdir⟩, hfits, hlength⟩
  · refine iff_of_false (by simp) ?_
    rintro ⟨⟨hs, dir, hs', -⟩, -⟩
    rw [hparent] at hs'
    cases hs'
  · refine iff_of_false (by simp) ?_
    rintro ⟨⟨hs, dir, hs', hdirectory⟩, hfits, hlength⟩
    obtain ⟨-, rfl⟩ := Prod.mk.inj (hparent.symm.trans hs')
    obtain ⟨hbefore, hunchanged⟩ := unchanged_makeDirs hfs hne hparent hdirectory
    obtain ⟨hleads, hget⟩ := lookup_eq_ok_iff.mp hdirectory
    have hto : Leads made false cwd (Path.clean (a ++ "/" ++ n)) (dir ++ [n]) :=
      hin.leads hleads hget hfits hlength (by simp)
    cases hchild : made.get? (dir ++ [n]) with
    | none =>
        rw [makeDir_eq_ok_iff.mpr ⟨_, hto, hchild, rfl⟩] at hdir
        cases hdir
    | some e =>
        -- what is there was there before, so that the path led to it
        have hold := hunchanged.get? n []
        rw [hchild] at hold
        rcases hbefore with hat | hfree
        · obtain rfl := hclear made dir hparent hdirectory e hchild
          rw [hin.lookup hat hfits hlength hold.symm (by simp)] at hlookup
          cases hlookup
        · rw [hfs.get?_below hfree] at hold
          cases hold
  · obtain ⟨q, hleads, -⟩ := makeDir_eq_ok_iff.mp hdir
    obtain ⟨hfits, hlength, dir, hdirectory, -⟩ := hin.of_leads hleads
    exact iff_of_true rfl ⟨⟨made, dir, hparent, hdirectory⟩, hfits, hlength⟩

/-! ### Directories in which things are made -/

/-- What is left of attempts to make things in the directory at a path: it was made before anything
else, or as much of the way to it as could be made. -/
inductive Attempted (cwd path : Text) (fs : FileSystem) : FileSystem → Prop
  | same : Attempted cwd path fs fs
  | made {hs gs : FileSystem} (hmake : fs.makeDirs cwd path = (.ok (), hs)) (hgrown : Grown hs gs) :
      Attempted cwd path fs gs
  | failed {fault : PathFault} {gs : FileSystem}
      (hmake : fs.makeDirs cwd path = (.error fault, gs)) : Attempted cwd path fs gs

namespace Attempted

variable {hs : FileSystem} (hne : Path.cleanComponents path ≠ [])

include hne

/-- A directory that was made need not be made again. -/
lemma makeDirs_of_grown (hmake : fs.makeDirs cwd path = (.ok (), hs)) (hgrown : Grown hs gs) :
    gs.makeDirs cwd path = (.ok (), gs) := by
  obtain ⟨q, e, hlookup, he⟩ := lookup_of_makeDirs hne hmake
  exact makeDirs_of_lookup hne (lookup_of_grown hgrown hlookup) he

lemma trans (hfs : Covered fs) (h : Attempted cwd path fs gs) (h' : Attempted cwd path gs hs) :
    Attempted cwd path fs hs := by
  cases h with
  | same => exact h'
  | made hmake hgrown =>
      have hagain := makeDirs_of_grown hne hmake hgrown
      cases h' with
      | same => exact .made hmake hgrown
      | made hmake' hgrown' =>
          obtain ⟨-, rfl⟩ := Prod.mk.inj (hagain.symm.trans hmake')
          exact .made hmake (hgrown.trans hgrown')
      | failed hmake' =>
          rw [hagain] at hmake'
          cases hmake'
  | failed hmake =>
      have hagain := makeDirs_again hfs hmake
      cases h' with
      | same => exact .failed hmake
      | made hmake' _ =>
          rw [hagain] at hmake'
          cases hmake'
      | failed hmake' =>
          obtain ⟨-, rfl⟩ := Prod.mk.inj (hagain.symm.trans hmake')
          exact .failed hmake

/-- Attempts do not change what can be made. -/
lemma makeable_iff (hfs : Covered fs) (h : Attempted cwd path fs gs) :
    Makeable gs cwd path ↔ Makeable fs cwd path := by
  cases h with
  | same => rfl
  | made hmake hgrown =>
      have hagain := makeDirs_of_grown hne hmake hgrown
      obtain ⟨q, e, hlookup, -⟩ := lookup_of_makeDirs hne hmake
      have hlookup' := lookup_of_grown hgrown hlookup
      rw [Makeable, Makeable, hagain, hmake]
      simp only [Prod.mk.injEq, true_and, exists_and_left, exists_eq_left', hlookup, hlookup']
  | failed hmake =>
      have hagain := makeDirs_again hfs hmake
      rw [Makeable, Makeable, hagain, hmake]

end Attempted

/-! ### New names -/

lemma makeTempFrom_eq_ok {dir front : Text} {numbers : Nat → UInt32} {n k : Nat}
    (h : fs.makeTempFrom cwd dir front numbers n k = .ok (path, gs)) :
    ∃ m, path = inside dir (front ++ Number.natText (numbers m).toNat) ∧
      fs.makeDir cwd path = .ok gs := by
  induction n generalizing k with
  | zero => cases h
  | succ n ih =>
      rw [makeTempFrom] at h
      split at h
      · rename_i hmake
        cases h
        exact ⟨k, rfl, hmake⟩
      · split at h
        · exact ih h
        · cases h

/-- A new directory has a name that was free. -/
lemma makeTemp_eq_ok {dir front : Text} {numbers : Nat → UInt32}
    (h : fs.makeTemp cwd dir front numbers = .ok (path, gs)) :
    ∃ m, path = inside dir (front ++ Number.natText (numbers m).toNat) ∧
      fs.makeDir cwd path = .ok gs :=
  makeTempFrom_eq_ok h

lemma inDir_inside {dir n : Text} (hdir : dir.isEmpty = false) (hn : IsName n) :
    InDir dir (inside dir n) n := by
  rw [inside]
  split
  · rename_i hslash
    obtain ⟨front, hfront⟩ : ∃ front : Text, dir = front ++ "/" := by
      rw [beq_iff_eq, List.getLast?_eq_some_iff] at hslash
      obtain ⟨gs, hgs⟩ := hslash
      exact ⟨⟨gs⟩, Text.eq_of_toList hgs⟩
    have hjoined : dir ++ n = front ++ "/" ++ n := by rw [hfront]
    have hcomponents : components dir = components front ++ [("" : Text)] := by
      have happend : dir = front ++ "/" ++ ("" : Text) := by
        rw [hfront]
        exact Text.eq_of_toList (List.append_nil _).symm
      rw [happend, Path.components_slash]
      rfl
    refine ⟨hn, fun h => h.front hdir (List.prefix_append _ _), ?_, components front, ?_, .inr
      ⟨"", rfl, hcomponents⟩⟩
    · obtain ⟨g, gs, hgs⟩ := List.exists_cons_of_ne_nil (List.isEmpty_eq_false_iff.mp hdir)
      change ((dir.toList ++ n.toList).head? == _) = _
      rw [hgs, List.cons_append, Path.isAbsolute, hgs]
      rfl
    · rw [hjoined, Path.components_slash, Path.components_name hn.slash_free]
  · exact inDir_slash hdir hn

end PocketScheme.FileSystem
