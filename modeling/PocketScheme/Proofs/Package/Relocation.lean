import PocketScheme.Proofs.FileSystem.Linkless
import PocketScheme.Proofs.Manifest.Nearest
import PocketScheme.Proofs.Package.Installing

/-!
The same files in another checkout. All of this is about files without links.

* `FileSystem.Kept`: everything is still there, and at most one file has changed;
* `Checksum.exists_ofPath_iff`: what has a checksum;
* `Cache.Twin`: places with the same names in two checkouts of one commit;
* `Cache.Moves`: what is known of files, and of what has become of them;
* `Cache.Moves.lookup`: paths lead to the same in both;
* `Cache.Moves.load`: manifests are the same in both;
* `Cache.Moves.exists_ofPath`: what had a checksum has one still.
-/

namespace PocketScheme

open PocketScheme.Path (IsName reach walk)
open PocketScheme.Manifest (pathOf)

/-! ### One changed file -/

namespace FileSystem

variable {fs gs hs : FileSystem} {p changed : Place} {cwd : Text}

/-- Everything is still there, and nothing but one file has changed, which can be read. -/
structure Kept (cwd : Text) (changed : Place) (fs gs : FileSystem) : Prop where
  get? : ∀ p e, p ≠ changed → fs.get? p = some e → gs.get? p = some e
  was : Writable fs changed
  is : ∃ content, gs.lookup cwd (pathOf changed) = .ok (changed, .file content)

namespace Kept

lemma directory (h : Kept cwd changed fs gs) (hp : fs.get? p = some .directory) :
    gs.get? p = some .directory := by
  refine h.get? p _ ?_ hp
  rintro rfl
  rcases h.was with hfree | ⟨old, hold⟩
  · rw [hp] at hfree
    cases hfree
  · rw [hp] at hold
    cases hold

/-- What there was is there, or it was the file and still is one. -/
lemma entry (h : Kept cwd changed fs gs) {e : Entry} (hp : fs.get? p = some e) :
    ∃ f, gs.get? p = some f ∧
      (f = e ∨ p = changed ∧ (∃ old, e = .file old) ∧ ∃ new, f = .file new) := by
  by_cases hpc : p = changed
  · subst hpc
    obtain ⟨content, hcontent⟩ := h.is
    refine ⟨_, (lookup_eq_ok_iff.mp hcontent).2, .inr ⟨rfl, ?_, content, rfl⟩⟩
    rcases h.was with hfree | ⟨old, hold⟩
    · rw [hp] at hfree
      cases hfree
    · exact ⟨old, Option.some.inj (hp.symm.trans hold)⟩
  · exact ⟨e, h.get? p e hpc hp, .inl rfl⟩

lemma of_grown (hfs : Grown fs gs) (h : Kept cwd changed gs hs) : Kept cwd changed fs hs := by
  refine ⟨fun p e hp he => h.get? p e hp (hfs p e he), ?_, h.is⟩
  cases hold : fs.get? changed with
  | none => exact .inl hold
  | some e =>
      rcases h.was with hfree | ⟨old, hfile⟩
      · rw [hfs _ _ hold] at hfree
        cases hfree
      · refine .inr ⟨old, ?_⟩
        rw [hold, ← hfs _ _ hold, hfile]

lemma trans_grown (h : Kept cwd changed fs gs) (hgs : Grown gs hs) : Kept cwd changed fs hs := by
  obtain ⟨content, hcontent⟩ := h.is
  exact ⟨fun p e hp he => hgs p e (h.get? p e hp he), h.was, content,
    lookup_of_grown hgs hcontent⟩

lemma linkless (h : Kept cwd changed fs gs) (hgs : Linkless gs) : Linkless fs := by
  intro p t hget
  obtain ⟨f, hf, rfl | ⟨-, ⟨old, hold⟩, -⟩⟩ := h.entry hget
  · exact hgs p t hf
  · cases hold

lemma passes (h : Kept cwd changed fs gs) {cs : List Text} (hp : Passes fs p cs) :
    Passes gs p cs :=
  hp.mono fun _ => h.directory

end Kept

end FileSystem

/-! ### What has a checksum -/

namespace Checksum

variable {fs : FileSystem} {cwd path : Text} {p : Place} {e : Entry}

lemma exists_followTo {checksum : Text} (h : ofPath fs cwd path = .ok checksum) :
    ∃ p e, fs.followTo cwd path = .entry p e := by
  rw [ofPath] at h
  cases hfollow : fs.followTo cwd path with
  | entry p e => exact ⟨p, e, rfl⟩
  | free p =>
      rw [hfollow] at h
      cases h
  | nowhere cause =>
      rw [hfollow] at h
      cases h

/-- A directory has a checksum if everything in it can be opened, and anything else if it can be
read. -/
lemma exists_ofPath_iff (h : fs.followTo cwd path = .entry p e) :
    (∃ checksum, ofPath fs cwd path = .ok checksum) ↔
      if e.isDirectory then
        lastName path = skipped ∨ ∀ b ∈ visits fs p, ∃ r, visit fs cwd path b = .ok r
      else ∃ content, fs.read cwd path = .ok content := by
  have hstream : (∃ checksum, ofPath fs cwd path = .ok checksum) ↔
      ∃ bytes, streamOf fs cwd path p e = .ok bytes := by
    rw [ofPath, h]
    dsimp only [FileSystem.inspect, FileSystem.Found.result]
    cases streamOf fs cwd path p e <;> simp
  rw [hstream, streamOf]
  split
  · by_cases hskipped : lastName path = skipped
    · simp [hskipped]
    · rw [if_neg (by simpa using hskipped), or_iff_right hskipped, files]
      constructor
      · rintro ⟨bytes, hbytes⟩ b hb
        cases hvisit : visit fs cwd path b with
        | ok r => exact ⟨r, rfl⟩
        | error fault =>
            obtain ⟨fault, hfault⟩ := mapM_eq_error hb hvisit
            rw [hfault] at hbytes
            cases hbytes
      · intro hvisits
        obtain ⟨read, hread⟩ := exists_mapM_eq_ok hvisits
        rw [hread]
        exact ⟨_, rfl⟩
  · cases fs.read cwd path <;> simp

/-- What is met on a walk can be visited if its path leads to a file. -/
lemma exists_visit_of_read {b : Place × Entry} {content : Text.Bytes}
    (h : fs.lookup cwd (pathTo path b.1) = .ok (p, .file content)) :
    ∃ r, visit fs cwd path b = .ok r := by
  rw [visit, FileSystem.openAt_eq_file_iff.mpr ⟨p, h⟩, FileSystem.read_eq_ok_iff.mpr ⟨p, h⟩]
  split
  · split <;> exact ⟨_, rfl⟩
  · exact ⟨_, rfl⟩

/-- The names on a walk lead from any directory by the same components. -/
lemma exists_pathTo (rel : Place) : ∃ cs, (∀ c ∈ cs, Glyph.char '/' ∉ c.toList) ∧
    ((∀ c ∈ rel, IsName c) → cs = rel) ∧
    ∀ q, (∀ c ∈ q, IsName c) → pathTo (pathOf q) rel = pathOf (Path.walk q cs) := by
  have hkept : ∀ q, (pathOf q :: rel).filter (fun c => !c.isEmpty) =
      pathOf q :: rel.filter fun c => !c.isEmpty := fun q => List.filter_cons_of_pos rfl
  by_cases hrel : rel.filter (fun c => !c.isEmpty) = []
  · refine ⟨[], by simp, fun hnames => ?_, fun q hq => ?_⟩
    · rw [List.filter_eq_self.mpr fun c hc => by simp [(hnames c hc).nonempty]] at hrel
      exact hrel.symm
    · have hsingle : Text.intercalate "/" [pathOf q] = pathOf q := by simp [Text.intercalate]
      rw [pathTo]
      split
      · rfl
      · rw [Path.join, hkept, hrel]
        dsimp only
        rw [hsingle, Path.clean_of_isAbsolute rfl, Path.walk_pathOf hq, Path.walk_nil]
  · have hne : rel ≠ [] := by
      rintro rfl
      exact hrel rfl
    refine ⟨Path.components (Text.intercalate "/" (rel.filter fun c => !c.isEmpty)),
      fun c => Path.slash_free_of_mem_components, fun hnames => ?_, fun q hq => ?_⟩
    · have hall : rel.filter (fun c => !c.isEmpty) = rel :=
        List.filter_eq_self.mpr fun c hc => by simp [(hnames c hc).nonempty]
      rw [hall, Path.components_intercalate hne fun c hc => (hnames c hc).slash_free]
    · obtain ⟨c, cs, hcs⟩ := List.exists_cons_of_ne_nil hrel
      have hslash : Text.intercalate "/" (pathOf q :: rel.filter fun c => !c.isEmpty) =
          pathOf q ++ "/" ++ Text.intercalate "/" (rel.filter fun c => !c.isEmpty) := by
        rw [hcs, Path.intercalate_cons_cons]
      rw [pathTo, if_neg (by simpa using hne), Path.join, hkept]
      dsimp only
      rw [hslash, Path.clean_of_isAbsolute rfl, Path.components_slash, Path.walk_append,
        Path.walk_pathOf hq]

/-- The last name of the path of a place. -/
lemma lastName_pathOf {q : Place} {n : Text} (hn : IsName n) :
    lastName (pathOf (q ++ [n])) = n := by
  obtain ⟨front, hfront⟩ : ∃ front : Text, pathOf (q ++ [n]) = front ++ "/" ++ n := by
    cases q with
    | nil => exact ⟨"", by simp [pathOf, Text.intercalate]; rfl⟩
    | cons c q =>
        refine ⟨pathOf (c :: q), ?_⟩
        rw [pathOf, Path.intercalate_concat (List.cons_ne_nil c q)]
        exact Text.eq_of_toList (by simp [pathOf])
  rw [hfront, lastName_slash_name front hn]

end Checksum

/-! ### Twins -/

namespace Cache

open PocketScheme.FileSystem (Covered Grown Kept Linkless Passes Fits)

/-- A place, and where the same names lead in a checkout that is named for the commit alone. -/
inductive Twin (src : Place) (gs : FileSystem) : Place → Place → Prop where
  | same (q : Place) : Twin src gs q q
  | moved {n v : Text} {h : Hash} (rest : Place) (hv : Names v h.text)
      (hthere : gs.get? (src ++ [n, h.text]) ≠ none) :
      Twin src gs (src ++ n :: v :: rest) (src ++ n :: h.text :: rest)

namespace Twin

variable {src q q' : Place} {gs : FileSystem}

lemma mono {hs : FileSystem} (h : Twin src gs q q') (hgs : Grown gs hs) : Twin src hs q q' := by
  cases h with
  | same => exact .same q
  | moved rest hv hthere => exact .moved rest hv (hgs.ne_none hthere)

lemma concat (h : Twin src gs q q') (c : Text) : Twin src gs (q ++ [c]) (q' ++ [c]) := by
  cases h with
  | same => exact .same _
  | moved rest hv hthere => simpa using Twin.moved (rest ++ [c]) hv hthere

lemma step (h : Twin src gs q q') {c : Text} (hc : Glyph.char '/' ∉ c.toList) :
    Twin src gs (Path.step q c) (Path.step q' c) := by
  rcases Path.component_cases hc with hstay | rfl | hname
  · rw [Path.step, if_pos hstay, Path.step, if_pos hstay]
    exact h
  · rw [Path.step_up, Path.step_up]
    cases h with
    | same => exact .same _
    | @moved n v hash rest hv hthere =>
        rcases List.eq_nil_or_concat rest with rfl | ⟨rest, c, rfl⟩
        · have hdrop : ∀ u : Text, (src ++ n :: [u]).dropLast = src ++ [n] := by
            intro u
            rw [List.append_cons, List.dropLast_concat]
          rw [hdrop, hdrop]
          exact .same _
        · have hdrop : ∀ u : Text,
              (src ++ n :: u :: rest.concat c).dropLast = src ++ n :: u :: rest := by
            intro u
            rw [List.concat_eq_append, ← List.cons_append, ← List.cons_append,
              ← List.append_assoc, List.dropLast_concat]
          rw [hdrop, hdrop]
          exact .moved rest hv hthere
  · rw [hname.step, hname.step]
    exact h.concat c

/-- Components lead from twins to twins. -/
lemma walk (h : Twin src gs q q') {cs : List Text} (hcs : ∀ c ∈ cs, Glyph.char '/' ∉ c.toList) :
    Twin src gs (Path.walk q cs) (Path.walk q' cs) := by
  induction cs generalizing q q' with
  | nil => exact h
  | cons c cs ih =>
      obtain ⟨hc, hcs⟩ := List.forall_mem_cons.mp hcs
      exact ih (h.step hc) hcs

lemma isName (h : Twin src gs q q') (hq : ∀ c ∈ q, IsName c) : ∀ c ∈ q', IsName c := by
  cases h with
  | same => exact hq
  | @moved n v hash rest hv hthere =>
      simp only [List.forall_mem_append, List.forall_mem_cons] at hq ⊢
      exact ⟨hq.1, hq.2.1, hash.isHash.isName, hq.2.2.2⟩

lemma fits (h : Twin src gs q q') (hq : Fits (pathOf q)) : Fits (pathOf q') := by
  cases h with
  | same => exact hq
  | @moved n v hash rest hv hthere =>
      rw [List.append_cons] at hq ⊢
      exact hq.replace hv.length_bytes_le (hash.isHash.not_mem (by decide))

/-- The twin of a directory that does not count does not count. -/
lemma lastName_eq_skipped (h : Twin src gs q q') (hq : ∀ c ∈ q, IsName c)
    (hlast : Checksum.lastName (pathOf q) = Checksum.skipped) :
    Checksum.lastName (pathOf q') = Checksum.skipped := by
  cases h with
  | same => exact hlast
  | @moved n v hash rest hv hthere =>
      rcases List.eq_nil_or_concat rest with rfl | ⟨rest, c, rfl⟩
      · rw [List.append_cons, Checksum.lastName_pathOf (hq v (by simp))] at hlast
        exact absurd hlast (hv.ne (by decide))
      · have hc : IsName c := hq c (by simp)
        have hsplit : ∀ u : Text,
            src ++ n :: u :: rest.concat c = src ++ n :: u :: rest ++ [c] := by simp
        rw [hsplit, Checksum.lastName_pathOf hc] at hlast ⊢
        exact hlast

end Twin

/-! ### Files that have moved -/

/-- The files `fs` have become `gs`: there is more in the cache, which was and is intact, and one
file has changed outside of it. -/
structure Moves (content : Contents) (src : Place) (cwd : Text) (changed : Place)
    (fs gs : FileSystem) : Prop where
  covered : Covered fs
  linkless : Linkless gs
  intact : Intact content src fs
  intact' : Intact content src gs
  named : ∀ c ∈ changed, IsName c
  kept : Kept cwd changed fs gs
  elsewhere : ∀ root, ¬ root <+: src → ¬ src <+: root → ∀ b ∈ gs.below root,
    b ∈ fs.below root ∨ root ++ b.1 = changed

namespace Moves

variable {content : Contents} {src changed q q' p : Place} {cwd : Text} {fs gs : FileSystem}
  {e : Entry} (hm : Moves content src cwd changed fs gs)

include hm

lemma linkless_before : Linkless fs :=
  hm.kept.linkless hm.linkless

/-- Checkouts of one commit hold the same. -/
lemma below_moved {n v v' : Text} {h : Hash} (rest : Place) (hv : Names v h.text)
    (hv' : Names v' h.text) (hthere : fs.get? (src ++ [n, v]) ≠ none)
    (hthere' : gs.get? (src ++ [n, v']) ≠ none) :
    gs.below (src ++ n :: v' :: rest) = fs.below (src ++ n :: v :: rest) := by
  have hsplit : ∀ (hs : FileSystem) (u : Text), hs.below (src ++ n :: u :: rest) =
      FileSystem.below (hs.below (src ++ [n, u])) rest := by
    intro hs u
    rw [← FileSystem.below_append, List.append_assoc]
    rfl
  obtain ⟨c, t, hc, ht, hholds⟩ := hm.intact.checkout n v hthere
  obtain ⟨c', t', hc', ht', hholds'⟩ := hm.intact'.checkout n v' hthere'
  obtain rfl := Hash.eq_of_text (hc.unique hv)
  obtain rfl := Hash.eq_of_text (hc'.unique hv')
  obtain rfl : t = t' := Option.some.inj (ht.symm.trans ht')
  rw [hsplit, hsplit, hholds, hholds']

/-- A place in a checkout is in one that is there. -/
lemma root_of_get? {n v : Text} {rest : Place} (hq : fs.get? (src ++ n :: v :: rest) ≠ none) :
    fs.get? (src ++ [n, v]) ≠ none := by
  intro hnone
  have hsplit : src ++ n :: v :: rest = src ++ [n, v] ++ rest := by simp
  rw [hsplit] at hq
  exact hq (hm.covered.get?_below hnone rest)

/-- What there was is at the twin of its place. -/
lemma get? (h : Twin src gs q q') (hq : fs.get? q = some e) :
    ∃ f, gs.get? q' = some f ∧
      (f = e ∨ q = changed ∧ (∃ old, e = .file old) ∧ ∃ new, f = .file new) := by
  cases h with
  | same => exact hm.kept.entry hq
  | @moved n v hash rest hv hthere =>
      refine ⟨e, ?_, .inl rfl⟩
      have hroot := hm.root_of_get? (by rw [hq]; exact Option.some_ne_none _)
      have hsame := hm.below_moved [] hv (.self hash.isHash) hroot hthere
      have hsplit : ∀ u : Text, src ++ n :: u :: rest = src ++ [n, u] ++ rest := by simp
      rw [hsplit] at hq ⊢
      rw [FileSystem.get?_append (by simp)] at hq ⊢
      rw [hsame, hq]

lemma directory (h : Twin src gs q q') (hq : fs.get? q = some .directory) :
    gs.get? q' = some .directory := by
  obtain ⟨f, hf, rfl | ⟨-, ⟨old, hold⟩, -⟩⟩ := hm.get? h hq
  · exact hf
  · cases hold

/-- Components pass through directories in both. -/
lemma passes (h : Twin src gs q q') {cs : List Text}
    (hcs : ∀ c ∈ cs, Glyph.char '/' ∉ c.toList) (hp : Passes fs q cs) : Passes gs q' cs := by
  induction cs generalizing q q' with
  | nil => trivial
  | cons c cs ih =>
      obtain ⟨hc, hcs⟩ := List.forall_mem_cons.mp hcs
      exact ⟨hm.directory h hp.1, hp.2.1, ih (h.step hc) hcs hp.2.2⟩

lemma passes_root (h : Twin src gs q q') (hq : ∀ c ∈ q, IsName c) (hp : Passes fs [] q) :
    Passes gs [] q' := by
  cases h with
  | same => exact hm.kept.passes hp
  | @moved n v hash rest hv hthere =>
      have hnames := hq
      simp only [List.forall_mem_append, List.forall_mem_cons] at hnames
      obtain ⟨hsrc, hn, hvname, hrest⟩ := hnames
      have hbase : ∀ c ∈ src ++ [n], IsName c :=
        List.forall_mem_append.mpr ⟨hsrc, List.forall_mem_singleton.mpr hn⟩
      rw [List.append_cons, FileSystem.passes_append, Path.walk_names hbase, List.nil_append,
        Passes] at hp ⊢
      obtain ⟨hpsrc, hdir, -, hprest⟩ := hp
      refine ⟨hm.kept.passes hpsrc, hm.kept.directory hdir, hash.isHash.length_bytes_le, ?_⟩
      rw [hvname.step] at hprest
      rw [hash.isHash.isName.step]
      refine hm.passes ?_ (fun c hc => (hrest c hc).slash_free) hprest
      simpa using Twin.moved [] hv hthere

/-- The path of a place leads to the same as that of its twin. -/
lemma lookup (h : Twin src gs q q') (hq : ∀ c ∈ q, IsName c)
    (hlookup : fs.lookup cwd (pathOf q) = .ok (p, e)) :
    q = p ∧ ∃ f, gs.lookup cwd (pathOf q') = .ok (q', f) ∧
      (f = e ∨ q = changed ∧ (∃ old, e = .file old) ∧ ∃ new, f = .file new) := by
  obtain ⟨hfits, hpasses, rfl, hget⟩ := (hm.linkless_before.lookup_pathOf_iff hq).mp hlookup
  obtain ⟨f, hf, hsame⟩ := hm.get? h hget
  exact ⟨rfl, f, (hm.linkless.lookup_pathOf_iff (h.isName hq)).mpr
    ⟨h.fits hfits, hm.passes_root h hq hpasses, rfl, hf⟩, hsame⟩

/-! ### Checksums -/

lemma exists_read (h : Twin src gs q q') (hq : ∀ c ∈ q, IsName c) {old : Text.Bytes}
    (hread : fs.read cwd (pathOf q) = .ok old) : ∃ new, gs.read cwd (pathOf q') = .ok new := by
  obtain ⟨p, hlookup⟩ := FileSystem.read_eq_ok_iff.mp hread
  obtain ⟨-, f, hf, rfl | ⟨-, -, new, rfl⟩⟩ := hm.lookup h hq hlookup
  · exact ⟨old, FileSystem.read_eq_ok_iff.mpr ⟨q', hf⟩⟩
  · exact ⟨new, FileSystem.read_eq_ok_iff.mpr ⟨q', hf⟩⟩

lemma exists_openAt (h : Twin src gs q q') (hq : ∀ c ∈ q, IsName c)
    (hopen : fs.openAt cwd (pathOf q) = .ok e) : ∃ f, gs.openAt cwd (pathOf q') = .ok f := by
  obtain ⟨⟨p, hlookup⟩, hbarred⟩ := FileSystem.openAt_eq_ok_iff.mp hopen
  obtain ⟨-, f, hf, rfl | ⟨-, -, new, rfl⟩⟩ := hm.lookup h hq hlookup
  · exact ⟨f, FileSystem.openAt_eq_ok_iff.mpr ⟨⟨q', hf⟩, hbarred⟩⟩
  · exact ⟨_, FileSystem.openAt_eq_file_iff.mpr ⟨q', hf⟩⟩

/-- What could be visited on a walk can be visited on one through the twin. -/
lemma exists_visit (h : Twin src gs q q') (hq : ∀ c ∈ q, IsName c) {b : Place × Entry}
    {r : Option (Place × Text.Bytes)} (hvisit : Checksum.visit fs cwd (pathOf q) b = .ok r) :
    ∃ r, Checksum.visit gs cwd (pathOf q') b = .ok r := by
  obtain ⟨cs, hcs, -, hpath⟩ := Checksum.exists_pathTo b.1
  have htwin := h.walk hcs
  have hnames := Path.isName_walk hq hcs
  rw [Checksum.visit, hpath q hq] at hvisit
  rw [Checksum.visit, hpath q' (h.isName hq)]
  split
  · rename_i hdirectory
    rw [if_pos hdirectory] at hvisit
    split
    · exact ⟨_, rfl⟩
    · rename_i hname
      rw [if_neg hname] at hvisit
      split at hvisit
      · rename_i hopen
        obtain ⟨f, hf⟩ := hm.exists_openAt htwin hnames hopen
        rw [hf]
        exact ⟨_, rfl⟩
      · cases hvisit
  · rename_i hdirectory
    rw [if_neg hdirectory] at hvisit
    split at hvisit
    · rename_i hread
      obtain ⟨new, hnew⟩ := hm.exists_read htwin hnames hread
      rw [hnew]
      exact ⟨_, rfl⟩
    · cases hvisit

/-- What is below the twin of a package was below the package before, unless it is the file that
has changed. -/
lemma mem_below (h : Twin src gs q q') (hout : ¬ q <+: src)
    (hpackage : fs.get? (q ++ [Manifest.fileName]) = some e)
    {b : Place × Entry} (hb : b ∈ gs.below q') :
    b ∈ fs.below q ∨ q' = q ∧ q ++ b.1 = changed := by
  have hthere : fs.get? (q ++ [Manifest.fileName]) ≠ none := by
    rw [hpackage]
    exact Option.some_ne_none _
  cases h with
  | @moved n v hash rest hv hthere' =>
      rw [List.append_assoc] at hthere
      rw [hm.below_moved rest hv (.self hash.isHash) (hm.root_of_get? hthere) hthere'] at hb
      exact .inl hb
  | same =>
      by_cases hin : src <+: q
      · -- no package is around the checkouts, so it is in one of them
        obtain ⟨rest, rfl⟩ := hin
        match rest, hout, hthere, hb with
        | [], hout, _, _ => exact absurd (by simp) hout
        | [n], _, hthere, _ =>
            rw [List.append_assoc] at hthere
            obtain ⟨hash, -, hnames, -⟩ := hm.intact.checkout n Manifest.fileName hthere
            exact absurd rfl (hnames.ne (t := Manifest.fileName) (by decide))
        | n :: v :: rest, _, hthere, hb =>
            rw [List.append_assoc] at hthere
            have hroot := hm.root_of_get? hthere
            obtain ⟨e, he⟩ := Option.ne_none_iff_exists'.mp hroot
            have hroot' : gs.get? (src ++ [n, v]) ≠ none := by
              obtain ⟨f, hf, -⟩ := hm.kept.entry he
              rw [hf]
              exact Option.some_ne_none _
            obtain ⟨hash, -, hnames, -⟩ := hm.intact.checkout n v hroot
            rw [hm.below_moved rest hnames hnames hroot hroot'] at hb
            exact .inl hb
      · exact (hm.elsewhere q hout hin b hb).imp_right fun hchanged => ⟨rfl, hchanged⟩

/-- The twin of a package has a checksum if the package had one. -/
lemma exists_ofPath (h : Twin src gs q q') (hq : ∀ c ∈ q, IsName c) (hout : ¬ q <+: src)
    (hpackage : fs.get? (q ++ [Manifest.fileName]) = some e) {checksum : Text}
    (hofPath : Checksum.ofPath fs cwd (pathOf q) = .ok checksum) :
    ∃ checksum, Checksum.ofPath gs cwd (pathOf q') = .ok checksum := by
  obtain ⟨p, f, hfollow⟩ := Checksum.exists_followTo hofPath
  have hlookup := hm.linkless_before.followTo_eq_entry_iff.mp hfollow
  obtain ⟨rfl, f', hlookup', hsame⟩ := hm.lookup h hq hlookup
  have hfollow' := hm.linkless.followTo_eq_entry_iff.mpr hlookup'
  have hdirectory : f'.isDirectory = f.isDirectory := by
    rcases hsame with rfl | ⟨-, ⟨old, rfl⟩, new, rfl⟩
    · rfl
    · rfl
  have hbefore := (Checksum.exists_ofPath_iff hfollow).mp ⟨checksum, hofPath⟩
  rw [Checksum.exists_ofPath_iff hfollow', hdirectory]
  split
  · rename_i hdir
    rw [if_pos hdir] at hbefore
    refine hbefore.imp (h.lastName_eq_skipped hq) fun hvisits b hb => ?_
    obtain ⟨hmem, hcounts⟩ := Checksum.mem_visits.mp hb
    rcases hm.mem_below h hout hpackage hmem with hmem | ⟨rfl, hchanged⟩
    · obtain ⟨r, hr⟩ := hvisits b (Checksum.mem_visits.mpr ⟨hmem, hcounts⟩)
      exact hm.exists_visit h hq hr
    · -- the file that has changed is read by its own path
      obtain ⟨cs, -, hcs, hpath⟩ := Checksum.exists_pathTo b.1
      have hnames := hm.named
      rw [← hchanged] at hnames
      have hrest := (List.forall_mem_append.mp hnames).2
      obtain ⟨content, hcontent⟩ := hm.kept.is
      have hread : gs.lookup cwd (Checksum.pathTo (pathOf q') b.1) =
          .ok (changed, .file content) := by
        rw [hpath _ hq, hcs hrest, Path.walk_names hrest, hchanged]
        exact hcontent
      exact Checksum.exists_visit_of_read hread
  · rename_i hdir
    rw [if_neg hdir] at hbefore
    obtain ⟨old, hold⟩ := hbefore
    exact hm.exists_read h hq hold

end Moves

end Cache

/-! ### Manifests -/

/-- The manifest in the directory at a place. -/
lemma Manifest.load_in_iff {w : World} (hcwd : Path.isAbsolute w.cwd = true) {q : Place}
    (hq : ∀ c ∈ q, IsName c) {m : Manifest} :
    Manifest.load w (Path.join [pathOf q, fileName]) = .ok m ↔ ∃ p content,
      w.files.lookup w.cwd (pathOf (q ++ [fileName])) = .ok (p, .file content) ∧
        parse w.codec (pathOf (q ++ [fileName])) content = .ok m := by
  have hname := isName_fileName
  have hnames : ∀ c ∈ q ++ [fileName], IsName c :=
    List.forall_mem_append.mpr ⟨hq, List.forall_mem_singleton.mpr hname⟩
  have habs : w.absolute? (pathOf (q ++ [fileName])) = some (pathOf (q ++ [fileName])) := by
    rw [World.absolute?, if_pos (by rfl), Path.absolute_eq hcwd, Path.reach_pathOf _ hnames]
  rw [Path.join_pathOf hq hname.nonempty, Path.components_name hname.slash_free, Path.walk_cons,
    Path.walk_nil, hname.step, load_eq_ok_iff, habs]
  simp only [Option.some.injEq, exists_and_left, exists_eq_left']
  exact and_iff_right rfl

namespace Cache.Moves

variable {content : Contents} {src changed q q' : Place} {w w' : World} {m : Manifest}
  (hm : Moves content src w.cwd changed w.files w'.files)
  (hcwd : Path.isAbsolute w.cwd = true) (hcwd' : w'.cwd = w.cwd) (hcodec : w'.codec = w.codec)
  (hchanged : changed.getLast? ≠ some Manifest.fileName)

include hm hcwd hcwd' hcodec hchanged

/-- In the twin of a package there is the same manifest. -/
lemma load (h : Twin src w'.files q q') (hq : ∀ c ∈ q, IsName c)
    (hload : Manifest.load w (Path.join [pathOf q, Manifest.fileName]) = .ok m) :
    m.path = pathOf (q ++ [Manifest.fileName]) ∧
      (∃ file, w.files.get? (q ++ [Manifest.fileName]) = some (.file file)) ∧
      Manifest.load w' (Path.join [pathOf q', Manifest.fileName]) =
        .ok { m with path := pathOf (q' ++ [Manifest.fileName]) } := by
  obtain ⟨p, file, hlookup, hparse⟩ := (Manifest.load_in_iff hcwd hq).mp hload
  obtain ⟨hpath, hparse'⟩ := Manifest.parse_of_parse hparse
  have hnames : ∀ c ∈ q ++ [Manifest.fileName], IsName c :=
    List.forall_mem_append.mpr ⟨hq, List.forall_mem_singleton.mpr Manifest.isName_fileName⟩
  obtain ⟨rfl, f, hf, hsame⟩ := hm.lookup (h.concat Manifest.fileName) hnames hlookup
  have hne : q ++ [Manifest.fileName] ≠ changed := by
    rintro rfl
    exact hchanged List.getLast?_concat
  obtain rfl : f = .file file := hsame.resolve_right fun hlast => hne hlast.1
  refine ⟨hpath, ⟨file, (FileSystem.lookup_eq_ok_iff.mp hlookup).2⟩, ?_⟩
  have hrooted : Path.isAbsolute w'.cwd = true := (congrArg Path.isAbsolute hcwd').trans hcwd
  refine (Manifest.load_in_iff hrooted (h.isName hq)).mpr
    ⟨q' ++ [Manifest.fileName], file, ?_, ?_⟩
  · rw [hcwd']
    exact hf
  · rw [hcodec]
    exact hparse' _

end Cache.Moves

end PocketScheme
