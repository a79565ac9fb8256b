import PocketScheme.Package.Fetch
import PocketScheme.Proofs.Checksum.Content
import PocketScheme.Proofs.Lockfile.Pins

/-!
Checkouts in the cache.

* `Names`: directories that are named for a commit;
* `Tree.checksum`, `Tree.FitsAt`: what is hashed of a tree without links, and where it can be;
* `Checksum.ofPath_checkout`: the checksum of a checkout;
* `Cache.Intact`: every checkout holds the tree of the commit that it is named for.
-/

namespace PocketScheme

open PocketScheme.Path (IsName)

/-! ### Hashes -/

namespace IsHash

variable {h : Text}

lemma of_mem_digits {P : Glyph → Prop} (hh : IsHash h) (hP : ∀ g ∈ hexDigits, P g) :
    ∀ g ∈ h.toList, P g :=
  fun g hg => hP g (hh.digits g hg)

lemma nonempty (hh : IsHash h) : h.isEmpty = false := by
  rw [Text.isEmpty, List.isEmpty_eq_false_iff]
  intro hnil
  have := hh.length_eq
  rw [hnil] at this
  cases this

lemma trim (hh : IsHash h) : h.trim = h :=
  Text.trim_eq_self_of_forall (hh.of_mem_digits (by decide))

lemma not_mem (hh : IsHash h) {g : Glyph} (hg : g ∉ hexDigits) : g ∉ h.toList :=
  fun hmem => hg (hh.digits g hmem)

lemma isPlain (hh : IsHash h) : ∀ g ∈ h.toList, g.satisfies Segment.isPlain = true :=
  hh.of_mem_digits (by decide)

lemma length_bytes (hh : IsHash h) : h.bytes.length = 40 := by
  have hone : ∀ g ∈ h.toList, g.bytes.length = 1 := hh.of_mem_digits (by decide)
  rw [Text.bytes, List.length_flatMap, List.map_congr_left hone, List.map_const',
    List.sum_replicate_nat, hh.length_eq]

/-- A hash is short enough for the name of a directory. -/
lemma length_bytes_le (hh : IsHash h) : h.bytes.length ≤ FileSystem.nameLimit := by
  rw [hh.length_bytes]
  decide

end IsHash

lemma Hash.eq_of_text {h h' : Hash} (heq : h.text = h'.text) : h = h' := by
  cases h
  cases h'
  cases heq
  rfl

/-- The name of a directory ends in the hash of a commit. -/
structure Names (v h : Text) : Prop where
  isHash : IsHash h
  ends : h.toList <:+ v.toList

namespace Names

variable {v h h' : Text}

lemma self (hh : IsHash h) : Names h h :=
  ⟨hh, List.suffix_refl _⟩

lemma unique (hv : Names v h) (hv' : Names v h') : h = h' := by
  refine Text.eq_of_toList (List.IsSuffix.eq_of_length ?_ ?_)
  · refine List.suffix_of_suffix_length_le hv.ends hv'.ends ?_
    rw [hv.isHash.length_eq, hv'.isHash.length_eq]
  · rw [hv.isHash.length_eq, hv'.isHash.length_eq]

lemma length_le (hv : Names v h) : 40 ≤ v.toList.length :=
  hv.isHash.length_eq ▸ hv.ends.length_le

lemma length_bytes_le (hv : Names v h) : h.bytes.length ≤ v.bytes.length := by
  obtain ⟨front, hfront⟩ := hv.ends
  rw [Text.bytes, Text.bytes, ← hfront, List.flatMap_append, List.length_append]
  exact Nat.le_add_left _ _

/-- Nothing short is named for a commit. -/
lemma ne (hv : Names v h) {t : Text} (ht : t.toList.length < 40) : v ≠ t := by
  rintro rfl
  exact absurd hv.length_le (Nat.not_le.mpr ht)

end Names

/-! ### Names of directories -/

namespace Segment

lemma directoryName_eq {t : Text} (h : t.trim.isEmpty = false) :
    directoryName t =
      ⟨t.trim.toList.map fun g => if g.satisfies isPlain then g else .char '_'⟩ := by
  rw [directoryName]
  exact if_neg (by rw [h]; simp)

lemma isEmpty_directoryName (t : Text) : (directoryName t).isEmpty = false := by
  cases h : t.trim.isEmpty with
  | true =>
      rw [directoryName, if_pos h]
      rfl
  | false =>
      rw [directoryName_eq h, Text.isEmpty, List.isEmpty_map]
      exact h

lemma slash_free_directoryName (t : Text) : Glyph.char '/' ∉ (directoryName t).toList := by
  cases h : t.trim.isEmpty with
  | true =>
      rw [directoryName, if_pos h]
      decide
  | false =>
      rw [directoryName_eq h]
      intro hmem
      obtain ⟨g, -, hg⟩ := List.mem_map.mp hmem
      split at hg
      · rename_i hplain
        rw [hg] at hplain
        cases hplain
      · cases hg

lemma isName_directoryName {t : Text} (hhere : directoryName t ≠ ".")
    (hup : directoryName t ≠ "..") : IsName (directoryName t) :=
  ⟨isEmpty_directoryName t, hhere, hup, slash_free_directoryName t⟩

/-- Where no character was replaced, a directory has the name that was asked for. -/
lemma trim_of_directoryName {t n : Text} (h : directoryName t = n) (hhead : n ≠ "head")
    (hmark : Glyph.char '_' ∉ n.toList) : t.trim = n := by
  cases hempty : t.trim.isEmpty with
  | true =>
      rw [directoryName, if_pos hempty] at h
      exact absurd h.symm hhead
  | false =>
      rw [directoryName_eq hempty] at h
      subst h
      refine Text.eq_of_toList ?_
      conv_lhs => rw [← List.map_id t.trim.toList]
      refine List.map_congr_left fun g hg => ?_
      split
      · rfl
      · rename_i hplain
        refine absurd ?_ hmark
        exact List.mem_map.mpr ⟨g, hg, if_neg hplain⟩

lemma isName_of_trim_ne {t : Text} (hhere : t.trim ≠ ".") (hup : t.trim ≠ "..") :
    IsName (directoryName t) :=
  isName_directoryName (fun h => hhere (trim_of_directoryName h (by decide) (by decide)))
    fun h => hup (trim_of_directoryName h (by decide) (by decide))

lemma isName_of_sanitize_ne {t : Text} (hhere : sanitize t ≠ ".") (hup : sanitize t ≠ "..") :
    IsName (directoryName t) := by
  refine isName_of_trim_ne (fun h => hhere ?_) fun h => hup ?_
  · rw [sanitize, h]
    rfl
  · rw [sanitize, h]
    rfl

lemma isName_of_names {t h : Text} (hh : Names (directoryName t) h) : IsName (directoryName t) :=
  isName_directoryName (hh.ne (by decide)) (hh.ne (by decide))

lemma directoryName_hash {h : Text} (hh : IsHash h) : directoryName h = h := by
  rw [directoryName_eq (by rw [hh.trim]; exact hh.nonempty), hh.trim]
  refine Text.eq_of_toList ?_
  conv_rhs => rw [← List.map_id h.toList]
  exact List.map_congr_left fun g hg => if_pos (hh.isPlain g hg)

end Segment

lemma IsHash.isName {h : Text} (hh : IsHash h) : IsName h := by
  rw [← Segment.directoryName_hash hh]
  refine Segment.isName_of_names (h := h) ?_
  rw [Segment.directoryName_hash hh]
  exact .self hh

/-! ### Checksums of checkouts -/

lemma Checksum.lastName_slash_name (a : Text) {n : Text} (hn : IsName n) :
    lastName (a ++ "/" ++ n) = n := by
  have hne : ∀ g ∈ n.toList.reverse, (g != .char '/') = true := by
    intro g hg
    rw [bne_iff_ne]
    rintro rfl
    exact hn.slash_free (List.mem_reverse.mp hg)
  have hback : (a ++ "/" ++ n).toList.reverse =
      n.toList.reverse ++ .char '/' :: a.toList.reverse := by
    rw [Text.toList_append, Text.toList_append, Path.slash_toList]
    simp
  have hkept : (n.toList.reverse ++ Glyph.char '/' :: a.toList.reverse).dropWhile (· == .char '/') =
      n.toList.reverse ++ .char '/' :: a.toList.reverse := by
    cases hrev : n.toList.reverse with
    | nil =>
        have hnil := hn.nonempty
        rw [Text.isEmpty, List.reverse_eq_nil_iff.mp hrev] at hnil
        cases hnil
    | cons g gs =>
        have hg := hne g (hrev ▸ List.mem_cons_self)
        rw [List.cons_append, List.dropWhile_cons_of_neg]
        simpa using hg
  rw [lastName, hback, hkept, List.takeWhile_append_of_pos hne]
  simp

namespace Tree

variable {t : Tree}

/-- The tree holds files and directories, and no links. -/
def IsPlain (t : Tree) : Prop :=
  ∀ b ∈ t.entries, Checksum.isPlain b.2 = true

instance (t : Tree) : Decidable t.IsPlain :=
  inferInstanceAs (Decidable (∀ b ∈ t.entries, Checksum.isPlain b.2 = true))

/-- The checksum of a tree without links. -/
def checksum (t : Tree) : Text :=
  Sha256.hex (Checksum.stream (Checksum.stored t.checkedOut []))

/-- The paths of a tree at a path are not too long. -/
def FitsAt (t : Tree) (path : Text) : Prop :=
  ∀ b ∈ Checksum.visits t.checkedOut [], Checksum.isPassed b = false →
    FileSystem.Fits (Checksum.pathTo path b.1)

instance (t : Tree) (path : Text) : Decidable (t.FitsAt path) :=
  inferInstanceAs (Decidable (∀ b ∈ Checksum.visits t.checkedOut [], Checksum.isPassed b = false →
    FileSystem.Fits (Checksum.pathTo path b.1)))

lemma distinct_checkedOut (t : Tree) : (t.checkedOut.map Prod.fst).Nodup := by
  have hroot : [] ∉ t.entries.map Prod.fst := by
    intro hmem
    obtain ⟨b, hb, hnil⟩ := List.mem_map.mp hmem
    exact (t.fits b hb).ne_nil hnil
  have hown : [repositoryName] ∉ t.entries.map Prod.fst := by
    intro hmem
    obtain ⟨b, hb, hname⟩ := List.mem_map.mp hmem
    exact (t.fits b hb).outside (by rw [hname]; rfl)
  rw [checkedOut, List.map_cons, List.map_cons, List.nodup_cons, List.nodup_cons]
  exact ⟨by simpa using hroot, hown, t.distinct⟩

lemma lookup_of_mem {b : Place × Entry} (hb : b ∈ t.checkedOut) :
    List.lookup b.1 t.checkedOut = some b.2 :=
  FileSystem.lookup_of_mem t.distinct_checkedOut hb

/-- Whatever is in a tree is in a directory of it. -/
lemma lookup_dropLast {rel : Place} {e : Entry} (h : (rel, e) ∈ t.checkedOut) (hne : rel ≠ []) :
    List.lookup rel.dropLast t.checkedOut = some .directory := by
  rcases List.mem_cons.mp h with heq | h
  · exact absurd (Prod.mk.inj heq).1 hne
  · rcases List.mem_cons.mp h with heq | h
    · rw [(Prod.mk.inj heq).1]
      rfl
    · rcases (t.fits _ h).parent with hnil | hparent
      · rw [show rel.dropLast = [] from hnil]
        rfl
      · obtain ⟨before, after, hsplit, -⟩ := List.lookup_eq_some_iff.mp hparent
        have hmem : (rel.dropLast, Entry.directory) ∈ t.entries := by simp [hsplit]
        exact lookup_of_mem (List.mem_cons_of_mem _ (List.mem_cons_of_mem _ hmem))

lemma lookup_front {rel : Place} {e : Entry} (h : (rel, e) ∈ t.checkedOut) {front rest : Place}
    {c : Text} (hsplit : rel = front ++ c :: rest) :
    List.lookup front t.checkedOut = some .directory := by
  induction rest using List.reverseRecOn generalizing rel e with
  | nil =>
      have hdir := lookup_dropLast h (by simp [hsplit])
      rwa [hsplit, List.dropLast_concat] at hdir
  | append_singleton rest d ih =>
      have hdir := lookup_dropLast h (by simp [hsplit])
      have hdrop : rel.dropLast = front ++ c :: rest := by
        rw [hsplit, ← List.cons_append, ← List.append_assoc, List.dropLast_concat]
      obtain ⟨before, after, hmem, -⟩ := List.lookup_eq_some_iff.mp hdir
      exact ih (e := .directory) (by simp [hmem]) hdrop

lemma named_of_mem {b : Place × Entry} (hb : b ∈ t.checkedOut) :
    ∀ c ∈ b.1, IsName c ∧ c.bytes.length ≤ FileSystem.nameLimit := by
  rcases List.mem_cons.mp hb with rfl | hb
  · simp
  · rcases List.mem_cons.mp hb with rfl | hb
    · decide
    · exact (t.fits b hb).named

lemma IsPlain.of_mem (h : t.IsPlain) {b : Place × Entry} (hb : b ∈ t.checkedOut) :
    Checksum.isPlain b.2 = true := by
  rcases List.mem_cons.mp hb with rfl | hb
  · rfl
  · rcases List.mem_cons.mp hb with rfl | hb
    · rfl
    · exact h b hb

end Tree

lemma FileSystem.below_nil (fs : FileSystem) : fs.below [] = fs := by
  induction fs with
  | nil => rfl
  | cons b fs ih =>
      rw [below_cons, ih]
      rfl

/-- The path of the tree itself is not too long. -/
lemma Tree.FitsAt.fits {t : Tree} {path : Text} (h : t.FitsAt path) : FileSystem.Fits path := by
  refine h ([], .directory) (Checksum.mem_visits.mpr ⟨?_, rfl⟩) rfl
  rw [FileSystem.below_nil]
  exact List.mem_cons_self

namespace Checksum

variable {fs : FileSystem} {cwd path : Text} {root : Place} {t : Tree}

lemma visits_checkout (h : fs.below root = t.checkedOut) :
    visits fs root = visits t.checkedOut [] := by
  rw [visits, visits, h, FileSystem.below_nil]

lemma stored_checkout (h : fs.below root = t.checkedOut) :
    stored fs root = stored t.checkedOut [] := by
  rw [stored, stored, visits_checkout h]

lemma plain_checkout (hroot : root ≠ []) (h : fs.below root = t.checkedOut) (ht : t.IsPlain)
    {b : Place × Entry} (hb : b ∈ visits fs root) : Plain fs root b := by
  have hmem : b ∈ t.checkedOut := h ▸ (mem_visits.mp hb).1
  refine ⟨?_, fun front c rest hsplit => ?_, Tree.named_of_mem hmem, ht.of_mem hmem⟩
  · rw [FileSystem.get?_append hroot, h, Tree.lookup_of_mem hmem]
  · rw [FileSystem.get?_append hroot, h]
    exact Tree.lookup_front (e := b.2) hmem hsplit

/-- A checkout without links has a checksum exactly if none of its paths is too long. -/
lemma ofPath_checkout (hroot : root ≠ []) (h : fs.below root = t.checkedOut) (ht : t.IsPlain)
    (hclean : Path.clean path = path) (hlookup : fs.lookup cwd path = .ok (root, .directory))
    (hleads : fs.followTo cwd path = .entry root .directory) (hpath : lastName path ≠ skipped) :
    (t.FitsAt path → ofPath fs cwd path = .ok t.checksum) ∧
      (¬ t.FitsAt path → ∃ fault, ofPath fs cwd path = .error fault) := by
  refine ⟨fun hfits => ?_, fun hunfit => ?_⟩
  · have hopenable : Openable fs cwd path root := by
      refine openable_of_fits (fun b hb => plain_checkout hroot h ht hb) hleads
        (by rwa [hclean]) fun b hb => ?_
      rw [visits_checkout h] at hb
      exact hfits b hb
    rw [hopenable.ofPath_eq hpath, stored_checkout h, Tree.checksum]
  · rw [Tree.FitsAt] at hunfit
    push Not at hunfit
    obtain ⟨b, hb, hpassed, hlong⟩ := hunfit
    cases hvisit : visit fs cwd path b with
    | ok r => exact absurd (fits_of_visit hpassed hvisit) hlong
    | error fault => exact ofPath_eq_error hleads hpath (visits_checkout h ▸ hb) hvisit

end Checksum

/-! ### The cache -/

namespace Cache

open PocketScheme.FileSystem (Covered Stored)

/-- What checking out commits gives, by their hashes. -/
abbrev Contents := Hash → Option Tree

/-- Every directory in the cache holds checkouts, and each one is that of the commit which it is
named for. -/
structure Intact (content : Contents) (src : Place) (fs : FileSystem) : Prop where
  directory : ∀ n e, fs.get? (src ++ [n]) = some e → e = .directory
  checkout : ∀ n v, fs.get? (src ++ [n, v]) ≠ none →
    ∃ h t, Names v h.text ∧ content h = some t ∧ fs.below (src ++ [n, v]) = t.checkedOut

namespace Intact

variable {content : Contents} {src : Place} {fs gs : FileSystem}

/-- Nothing is wrong where nothing is. -/
lemma of_free (hfs : Covered fs) (hfree : ∀ n, fs.get? (src ++ [n]) = none) :
    Intact content src fs := by
  refine ⟨fun n e he => ?_, fun n v hv => ?_⟩
  · rw [hfree n] at he
    cases he
  · have hnone := hfs.get?_below (hfree n) [v]
    rw [List.append_assoc, List.singleton_append] at hnone
    exact absurd hnone hv

/-- The cache is intact as long as nothing changes in it. -/
lemma of_below_eq (h : Intact content src fs)
    (hdir : ∀ n e, gs.get? (src ++ [n]) = some e → fs.get? (src ++ [n]) = some e ∨ e = .directory)
    (hbelow : ∀ n v, gs.below (src ++ [n, v]) = fs.below (src ++ [n, v])) :
    Intact content src gs := by
  refine ⟨fun n e he => (hdir n e he).elim (h.directory n e) id, fun n v hv => ?_⟩
  have hne : src ++ [n, v] ≠ [] := by simp
  have hget : fs.get? (src ++ [n, v]) = gs.get? (src ++ [n, v]) := by
    rw [← List.append_nil (src ++ [n, v]), FileSystem.get?_append hne, ← hbelow,
      ← FileSystem.get?_append hne]
  obtain ⟨hash, t, hnames, ht, hholds⟩ := h.checkout n v (hget ▸ hv)
  exact ⟨hash, t, hnames, ht, (hbelow n v).trans hholds⟩

/-- A checkout is a directory. -/
lemma get?_checkout (h : Intact content src fs) {n v : Text} {e : Entry}
    (he : fs.get? (src ++ [n, v]) = some e) : e = .directory := by
  obtain ⟨hash, t, -, -, hholds⟩ := h.checkout n v (by simp [he])
  have hget : fs.get? (src ++ [n, v] ++ []) = List.lookup [] t.checkedOut := by
    rw [FileSystem.get?_append (by simp), hholds]
  rw [List.append_nil, he] at hget
  exact Option.some.inj hget

/-- A new checkout. -/
lemma lay (h : Intact content src fs) (hfs : Covered fs) {n v : Text} {hash : Hash} {t : Tree}
    (hv : Names v hash.text) (ht : content hash = some t)
    (hfree : fs.get? (src ++ [n, v]) = none) (hparent : fs.get? (src ++ [n]) ≠ none) :
    Stored (fun q _ => src ++ [n, v] <+: q) fs (fs.lay (src ++ [n, v]) t) ∧
      Intact content src (fs.lay (src ++ [n, v]) t) := by
  have hdrop : (src ++ [n, v]).dropLast = src ++ [n] := by
    rw [List.append_cons, List.dropLast_concat]
  have hstored : Stored (fun q _ => src ++ [n, v] <+: q) fs (fs.lay (src ++ [n, v]) t) :=
    .lay hfs hfree (by rwa [hdrop]) fun rest _ => List.prefix_append _ _
  refine ⟨hstored, fun m e he => ?_, fun m u hu => ?_⟩
  · rcases hstored.get? (src ++ [m]) with heq | ⟨-, _, hroot, -⟩
    · exact h.directory m e (heq ▸ he)
    · have hlength := hroot.length_le
      simp at hlength
  · by_cases heq : src ++ [m, u] = src ++ [n, v]
    · obtain ⟨rfl, rfl⟩ : m = n ∧ u = v := by simpa using heq
      exact ⟨hash, t, hv, ht, FileSystem.below_lay_self⟩
    · have hnot : ∀ q (_ : Entry), src ++ [n, v] <+: q → ¬ src ++ [m, u] <+: q := by
        intro q _ hq hq'
        refine heq (List.IsPrefix.eq_of_length (List.prefix_of_prefix_length_le hq' hq ?_) ?_) <;>
          simp
      have hbelow := hstored.below_eq _ hnot
      have hne : src ++ [m, u] ≠ [] := by simp
      have hget : fs.get? (src ++ [m, u]) ≠ none := by
        rwa [← List.append_nil (src ++ [m, u]), FileSystem.get?_append hne, ← hbelow,
          ← FileSystem.get?_append hne, List.append_nil]
      obtain ⟨hash', t', hnames, ht', hholds⟩ := h.checkout m u hget
      exact ⟨hash', t', hnames, ht', hbelow.trans hholds⟩

end Intact

end Cache

end PocketScheme
