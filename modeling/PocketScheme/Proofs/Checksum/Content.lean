import PocketScheme.Proofs.Checksum
import PocketScheme.Proofs.FileSystem.Following
import Mathlib.Data.List.Nodup
import Mathlib.Logic.Relation

/-!
What a checksum depends on: the files of a tree that count, with their paths in the tree, and
nothing else. Wherever the tree is and in whatever order its files were stored, they are hashed in
the same order. This is so for trees without links, in which everything is opened by its path.

* `FileSystem.Proper`: files as they are on a disk;
* `FileSystem.get?_putAll_of_perm`: what becomes of them;
* `Checksum.comesFirst_trans`, `Checksum.comesFirst_antisymm`, `Checksum.comesFirst_total`: the
  order of a walk;
* `Checksum.Openable`: trees in which everything is opened by its path;
* `Checksum.openable_of_fits`: these are the trees without links whose paths are not too long;
* `Checksum.mem_stored_iff`, `Checksum.pairwise_stored`: the files that are hashed, and their order;
* `Checksum.SameContent`: trees with the same files that count;
* `Checksum.Change`: what can be done to a tree without any part in these;
* `Checksum.checksum_of_content`: the checksum is not changed by any of that;
* `Checksum.checksum_broken_by_move`: not so if there is a link, or a path becomes too long.
-/

namespace PocketScheme

/-! ### Files as they are on a disk -/

namespace FileSystem

variable {fs gs : FileSystem} {p q : Place} {e : Entry}

/-- Nothing is stored twice, the root is a directory, and every name is the one that its bytes
spell. -/
structure Proper (fs : FileSystem) : Prop where
  distinct : (fs.map Prod.fst).Nodup
  rooted : ∀ b ∈ fs, b.1 = [] → b.2 = .directory
  spelled : ∀ b ∈ fs, ∀ name ∈ b.1, Text.ofBytes name.bytes = name

instance (fs : FileSystem) : Decidable fs.Proper :=
  decidable_of_iff ((fs.map Prod.fst).Nodup ∧ (∀ b ∈ fs, b.1 = [] → b.2 = .directory) ∧
      ∀ b ∈ fs, ∀ name ∈ b.1, Text.ofBytes name.bytes = name)
    ⟨fun h => ⟨h.1, h.2.1, h.2.2⟩, fun h => ⟨h.distinct, h.rooted, h.spelled⟩⟩

lemma mem_of_get? (hp : p ≠ []) (h : fs.get? p = some e) : (p, e) ∈ fs := by
  rw [get?_of_ne_nil hp] at h
  obtain ⟨before, after, rfl, -⟩ := List.lookup_eq_some_iff.mp h
  simp

lemma lookup_of_mem {α β : Type} [BEq α] [LawfulBEq α] {entries : List (α × β)} {a : α} {b : β}
    (hdistinct : (entries.map Prod.fst).Nodup) (h : (a, b) ∈ entries) :
    List.lookup a entries = some b := by
  obtain ⟨before, after, rfl⟩ := List.append_of_mem h
  refine List.lookup_eq_some_iff.mpr ⟨before, after, rfl, fun c hc => ?_⟩
  rw [List.map_append, List.map_cons] at hdistinct
  rw [bne_iff_ne]
  rintro rfl
  exact (List.nodup_append.mp hdistinct).2.2 c.1 (List.mem_map_of_mem hc) c.1 List.mem_cons_self rfl

lemma Proper.get?_of_mem (h : fs.Proper) (hmem : (p, e) ∈ fs) : fs.get? p = some e := by
  by_cases hp : p = []
  · have hroot : e = .directory := h.rooted _ hmem hp
    rw [hp, hroot]
    rfl
  · rw [get?_of_ne_nil hp, lookup_of_mem h.distinct hmem]

/-- Files are stored where they are. -/
lemma Proper.mem_file_iff (h : fs.Proper) {content : Text.Bytes} :
    (p, Entry.file content) ∈ fs ↔ fs.get? p = some (.file content) := by
  refine ⟨h.get?_of_mem, fun hget => mem_of_get? ?_ hget⟩
  rintro rfl
  cases hget

lemma nodup_below (h : fs.Proper) : (fs.below p).Nodup := by
  refine h.distinct.of_map.filterMap fun b c f hb hc => ?_
  have hplace : ∀ {b : Place × Entry}, f ∈ (p.isPrefixOf? b.1).map (fun rest => (rest, b.2)) →
      b = (p ++ f.1, f.2) := by
    rintro ⟨r, e⟩ hb
    obtain ⟨rest, hrest, rfl⟩ := Option.map_eq_some_iff.mp hb
    rw [List.isPrefixOf?_eq_some_iff_append_eq.mp hrest]
  rw [hplace hb, hplace hc]

/-- Stores entries one after the other. -/
def putAll (fs : FileSystem) (bs : List (Place × Entry)) : FileSystem :=
  bs.foldl (fun fs b => fs.put b.1 b.2) fs

lemma lookup_putAll_of_not_mem {bs : List (Place × Entry)} (h : p ∉ bs.map Prod.fst) :
    List.lookup p (fs.putAll bs) = List.lookup p fs := by
  induction bs generalizing fs with
  | nil => rfl
  | cons b bs ih =>
      rw [List.map_cons, List.mem_cons, not_or] at h
      rw [putAll, List.foldl_cons, ← putAll, ih h.2, lookup_put, if_neg h.1]

lemma lookup_putAll_of_mem {bs : List (Place × Entry)} (hdistinct : (bs.map Prod.fst).Nodup)
    (h : (p, e) ∈ bs) : List.lookup p (fs.putAll bs) = some e := by
  induction bs generalizing fs with
  | nil => cases h
  | cons b bs ih =>
      obtain ⟨hb, hdistinct⟩ := List.nodup_cons.mp hdistinct
      rw [putAll, List.foldl_cons, ← putAll]
      rcases List.mem_cons.mp h with rfl | h
      · rw [lookup_putAll_of_not_mem hb, lookup_put, if_pos rfl]
      · exact ih hdistinct h

/-- It does not matter in what order different places are stored. -/
lemma get?_putAll_of_perm {bs cs : List (Place × Entry)} (hdistinct : (bs.map Prod.fst).Nodup)
    (h : bs.Perm cs) : (fs.putAll bs).get? p = (fs.putAll cs).get? p := by
  have hlookup : List.lookup p (fs.putAll bs) = List.lookup p (fs.putAll cs) := by
    have hplaces := h.map Prod.fst
    by_cases hp : p ∈ bs.map Prod.fst
    · obtain ⟨⟨_, e⟩, hb, rfl⟩ := List.mem_map.mp hp
      rw [lookup_putAll_of_mem hdistinct hb,
        lookup_putAll_of_mem (hplaces.nodup hdistinct) (h.mem_iff.mp hb)]
    · have hp' : p ∉ cs.map Prod.fst := fun hmem => hp (hplaces.mem_iff.mpr hmem)
      rw [lookup_putAll_of_not_mem hp, lookup_putAll_of_not_mem hp']
  rw [get?, get?, hlookup]

end FileSystem

namespace Checksum

/-! ### The order of a walk -/

lemma comesFirst_cons {a b : Text} {as bs : Place} : comesFirst (a :: as) (b :: bs) = true ↔
    a = b ∧ comesFirst as bs = true ∨ a ≠ b ∧ a.bytes < b.bytes := by
  rw [comesFirst]
  by_cases hab : a = b <;> simp [hab]

lemma comesFirst_trans {p q r : Place} (hpq : comesFirst p q = true)
    (hqr : comesFirst q r = true) : comesFirst p r = true := by
  induction p generalizing q r with
  | nil => rfl
  | cons a as ih =>
      cases q with
      | nil => cases hpq
      | cons b bs =>
          cases r with
          | nil => cases hqr
          | cons c cs =>
              rw [comesFirst_cons] at hpq hqr ⊢
              rcases hpq with ⟨rfl, hpq⟩ | ⟨hab, hlt⟩ <;> rcases hqr with ⟨rfl, hqr⟩ | ⟨hbc, hlt'⟩
              · exact .inl ⟨rfl, ih hpq hqr⟩
              · exact .inr ⟨hbc, hlt'⟩
              · exact .inr ⟨hab, hlt⟩
              · have hlt := List.lt_trans hlt hlt'
                refine .inr ⟨?_, hlt⟩
                rintro rfl
                exact List.lt_irrefl _ hlt

lemma comesFirst_antisymm {p q : Place} (hpq : comesFirst p q = true)
    (hqp : comesFirst q p = true) : p = q := by
  induction p generalizing q with
  | nil =>
      cases q with
      | nil => rfl
      | cons => cases hqp
  | cons a as ih =>
      cases q with
      | nil => cases hpq
      | cons b bs =>
          rw [comesFirst_cons] at hpq hqp
          rcases hpq with ⟨rfl, hpq⟩ | ⟨hab, hlt⟩ <;> rcases hqp with ⟨hba, hqp⟩ | ⟨hba, hlt'⟩
          · rw [ih hpq hqp]
          · exact absurd rfl hba
          · exact absurd hba.symm hab
          · exact absurd (List.lt_trans hlt hlt') (List.lt_irrefl _)

/-- Names that their bytes spell can be compared. -/
lemma comesFirst_total {p q : Place} (hp : ∀ a ∈ p, Text.ofBytes a.bytes = a)
    (hq : ∀ b ∈ q, Text.ofBytes b.bytes = b) : comesFirst p q = true ∨ comesFirst q p = true := by
  induction p generalizing q with
  | nil => exact .inl rfl
  | cons a as ih =>
      cases q with
      | nil => exact .inr rfl
      | cons b bs =>
          obtain ⟨ha, has⟩ := List.forall_mem_cons.mp hp
          obtain ⟨hb, hbs⟩ := List.forall_mem_cons.mp hq
          rw [comesFirst_cons, comesFirst_cons]
          by_cases hab : a = b
          · rcases ih has hbs with h | h
            · exact .inl (.inl ⟨hab, h⟩)
            · exact .inr (.inl ⟨hab.symm, h⟩)
          · by_cases hlt : a.bytes < b.bytes
            · exact .inl (.inr ⟨hab, hlt⟩)
            · refine .inr (.inr ⟨Ne.symm hab, ?_⟩)
              by_contra hge
              have hbytes : a.bytes = b.bytes :=
                List.le_antisymm (List.not_lt.mp hge) (List.not_lt.mp hlt)
              exact hab (by rw [← ha, hbytes, hb])

lemma perm_insert (b : Place × Entry) (bs : List (Place × Entry)) :
    (insert b bs).Perm (b :: bs) := by
  induction bs with
  | nil => exact .refl _
  | cons c cs ih =>
      rw [insert]
      split
      · exact .refl _
      · exact (ih.cons c).trans (.swap b c cs)

lemma perm_foldr_insert (bs : List (Place × Entry)) : (bs.foldr insert []).Perm bs := by
  induction bs with
  | nil => exact .refl _
  | cons b bs ih => exact (perm_insert b _).trans (ih.cons b)

/-- What is added to what is in order is in order, if it can be compared. -/
lemma pairwise_insert {b : Place × Entry} {bs : List (Place × Entry)}
    (hbs : bs.Pairwise fun c d => comesFirst c.1 d.1 = true)
    (htotal : ∀ c ∈ bs, comesFirst b.1 c.1 = true ∨ comesFirst c.1 b.1 = true) :
    (insert b bs).Pairwise fun c d => comesFirst c.1 d.1 = true := by
  induction bs with
  | nil => exact List.pairwise_singleton _ _
  | cons c cs ih =>
      obtain ⟨hc, hcs⟩ := List.pairwise_cons.mp hbs
      obtain ⟨hbc, htotal⟩ := List.forall_mem_cons.mp htotal
      rw [insert]
      split
      · rename_i hfirst
        refine List.pairwise_cons.mpr ⟨fun d hd => ?_, hbs⟩
        rcases List.mem_cons.mp hd with rfl | hd
        · exact hfirst
        · exact comesFirst_trans hfirst (hc d hd)
      · rename_i hlater
        refine List.pairwise_cons.mpr ⟨fun d hd => ?_, ih hcs htotal⟩
        rcases List.mem_cons.mp ((perm_insert b cs).mem_iff.mp hd) with rfl | hd
        · exact hbc.resolve_left hlater
        · exact hc d hd

lemma pairwise_foldr_insert {bs : List (Place × Entry)}
    (htotal : ∀ b ∈ bs, ∀ c ∈ bs, comesFirst b.1 c.1 = true ∨ comesFirst c.1 b.1 = true) :
    (bs.foldr insert []).Pairwise fun c d => comesFirst c.1 d.1 = true := by
  induction bs with
  | nil => exact .nil
  | cons b bs ih =>
      refine pairwise_insert (ih fun c hc d hd => ?_) fun c hc => ?_
      · exact htotal c (List.mem_cons_of_mem b hc) d (List.mem_cons_of_mem b hd)
      · have hmem := (perm_foldr_insert bs).mem_iff.mp hc
        exact htotal b List.mem_cons_self c (List.mem_cons_of_mem b hmem)

/-! ### Trees that can be opened -/

variable {fs gs : FileSystem} {cwd path : Text} {p q : Place}

lemma mem_visits {b : Place × Entry} :
    b ∈ visits fs p ↔ b ∈ fs.below p ∧ counts b.1 = true := by
  rw [visits, (perm_foldr_insert _).mem_iff, List.mem_filter]

/-- A directory that a walk does not enter. -/
def isPassed (b : Place × Entry) : Bool :=
  b.2.isDirectory && b.1.getLast? == some skipped

/-- The entry is a file or a directory that may be opened. -/
def isPlain : Entry → Bool
  | .file _ | .directory => true
  | .link _ | .barred _ => false

/-- What a walk meets is a file or a directory, and the walk's path leads to it. -/
structure Opens (fs : FileSystem) (cwd path : Text) (p : Place) (b : Place × Entry) : Prop where
  plain : isPlain b.2 = true
  lookup : isPassed b = false → fs.lookup cwd (pathTo path b.1) = .ok (p ++ b.1, b.2)

instance (fs : FileSystem) (cwd path : Text) (p : Place) (b : Place × Entry) :
    Decidable (Opens fs cwd path p b) :=
  decidable_of_iff (isPlain b.2 = true ∧
      (isPassed b = false → (fs.lookup cwd (pathTo path b.1)).toOption = some (p ++ b.1, b.2)))
    ⟨fun h => ⟨h.1, fun hpassed => eq_ok_of_toOption_eq_some (h.2 hpassed)⟩,
      fun h => ⟨h.plain, fun hpassed => by rw [h.lookup hpassed]; rfl⟩⟩

/-- The path leads to a directory in which a walk opens everything that it meets by its path. -/
structure Openable (fs : FileSystem) (cwd path : Text) (p : Place) : Prop where
  leads : fs.followTo cwd path = .entry p .directory
  opens : ∀ b ∈ visits fs p, Opens fs cwd path p b

lemma Opens.visit_eq {b : Place × Entry} (h : Opens fs cwd path p b) :
    visit fs cwd path b = .ok (ofFile? b) := by
  obtain ⟨rel, e⟩ := b
  cases e with
  | link => cases h.plain
  | barred => cases h.plain
  | directory =>
      have hdirectory : Entry.isDirectory .directory = true := rfl
      rw [visit, if_pos hdirectory]
      by_cases hname : (rel.getLast? == some skipped) = true
      · rw [if_pos hname]
        rfl
      · have hopen : fs.openAt cwd (pathTo path rel) = .ok .directory :=
          FileSystem.openAt_eq_ok_iff.mpr
            ⟨⟨_, h.lookup (by rw [isPassed, hdirectory]; simpa using hname)⟩, by simp⟩
        rw [if_neg hname, hopen]
        rfl
  | file content =>
      have hfile : ¬ Entry.isDirectory (.file content) = true := by simp [Entry.isDirectory]
      have hread : fs.read cwd (pathTo path rel) = .ok content :=
        FileSystem.read_eq_ok_iff.mpr ⟨_, h.lookup (by simp [isPassed, Entry.isDirectory])⟩
      rw [visit, if_neg hfile, hread]
      rfl

/-- The files that a walk meets, as they are stored. -/
def stored (fs : FileSystem) (p : Place) : List (Place × Text.Bytes) :=
  (visits fs p).filterMap ofFile?

/-- They are what is read. -/
lemma Openable.files_eq (h : Openable fs cwd path p) : files fs cwd path p = .ok (stored fs p) :=
  files_eq_ok fun b hb => (h.opens b hb).visit_eq

lemma Openable.ofPath_eq (h : Openable fs cwd path p) (hpath : lastName path ≠ skipped) :
    ofPath fs cwd path = .ok (Sha256.hex (stream (stored fs p)) : Text) := by
  rw [ofPath_directory h.leads hpath, h.files_eq]
  rfl

lemma isEmpty_intercalate_cons (hpath : path.isEmpty = false) (rel : Place) :
    (Text.intercalate "/" (path :: rel)).isEmpty = false :=
  Path.isEmpty_intercalate hpath rel

lemma pathTo_of_ne_nil (hpath : path.isEmpty = false) {rel : Place} (hne : rel ≠ [])
    (hrel : ∀ c ∈ rel, Path.IsName c) :
    pathTo path rel = Path.clean (Text.intercalate "/" (path :: rel)) := by
  have hkept : (path :: rel).filter (fun c => !c.isEmpty) = path :: rel := by
    rw [List.filter_eq_self, List.forall_mem_cons]
    refine ⟨by simp [hpath], fun c hc => ?_⟩
    rw [(hrel c hc).nonempty]
    rfl
  rw [pathTo, if_neg (by simpa using hne), Path.join, hkept]

/-- Names lead down from a directory as long as there are directories. -/
lemma lookup_clean_intercalate (hpath : path.isEmpty = false)
    (hroot : fs.lookup cwd (Path.clean path) = .ok (p, .directory)) {rel : Place} {e : Entry}
    (hrel : ∀ c ∈ rel, Path.IsName c ∧ c.bytes.length ≤ FileSystem.nameLimit)
    (hdirs : ∀ front c rest, rel = front ++ c :: rest →
      fs.get? (p ++ front) = some .directory)
    (hget : fs.get? (p ++ rel) = some e) (he : ∀ t, e ≠ .link t)
    (hfits : FileSystem.Fits (Path.clean (Text.intercalate "/" (path :: rel)))) :
    fs.lookup cwd (Path.clean (Text.intercalate "/" (path :: rel))) = .ok (p ++ rel, e) := by
  induction rel using List.reverseRecOn generalizing e with
  | nil =>
      obtain ⟨-, hdirectory⟩ := FileSystem.lookup_eq_ok_iff.mp hroot
      rw [List.append_nil] at hget ⊢
      rw [hdirectory] at hget
      obtain rfl := Option.some.inj hget
      have hsingle : Text.intercalate "/" [path] = path := by simp [Text.intercalate]
      rwa [hsingle]
  | append_singleton rel c ih =>
      obtain ⟨hc, hlength⟩ := hrel c (by simp)
      have hnonempty := isEmpty_intercalate_cons hpath rel
      have hconcat : Text.intercalate "/" (path :: (rel ++ [c])) =
          Text.intercalate "/" (path :: rel) ++ "/" ++ c := by
        rw [← List.cons_append, Path.intercalate_concat (List.cons_ne_nil _ _)]
      have hin := FileSystem.inDir_clean hnonempty hc
      rw [hconcat] at hfits ⊢
      have hdir := ih (fun d hd => hrel d (by simp [hd]))
        (fun front d rest hsplit => hdirs front d (rest ++ [c]) (by simp [hsplit]))
        (hdirs rel c [] rfl) (by simp) (hin.fits hfits)
      rw [← List.append_assoc] at hget ⊢
      exact hin.lookup hdir hfits hlength hget he

/-- What a walk meets is as it should be on a disk: it is stored once, in a directory, under a
name that the system takes, and it is a file or a directory. -/
structure Plain (fs : FileSystem) (p : Place) (b : Place × Entry) : Prop where
  get? : fs.get? (p ++ b.1) = some b.2
  inside : ∀ front c rest, b.1 = front ++ c :: rest → fs.get? (p ++ front) = some .directory
  named : ∀ c ∈ b.1, Path.IsName c ∧ c.bytes.length ≤ FileSystem.nameLimit
  entry : isPlain b.2 = true

lemma Plain.not_link {b : Place × Entry} (h : Plain fs p b) (t : Text) : b.2 ≠ .link t := by
  intro heq
  have hentry := h.entry
  rw [heq] at hentry
  cases hentry

/-- What is plain is opened if its path is not too long. -/
lemma Plain.opens {b : Place × Entry} (h : Plain fs p b)
    (hleads : fs.followTo cwd path = .entry p .directory)
    (hclean : fs.lookup cwd (Path.clean path) = .ok (p, .directory))
    (hfits : isPassed b = false → FileSystem.Fits (pathTo path b.1)) :
    Opens fs cwd path p b := by
  refine ⟨h.entry, fun hpassed => ?_⟩
  obtain ⟨hto, hdirectory⟩ := FileSystem.trace_eq_entry_iff.mp hleads
  have hnonempty := (FileSystem.leads_iff.mp hto).1.nonempty
  by_cases hnil : b.1 = []
  · have hget := h.get?
    rw [hnil, List.append_nil] at hget
    rw [hnil, List.append_nil]
    exact FileSystem.lookup_eq_ok_iff.mpr ⟨hto.through (by simp [hdirectory]), hget⟩
  · have hpath := pathTo_of_ne_nil hnonempty hnil fun c hc => (h.named c hc).1
    have hfits := hfits hpassed
    rw [hpath] at hfits ⊢
    exact lookup_clean_intercalate hnonempty hclean h.named h.inside h.get? h.not_link hfits

/-- Trees without links can be opened, if their paths are not too long. -/
lemma openable_of_fits (hplain : ∀ b ∈ visits fs p, Plain fs p b)
    (hleads : fs.followTo cwd path = .entry p .directory)
    (hclean : fs.lookup cwd (Path.clean path) = .ok (p, .directory))
    (hfits : ∀ b ∈ visits fs p, isPassed b = false → FileSystem.Fits (pathTo path b.1)) :
    Openable fs cwd path p :=
  ⟨hleads, fun b hb => (hplain b hb).opens hleads hclean (hfits b hb)⟩

/-- What a walk opens has a path that is not too long. -/
lemma fits_of_visit {b : Place × Entry} {r : Option (Place × Text.Bytes)}
    (hpassed : isPassed b = false) (h : visit fs cwd path b = .ok r) :
    FileSystem.Fits (pathTo path b.1) := by
  rw [visit] at h
  split at h
  · rename_i hdirectory
    rw [isPassed, hdirectory, Bool.true_and] at hpassed
    rw [if_neg (by simp [hpassed])] at h
    split at h
    · rename_i hopen
      obtain ⟨⟨q, hlookup⟩, -⟩ := FileSystem.openAt_eq_ok_iff.mp hopen
      exact FileSystem.fits_of_lookup hlookup
    · cases h
  · split at h
    · rename_i hread
      obtain ⟨q, hlookup⟩ := FileSystem.read_eq_ok_iff.mp hread
      exact FileSystem.fits_of_lookup hlookup
    · cases h

/-! ### The files that are hashed -/

lemma mem_stored {f : Place × Text.Bytes} :
    f ∈ stored fs p ↔ (p ++ f.1, Entry.file f.2) ∈ fs ∧ counts f.1 = true := by
  rw [stored, List.mem_filterMap]
  constructor
  · rintro ⟨⟨rel, e⟩, hb, hf⟩
    obtain ⟨hmem, hcounts⟩ := mem_visits.mp hb
    cases e with
    | file content =>
        obtain rfl := Option.some.inj hf
        exact ⟨FileSystem.mem_below.mp hmem, hcounts⟩
    | directory | link | barred => cases hf
  · rintro ⟨hb, hcounts⟩
    exact ⟨(f.1, .file f.2), mem_visits.mpr ⟨FileSystem.mem_below.mpr hb, hcounts⟩, rfl⟩

/-- The files that are hashed are those that are not below a skipped directory. -/
lemma mem_stored_iff (h : fs.Proper) {rel : Place} {content : Text.Bytes} :
    (rel, content) ∈ stored fs p ↔
      fs.get? (p ++ rel) = some (.file content) ∧ skipped ∉ rel.dropLast := by
  rw [mem_stored, h.mem_file_iff, counts]
  simp

lemma nodup_stored (h : fs.Proper) : (stored fs p).Nodup := by
  have hvisits : (visits fs p).Nodup := by
    rw [visits, (perm_foldr_insert _).nodup_iff]
    exact (FileSystem.nodup_below h).filter _
  refine hvisits.filterMap ?_
  rintro ⟨rel, e⟩ ⟨rel', e'⟩ f hb hc
  cases e with
  | file content =>
      cases e' with
      | file content' =>
          obtain ⟨rfl, rfl⟩ := Prod.mk.inj (Option.some.inj (hb.trans hc.symm))
          rfl
      | directory | link | barred => cases hc
  | directory | link | barred => cases hb

/-- They are hashed in the order of a walk. -/
lemma pairwise_stored (h : fs.Proper) :
    (stored fs p).Pairwise fun f g => comesFirst f.1 g.1 = true := by
  have hspelled : ∀ b ∈ (fs.below p).filter fun b => counts b.1, ∀ a ∈ b.1,
      Text.ofBytes a.bytes = a := fun b hb a ha =>
    h.spelled _ (FileSystem.mem_below.mp (List.mem_filter.mp hb).1) a (List.mem_append_right _ ha)
  have hvisits : (visits fs p).Pairwise fun b c => comesFirst b.1 c.1 = true :=
    pairwise_foldr_insert fun b hb c hc => comesFirst_total (hspelled b hb) (hspelled c hc)
  have hplace : ∀ {b : Place × Entry} {f}, f ∈ ofFile? b → f.1 = b.1 := by
    rintro ⟨rel, e⟩ f hf
    cases e with
    | file content =>
        obtain rfl := Option.some.inj hf
        rfl
    | directory | link | barred => cases hf
  refine List.Pairwise.filterMap _ (fun b c hbc f hf g hg => ?_) hvisits
  rw [hplace hf, hplace hg]
  exact hbc

/-- The two trees have the same files that count. -/
def SameContent (fs : FileSystem) (p : Place) (gs : FileSystem) (q : Place) : Prop :=
  ∀ rel content, rel ≠ [] → skipped ∉ rel.dropLast →
    (fs.get? (p ++ rel) = some (.file content) ↔ gs.get? (q ++ rel) = some (.file content))

/-- Trees with the same files that count have the same files hashed. -/
lemma SameContent.stored_eq (hfs : fs.Proper) (hgs : gs.Proper) (hp : fs.get? p = some .directory)
    (hq : gs.get? q = some .directory) (h : SameContent fs p gs q) : stored fs p = stored gs q := by
  have hmem : ∀ f, f ∈ stored fs p ↔ f ∈ stored gs q := by
    rintro ⟨rel, content⟩
    rw [mem_stored_iff hfs, mem_stored_iff hgs]
    by_cases hrel : rel = []
    · simp [hrel, hp, hq]
    · exact and_congr_left fun hskipped => h rel content hrel hskipped
  have hperm := (List.perm_ext_iff_of_nodup (nodup_stored hfs) (nodup_stored hgs)).mpr hmem
  refine hperm.eq_of_pairwise (fun f g hf hg hfg hgf => ?_) (pairwise_stored hfs)
    (pairwise_stored hgs)
  -- files at the same path have the same content
  have hrel := comesFirst_antisymm hfg hgf
  have hfile := (mem_stored_iff hfs).mp hf
  rw [hrel, ((mem_stored_iff hfs).mp ((hmem g).mpr hg)).1] at hfile
  exact Prod.ext hrel (Entry.file.inj (Option.some.inj hfile.1)).symm

/-! ### What has no part in it -/

namespace SameContent

variable {hs : FileSystem} {r : Place}

lemma refl (fs : FileSystem) (p : Place) : SameContent fs p fs p := fun _ _ _ _ => Iff.rfl

lemma trans (h : SameContent fs p gs q) (h' : SameContent gs q hs r) : SameContent fs p hs r :=
  fun rel content hrel hskipped =>
    (h rel content hrel hskipped).trans (h' rel content hrel hskipped)

/-- What is stored at one place matters only if it is, or becomes, a file that counts. -/
lemma of_get?_eq (h : ∀ rel, rel ≠ [] → skipped ∉ rel.dropLast →
    gs.get? (q ++ rel) = fs.get? (p ++ rel)) : SameContent fs p gs q := by
  intro rel content hrel hskipped
  rw [h rel hrel hskipped]

end SameContent

/-- What can be done to the tree at a place. -/
inductive Change : FileSystem × Place → FileSystem × Place → Prop where
  /-- The tree is moved or copied to another place, maybe elsewhere altogether. -/
  | relocate {fs gs : FileSystem} {p q : Place}
      (h : ∀ rel, rel ≠ [] → gs.get? (q ++ rel) = fs.get? (p ++ rel)) : Change (fs, p) (gs, q)
  /-- Files and directories are made in another order. -/
  | reorder {fs : FileSystem} {p : Place} {bs cs : List (Place × Entry)}
      (hdistinct : (bs.map Prod.fst).Nodup) (h : bs.Perm cs) :
      Change (fs.putAll bs, p) (fs.putAll cs, p)
  /-- An empty directory is added. -/
  | addDirectory {fs : FileSystem} {p rel : Place} (h : fs.get? (p ++ rel) = none) :
      Change (fs, p) (fs.put (p ++ rel) .directory, p)
  /-- An empty directory is removed. -/
  | removeDirectory {fs : FileSystem} {p rel : Place} (h : fs.get? (p ++ rel) = some .directory)
      (hempty : ∀ rest, rest ≠ [] → fs.get? (p ++ rel ++ rest) = none) :
      Change (fs, p) (fs.remove (p ++ rel), p)
  /-- Anything is added, changed or removed below skipped directories, at any depth. -/
  | hide {fs gs : FileSystem} {p : Place}
      (h : ∀ q, (∀ front rest, q = p ++ front ++ skipped :: rest → rest = []) →
        gs.get? q = fs.get? q) : Change (fs, p) (gs, p)

/-- A change has no part in the files that count. -/
lemma Change.sameContent {a b : FileSystem × Place} (h : Change a b) :
    SameContent a.1 a.2 b.1 b.2 := by
  cases h with
  | relocate h => exact .of_get?_eq fun rel hrel _ => h rel hrel
  | reorder hdistinct h =>
      exact .of_get?_eq fun rel _ _ => (FileSystem.get?_putAll_of_perm hdistinct h).symm
  | @addDirectory fs p place h =>
      intro rel content _ _
      by_cases hplace : p ++ rel = p ++ place
      · have hne : p ++ place ≠ [] := by
          intro hnil
          rw [hnil] at h
          cases h
        simp [hplace, h, FileSystem.get?_put_self hne]
      · rw [FileSystem.get?_put_of_ne hplace]
  | @removeDirectory fs p place h hempty =>
      intro rel content hrel _
      have hne : p ++ rel ≠ [] := List.append_ne_nil_of_right_ne_nil p hrel
      dsimp only
      rw [FileSystem.get?_remove hne]
      split
      · -- a place in the directory, where there is no file
        rename_i hbelow
        obtain ⟨rest, hrest⟩ := hbelow
        rw [← hrest]
        by_cases hnil : rest = []
        · rw [hnil, List.append_nil, h]
          simp
        · rw [hempty rest hnil]
      · exact Iff.rfl
  | @hide fs gs p h =>
      refine .of_get?_eq fun rel hrel hskipped => h _ fun front rest hplace => ?_
      rw [List.append_assoc, List.append_cancel_left_eq] at hplace
      by_contra hrest
      -- the skipped name is followed by others
      rw [hplace, List.dropLast_append_of_ne_nil (List.cons_ne_nil _ _),
        List.dropLast_cons_of_ne_nil hrest] at hskipped
      simp at hskipped

/-- Neither have any number of changes. -/
lemma sameContent_of_changes {a b : FileSystem × Place} (h : Relation.ReflTransGen Change a b) :
    SameContent a.1 a.2 b.1 b.2 := by
  induction h with
  | refl => exact .refl _ _
  | tail _ hstep ih => exact ih.trans hstep.sameContent

/-- A file that is hashed is somewhere in the hashed bytes. -/
lemma exists_stream_of_mem {found : List (Place × Text.Bytes)} {rel : Place} {content : Text.Bytes}
    (h : (rel, content) ∈ found) :
    ∃ before after,
      stream found = before ++ (Text.intercalate "/" rel).bytes ++ content ++ after := by
  obtain ⟨front, rest, rfl⟩ := List.append_of_mem h
  refine ⟨stream front, stream rest, ?_⟩
  simp [stream]

/-- **A checksum depends on content alone**. Take any directory that is not itself named `.git`, and
another one, without links in them, in which everything is opened by its path. If the second is
what becomes of the first when it is moved or copied, when its files are made in another order, when
empty directories are added or removed, and when anything is done below directories named `.git`,
any number of times, the two have the same checksum. More generally they have if they have the same
files outside directories named `.git`. These are the files whose paths and contents are hashed, in
the order of a walk, and a file that is itself named `.git` is one of them. -/
theorem checksum_of_content (fs gs : FileSystem) (cwd cwd' path path' : Text) (p q : Place)
    (hfs : fs.Proper) (hgs : gs.Proper) (hp : Openable fs cwd path p)
    (hq : Openable gs cwd' path' q) (hpath : lastName path ≠ skipped)
    (hpath' : lastName path' ≠ skipped) :
    (Relation.ReflTransGen Change (fs, p) (gs, q) → ofPath gs cwd' path' = ofPath fs cwd path) ∧
    (SameContent fs p gs q → ofPath gs cwd' path' = ofPath fs cwd path) ∧
    ∃ found, files fs cwd path p = .ok found ∧
      ofPath fs cwd path = .ok (Sha256.hex (stream found) : Text) ∧
      found.Pairwise (fun f g => comesFirst f.1 g.1 = true) ∧
      (∀ rel content, (rel, content) ∈ found ↔
        fs.get? (p ++ rel) = some (.file content) ∧ skipped ∉ rel.dropLast) ∧
      ∀ front content, skipped ∉ front →
        fs.get? (p ++ (front ++ [skipped])) = some (.file content) →
        ∃ before after, stream found =
          before ++ (Text.intercalate "/" (front ++ [skipped])).bytes ++ content ++ after := by
  have hsame : SameContent fs p gs q → ofPath gs cwd' path' = ofPath fs cwd path := by
    intro h
    have hfsdir := (FileSystem.trace_eq_entry_iff.mp hp.leads).2
    have hgsdir := (FileSystem.trace_eq_entry_iff.mp hq.leads).2
    rw [hp.ofPath_eq hpath, hq.ofPath_eq hpath', h.stored_eq hfs hgs hfsdir hgsdir]
  refine ⟨fun h => hsame (sameContent_of_changes h), hsame, stored fs p, hp.files_eq,
    hp.ofPath_eq hpath, pairwise_stored hfs, fun rel content => mem_stored_iff hfs,
    fun front content hfront hfile => ?_⟩
  have hmem : (front ++ [skipped], content) ∈ stored fs p :=
    (mem_stored_iff hfs).mpr ⟨hfile, by rwa [List.dropLast_concat]⟩
  exact exists_stream_of_mem hmem

/-- A directory `t` with two files, one of which is named `.git`, a directory `.git` and an empty
one. -/
def cloned : List (Place × Entry) :=
  [(["t"], .directory), (["t", "a"], .file (Text.bytes "1")), (["t", "b"], .directory),
    (["t", "b", ".git"], .file (Text.bytes "2")), (["t", "e"], .directory),
    (["t", ".git"], .directory), (["t", ".git", "HEAD"], .file (Text.bytes "3"))]

/-- The same two files in a directory `u/v`. -/
def copied : FileSystem :=
  [(["u"], .directory), (["u", "v"], .directory), (["u", "v", "a"], .file (Text.bytes "1")),
    (["u", "v", "b"], .directory), (["u", "v", "b", ".git"], .file (Text.bytes "2")),
    (["u", "v", ".git"], .directory)]

/-- The files are made in another order, one below `.git` and an empty directory are removed, and
the rest is copied. -/
lemma changes_cloned :
    Relation.ReflTransGen Change (FileSystem.putAll [] cloned, ["t"]) (copied, ["u", "v"]) := by
  let fs := FileSystem.putAll [] cloned.reverse
  let gs := fs.remove ["t", ".git", "HEAD"]
  let hs := gs.remove ["t", "e"]
  have hreorder : Change (FileSystem.putAll [] cloned, ["t"]) (fs, ["t"]) :=
    .reorder (by decide) cloned.reverse_perm.symm
  have hhide : Change (fs, ["t"]) (gs, ["t"]) := by
    refine .hide fun q hq => ?_
    by_cases hnil : q = []
    · rw [hnil]
      rfl
    · rw [FileSystem.get?_remove hnil, if_neg]
      rintro ⟨rest, rfl⟩
      exact absurd (hq [] ("HEAD" :: rest) rfl) (List.cons_ne_nil _ _)
  have hremove : Change (gs, ["t"]) (hs, ["t"]) := by
    refine .removeDirectory (by decide) fun rest hrest => ?_
    have hbelow : gs.below ["t", "e"] = [([], .directory)] := by decide
    rw [FileSystem.get?_append (by decide), List.singleton_append, hbelow, List.lookup_cons,
      beq_eq_false_iff_ne.mpr hrest, List.lookup_nil]
  have hrelocate : Change (hs, ["t"]) (copied, ["u", "v"]) := by
    refine .relocate fun rel _ => ?_
    have hbelow : hs.below ["t"] = copied.below ["u", "v"] := by decide
    rw [FileSystem.get?_append (by decide), FileSystem.get?_append (by decide), hbelow]
  exact .tail (.tail (.tail (.single hreorder) hhide) hremove) hrelocate

lemma openable_of_below (hleads : fs.followTo cwd path = .entry p .directory)
    (h : ∀ b ∈ fs.below p, counts b.1 = true → Opens fs cwd path p b) : Openable fs cwd path p :=
  ⟨hleads, fun b hb => h b (mem_visits.mp hb).1 (mem_visits.mp hb).2⟩

/-- The checksum stays, and the file named `.git` is hashed. -/
theorem checksum_of_content_copied :
    ofPath copied "/u" "v" = ofPath (FileSystem.putAll [] cloned) "/" "t" ∧
      ∃ found, files (FileSystem.putAll [] cloned) "/" "t" ["t"] = .ok found ∧
        ∃ before after, stream found =
          before ++ Text.bytes "b/.git" ++ Text.bytes "2" ++ after := by
  obtain ⟨hchanges, -, found, hfound, -, -, -, hnamed⟩ :=
    checksum_of_content (FileSystem.putAll [] cloned) copied "/" "/u" "t" "v" ["t"] ["u", "v"]
      (by decide) (by decide) (openable_of_below rfl (by decide))
      (openable_of_below rfl (by decide)) (by decide) (by decide)
  have hpath : Text.intercalate "/" ([("b" : Text)] ++ [skipped]) = "b/.git" := by decide
  obtain ⟨before, after, hstream⟩ := hnamed ["b"] (Text.bytes "2") (by decide) (by decide)
  rw [hpath] at hstream
  exact ⟨hchanges changes_cloned, found, hfound, before, after, hstream⟩

/-! ### What depends on the place -/

/-- The tree at one path can be read, and cannot after it was moved to another one. -/
def BrokenByMove (fs gs : FileSystem) (path path' : Text) : Prop :=
  ∃ p q, fs.followTo "/" path = .entry p .directory ∧ gs.followTo "/" path' = .entry q .directory ∧
    Change (fs, p) (gs, q) ∧ (∃ checksum, ofPath fs "/" path = .ok checksum) ∧
    ∃ fault, ofPath gs "/" path' = .error fault

/-- A walk fails if anything that it meets cannot be read. -/
lemma ofPath_eq_error {b : Place × Entry} {fault : PathFault}
    (hleads : fs.followTo cwd path = .entry p .directory) (hpath : lastName path ≠ skipped)
    (hb : b ∈ visits fs p) (h : visit fs cwd path b = .error fault) :
    ∃ fault, ofPath fs cwd path = .error fault := by
  obtain ⟨fault, hread⟩ := mapM_eq_error hb h
  rw [ofPath_directory hleads hpath, files, hread]
  exact ⟨fault, rfl⟩

/-- A directory with a link that leads out of it, to a file beside it. -/
def linked : FileSystem :=
  [(["a"], .file []), (["t"], .directory), (["t", "l"], .link "../a")]

/-- The directory in another one, where there is no such file. -/
def linkedInside : FileSystem :=
  [(["a"], .file []), (["u"], .directory), (["u", "t"], .directory),
    (["u", "t", "l"], .link "../a")]

lemma brokenByMove_linked : BrokenByMove linked linkedInside "/t" "/u/t" := by
  have hbelow : linkedInside.below ["u", "t"] = linked.below ["t"] := by decide
  have hleads : linked.followTo "/" "/t" = .entry ["t"] .directory := rfl
  refine ⟨["t"], ["u", "t"], hleads, rfl, .relocate fun rel _ => ?_, ?_, ?_⟩
  · rw [FileSystem.get?_append (by decide), FileSystem.get?_append (by decide), hbelow]
  · have hfiles : files linked "/" "/t" ["t"] = .ok [(["l"], [])] := rfl
    rw [ofPath_directory hleads (by decide), hfiles]
    exact ⟨_, rfl⟩
  · exact ofPath_eq_error rfl (by decide) (b := (["l"], .link "../a"))
      (mem_visits.mpr ⟨by decide, rfl⟩) rfl

/-- A name with 185 letters. -/
def longName : Text := Text.ofChars (List.replicate 185 'd')

/-- Directories with long names, one in the other. -/
def nested : List (Place × Entry) :=
  (List.range 23).map fun k => (List.replicate k longName, .directory)

lemma lookup_nested {k : Nat} (hk : k < 23) :
    List.lookup (List.replicate k longName) nested = some .directory := by
  have hmem : (List.replicate k longName, Entry.directory) ∈ nested :=
    List.mem_map.mpr ⟨k, List.mem_range.mpr hk, rfl⟩
  obtain ⟨e, he⟩ : ∃ e, List.lookup (List.replicate k longName) nested = some e := by
    rw [← Option.ne_none_iff_exists', ne_eq, List.lookup_eq_none_iff]
    intro hnone
    simpa using hnone _ hmem
  obtain ⟨before, after, hsplit, -⟩ := List.lookup_eq_some_iff.mp he
  have hin : (List.replicate k longName, e) ∈ nested := by simp [hsplit]
  obtain ⟨j, -, hj⟩ := List.mem_map.mp hin
  rw [he, ← (Prod.mk.inj hj).2]

lemma plain_nested (hp : p ≠ []) {b : Place × Entry} (hb : b ∈ nested) :
    Plain (fs.graft p nested) p b := by
  obtain ⟨k, hk, rfl⟩ := List.mem_map.mp hb
  have hlt := List.mem_range.mp hk
  have hget : ∀ j, j < 23 →
      (fs.graft p nested).get? (p ++ List.replicate j longName) = some .directory := by
    intro j hj
    rw [FileSystem.get?_graft_append hp, lookup_nested hj]
  refine ⟨hget k hlt, fun front c rest hsplit => ?_, fun c hc => ?_, rfl⟩
  · obtain ⟨hlength, hfront, -⟩ := List.append_eq_replicate_iff.mp hsplit.symm
    rw [hfront]
    refine hget _ ?_
    simp only [List.length_cons] at hlength
    omega
  · rw [List.eq_of_mem_replicate hc]
    exact ⟨by decide +kernel, by decide +kernel⟩

/-- The directories are moved into one more, and a path becomes too long. -/
lemma brokenByMove_nested :
    BrokenByMove (FileSystem.graft [] ["t"] nested)
      (FileSystem.graft [(["u"], .directory)] ["u", "t"] nested) "/t" "/u/t" := by
  have hbelow : ∀ (fs : FileSystem) (p : Place), (fs.graft p nested).below p = nested :=
    fun fs p => FileSystem.below_graft_self
  have hleads : FileSystem.followTo (FileSystem.graft [] ["t"] nested) "/" "/t" =
      .entry ["t"] .directory := rfl
  have hleads' : FileSystem.followTo (FileSystem.graft [(["u"], .directory)] ["u", "t"] nested) "/"
      "/u/t" = .entry ["u", "t"] .directory := rfl
  have hfits : ∀ k ∈ List.range 23,
      FileSystem.Fits (pathTo "/t" (List.replicate k longName)) := by decide +kernel
  have hunfit : ¬ FileSystem.Fits (pathTo "/u/t" (List.replicate 22 longName)) := by
    decide +kernel
  refine ⟨["t"], ["u", "t"], hleads, hleads', .relocate fun rel _ => ?_, ?_, ?_⟩
  · rw [FileSystem.get?_graft_append (by simp), FileSystem.get?_graft_append (by simp)]
  · have hopenable : Openable (FileSystem.graft [] ["t"] nested) "/" "/t" ["t"] := by
      refine openable_of_fits (fun b hb => ?_) hleads rfl fun b hb _ => ?_
      · exact plain_nested (by simp) (hbelow _ _ ▸ (mem_visits.mp hb).1)
      · obtain ⟨k, hk, rfl⟩ := List.mem_map.mp (hbelow _ _ ▸ (mem_visits.mp hb).1)
        exact hfits k hk
    exact ⟨_, hopenable.ofPath_eq (by decide)⟩
  · have hmem : (List.replicate 22 longName, Entry.directory) ∈ nested :=
      List.mem_map.mpr ⟨22, by simp, rfl⟩
    cases hvisit : visit (FileSystem.graft [(["u"], .directory)] ["u", "t"] nested) "/" "/u/t"
        (List.replicate 22 longName, .directory) with
    | ok r => exact absurd (fits_of_visit (by decide +kernel) hvisit) hunfit
    | error fault =>
        refine ofPath_eq_error hleads' (by decide) (mem_visits.mpr ⟨?_, by decide +kernel⟩) hvisit
        rw [hbelow]
        exact hmem

/-- **A checksum depends on the place of a tree**. A link in it may lead out of it, and a path may
become too long when it is moved. -/
theorem checksum_broken_by_move :
    BrokenByMove linked linkedInside "/t" "/u/t" ∧
      BrokenByMove (FileSystem.graft [] ["t"] nested)
        (FileSystem.graft [(["u"], .directory)] ["u", "t"] nested) "/t" "/u/t" :=
  ⟨brokenByMove_linked, brokenByMove_nested⟩

end Checksum

end PocketScheme
