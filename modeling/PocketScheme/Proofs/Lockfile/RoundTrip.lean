import PocketScheme.Proofs.Except
import PocketScheme.Proofs.FileSystem.Changing
import PocketScheme.Proofs.Lockfile.Pins
import PocketScheme.Remotes

/-!
Lockfiles that are written and loaded. Both ends normalize, so what is loaded is what was written,
and a second round changes nothing.

* `Lockfile.Arranges`: entries in the order in which they are kept;
* `Lockfile.normalize_normalize`: the normal form of a lockfile is in normal form;
* `Lockfile.ReadsBack`: the content of a lockfile is read as it was written;
* `Lockfile.Written`: what a lockfile is once it is written;
* `Lockfile.save_load_inverse`: loading after writing, and writing after loading.
-/

namespace PocketScheme

namespace Text

lemma comesFirst_trans (s t u : Text) (hst : comesFirst s t = true) (htu : comesFirst t u = true) :
    comesFirst s u = true := by
  rw [comesFirst, decide_eq_true_iff] at hst htu ⊢
  exact List.le_trans hst htu

lemma comesFirst_total (s t : Text) : (comesFirst s t || comesFirst t s) = true := by
  rw [comesFirst, comesFirst, Bool.or_eq_true, decide_eq_true_iff, decide_eq_true_iff]
  exact List.le_total s.bytes t.bytes

lemma comesFirst_refl (s : Text) : comesFirst s s = true := by
  simpa using comesFirst_total s s

end Text

/-! ### Normal forms -/

lemma LockedPackage.normalize_normalize (p : LockedPackage) :
    p.normalize.normalize = p.normalize := by
  simp [normalize, Segment.sanitize_sanitize, Text.trim_trim]

namespace Lockfile

/-- The same entries in the order of their names. Entries of one name stay in the order in which
they were given. -/
structure Arranges (given arranged : List LockedPackage) : Prop where
  perm : arranged.Perm given
  ordered : arranged.Pairwise fun p q => Text.comesFirst p.name q.name = true
  stable : ∀ name, arranged.filter (fun p => p.name == name) = given.filter fun p => p.name == name

lemma arranges_mergeSort (given : List LockedPackage) :
    Arranges given (given.mergeSort fun p q => Text.comesFirst p.name q.name) := by
  have htrans : ∀ p q r : LockedPackage, Text.comesFirst p.name q.name = true →
      Text.comesFirst q.name r.name = true → Text.comesFirst p.name r.name = true :=
    fun p q r => Text.comesFirst_trans p.name q.name r.name
  have htotal : ∀ p q : LockedPackage,
      (Text.comesFirst p.name q.name || Text.comesFirst q.name p.name) = true :=
    fun p q => Text.comesFirst_total p.name q.name
  have hperm := List.mergeSort_perm given fun p q => Text.comesFirst p.name q.name
  refine ⟨hperm, List.pairwise_mergeSort htrans htotal given, fun name => ?_⟩
  -- entries of one name are in order as they were given, and a sort keeps what is in order
  have hordered : (given.filter fun p => p.name == name).Pairwise
      fun p q => Text.comesFirst p.name q.name = true := by
    refine List.pairwise_of_forall_mem_list fun p hp q hq => ?_
    rw [beq_iff_eq.mp (List.mem_filter.mp hp).2, beq_iff_eq.mp (List.mem_filter.mp hq).2]
    exact Text.comesFirst_refl name
  have hsub := (List.sublist_mergeSort htrans htotal hordered List.filter_sublist).filter
    fun p => p.name == name
  rw [List.filter_filter] at hsub
  simp only [Bool.and_self] at hsub
  exact (hsub.eq_of_length (hperm.filter _).length_eq.symm).symm

lemma entries_normalize (l : Lockfile) : l.normalize.entries =
    (l.entries.map LockedPackage.normalize).mergeSort fun p q => Text.comesFirst p.name q.name := by
  rw [normalize, entries, List.filterMap_map]
  exact List.filterMap_some

lemma packages_normalize (l : Lockfile) : l.normalize.packages = l.normalize.entries.map some := by
  rw [entries_normalize]
  rfl

lemma arranges_normalize (l : Lockfile) :
    Arranges (l.entries.map LockedPackage.normalize) l.normalize.entries := by
  rw [entries_normalize]
  exact arranges_mergeSort _

lemma map_normalize_entries (l : Lockfile) :
    l.normalize.entries.map LockedPackage.normalize = l.normalize.entries := by
  have hkept : ∀ p ∈ l.normalize.entries, p.normalize = id p := by
    intro p hp
    obtain ⟨q, -, rfl⟩ := List.mem_map.mp ((arranges_normalize l).perm.mem_iff.mp hp)
    exact q.normalize_normalize
  rw [List.map_congr_left hkept, List.map_id]

/-- The normal form of a lockfile is in normal form. -/
lemma normalize_normalize (l : Lockfile) : l.normalize.normalize = l.normalize := by
  have hentries : l.normalize.normalize.entries = l.normalize.entries := by
    rw [entries_normalize l.normalize, map_normalize_entries]
    exact List.mergeSort_of_pairwise (arranges_normalize l).ordered
  have hpackages : l.normalize.normalize.packages = l.normalize.packages := by
    rw [packages_normalize, packages_normalize, hentries]
  have hroot : l.normalize.normalize.root = l.normalize.root := Segment.sanitize_sanitize l.root
  calc l.normalize.normalize
      = { l with root := l.normalize.normalize.root,
                 packages := l.normalize.normalize.packages } := rfl
    _ = l.normalize := by rw [hroot, hpackages]; rfl

/-! ### Files -/

section

variable {w w' : World} {l l' m : Lockfile} {path p : Text} {content : Text.Bytes}

/-- Where a lockfile is written to: its own path if none is given. -/
def destination (l : Lockfile) (path : Text) : Text :=
  if path.isEmpty then l.path else path

/-- The lockfile with the time of its making, if it has none. -/
def stamped (l : Lockfile) (now : Text) : Lockfile :=
  { l with generated := if l.generated.isEmpty then now else l.generated }

/-- A lockfile is saved by writing it to the path from the root. -/
lemma save_of_write {r : Except PathFault Unit} {files : FileSystem}
    (hgiven : (l.destination path).isEmpty = false)
    (habs : w.absolute? (l.destination path) = some p)
    (hwrite : w.files.write w.space w.cwd p (w.codec.writeLockfile (l.prepare p w.now)) =
      (r, files)) :
    save w (some l) path =
      ((r.mapError (.unwritten p)).map fun _ => l.prepare p w.now, w.withFiles files) := by
  rw [save, ← destination]
  dsimp only
  rw [if_neg (by rw [hgiven]; simp), habs]
  dsimp only
  rw [World.write, hwrite]
  cases r <;> rfl

/-- Saving a lockfile comes to nothing, or to writing it. -/
lemma save_cases (w : World) (l : Lockfile) (path : Text) :
    (∃ fault, save w (some l) path = (.error fault, w)) ∨
    ∃ p r files, (l.destination path).isEmpty = false ∧
      w.absolute? (l.destination path) = some p ∧
      w.files.write w.space w.cwd p (w.codec.writeLockfile (l.prepare p w.now)) = (r, files) ∧
      save w (some l) path =
        ((r.mapError (.unwritten p)).map fun _ => l.prepare p w.now, w.withFiles files) := by
  cases hgiven : (l.destination path).isEmpty with
  | true =>
      refine .inl ⟨.noPath, ?_⟩
      rw [save, ← destination]
      exact if_pos hgiven
  | false =>
      cases habs : w.absolute? (l.destination path) with
      | none =>
          refine .inl ⟨.unresolved (l.destination path), ?_⟩
          rw [save, ← destination]
          dsimp only
          rw [if_neg (by rw [hgiven]; simp), habs]
      | some p => exact .inr ⟨p, _, _, rfl, rfl, rfl, save_of_write hgiven habs rfl⟩

lemma save_eq_ok_iff : save w (some l) path = (.ok l', w') ↔
    (l.destination path).isEmpty = false ∧ ∃ p files, w.absolute? (l.destination path) = some p ∧
      l' = l.prepare p w.now ∧
      w.files.write w.space w.cwd p (w.codec.writeLockfile l') = (.ok (), files) ∧
      w' = w.withFiles files := by
  constructor
  · intro h
    rcases save_cases w l path with ⟨fault, hfault⟩ | ⟨p, r, files, hgiven, habs, hwrite, hsave⟩
    · cases h.symm.trans hfault
    · obtain ⟨hresult, hworld⟩ := Prod.mk.inj (h.symm.trans hsave)
      cases r with
      | error fault => cases hresult
      | ok =>
          obtain rfl : l' = l.prepare p w.now := Except.ok.inj hresult
          exact ⟨hgiven, p, files, habs, rfl, hwrite, hworld⟩
  · rintro ⟨hgiven, p, files, habs, rfl, hwrite, rfl⟩
    exact save_of_write hgiven habs hwrite

lemma load_eq_ok_iff : load w path = .ok m ↔ path.isEmpty = false ∧ ∃ p q content,
    w.absolute? path = some p ∧ w.files.lookup w.cwd p = .ok (q, .file content) ∧
      parse w.codec p content = .ok m := by
  rw [load]
  cases hempty : path.isEmpty with
  | true => simp
  | false =>
      rw [if_neg (by simp), and_iff_right rfl]
      cases habs : w.absolute? path with
      | none => simp
      | some p =>
          dsimp only
          constructor
          · intro h
            split at h
            · cases h
            · rename_i content hfile
              obtain ⟨q, hq⟩ := FileSystem.openAt_eq_file_iff.mp hfile
              exact ⟨p, q, content, rfl, hq, h⟩
            · cases h
          · rintro ⟨p', q, content, hp', hq, hparse⟩
            obtain rfl := Option.some.inj hp'
            rw [FileSystem.openAt_eq_file_iff.mpr ⟨q, hq⟩]
            exact hparse

/-- What is loaded is in normal form. -/
lemma parse_eq_ok {codec : Codec} (h : parse codec p content = .ok m) :
    m.path = p ∧ m.normalize = m ∧ m.generated.trim = m.generated := by
  rw [parse] at h
  split at h
  · cases h
  · cases h
  · rename_i l _
    cases h
    exact ⟨rfl, normalize_normalize _, l.generated.trim_trim⟩

/-- The content of a lockfile is read as it was written, up to the path, which is no part of it. -/
def ReadsBack (codec : Codec) (l : Lockfile) : Prop :=
  codec.readLockfile (codec.writeLockfile l) = some (.ok { l with path := "" })

instance (codec : Codec) (l : Lockfile) : Decidable (ReadsBack codec l) :=
  decidable_of_iff ((codec.readLockfile (codec.writeLockfile l)).bind Except.toOption =
      some { l with path := "" }) <| by
    rw [ReadsBack]
    cases codec.readLockfile (codec.writeLockfile l) with
    | none => simp
    | some result => cases result <;> simp [Except.toOption]

lemma parse_written {codec : Codec} (hl : l.normalize = l) (hback : ReadsBack codec l) :
    parse codec l.path (codec.writeLockfile l) =
      .ok { l with generated := l.generated.trim } := by
  rw [parse, hback]
  dsimp only
  have hnormal := congrArg (fun m : Lockfile => { m with generated := l.generated.trim }) hl
  exact congrArg Except.ok hnormal

/-- Writing a file does not do away with the working directory. -/
lemma absolute?_of_write {files : FileSystem}
    (h : w.files.write w.space w.cwd p content = (.ok (), files)) (path : Text) :
    (w.withFiles files).absolute? path = w.absolute? path := by
  obtain ⟨q, -, hwritable, rfl, -⟩ := FileSystem.write_eq_ok h
  have hsame : (w.files.put q (.file content)).isDirectory (FileSystem.placeOf w.cwd) =
      w.files.isDirectory (FileSystem.placeOf w.cwd) := by
    rw [FileSystem.isDirectory, FileSystem.isDirectory]
    by_cases hcwd : FileSystem.placeOf w.cwd = q
    · rw [hcwd, FileSystem.get?_put_self hwritable.ne_nil]
      rcases hwritable with hget | ⟨old, hget⟩ <;> rw [hget] <;> rfl
    · rw [FileSystem.get?_put_of_ne hcwd]
  rw [World.absolute?, World.absolute?]
  exact congrArg (fun b => if (Path.isAbsolute path || b) = true then
    some (Path.absolute w.cwd path) else none) hsame

/-- A lockfile is loaded as it was written, from any path that leads to it. -/
lemma load_of_save (hsave : save w (some l) path = (.ok l', w')) (hback : ReadsBack w.codec l')
    {given : Text} (hempty : given.isEmpty = false)
    (hgiven : w.absolute? given = some l'.path) :
    load w' given = .ok { l' with generated := l'.generated.trim } := by
  obtain ⟨-, p, files, -, rfl, hwrite, rfl⟩ := save_eq_ok_iff.mp hsave
  obtain ⟨q, -, -, -, hlookup⟩ := FileSystem.write_eq_ok hwrite
  have hparse := parse_written (normalize_normalize _) hback
  refine load_eq_ok_iff.mpr ⟨hempty, p, q, _, ?_, hlookup, hparse⟩
  rw [absolute?_of_write hwrite, hgiven]
  rfl

/-- A path from the root is its own. -/
lemma absolute?_of_absolute? (hcwd : Path.isAbsolute w.cwd = true) (h : w.absolute? path = some p) :
    p.isEmpty = false ∧ w.absolute? p = some p := by
  rw [World.absolute?] at h
  split at h
  · obtain rfl := Option.some.inj h
    rw [Path.absolute_eq hcwd]
    refine ⟨rfl, ?_⟩
    rw [World.absolute?, if_pos (by rfl), Path.absolute_eq hcwd,
      Path.reach_pathOf _ (Path.isName_reach hcwd path)]
  · cases h

/-- There is a file at the path of a lockfile, and no space for a content in it. -/
def NoSpace (w : World) (m : Lockfile) (content : Text.Bytes) : Prop :=
  ∃ q e n, w.files.lookup w.cwd m.path = .ok (q, e) ∧ w.space q = some n ∧ n < content.length

/-- A loaded lockfile can be written back, if there is space for it. Then it has got a time if it
had none, and is otherwise loaded as before. -/
lemma save_of_load (hcwd : Path.isAbsolute w.cwd = true) (hload : load w path = .ok m)
    (hp : p = path ∨ p = "") : NoSpace w m (w.codec.writeLockfile (m.stamped w.now)) ∨
      ∃ w', save w (some m) p = (.ok (m.stamped w.now), w') ∧
        (ReadsBack w.codec (m.stamped w.now) → load w' path = .ok (m.stamped w.now.trim)) := by
  obtain ⟨hempty, q, place, content, habs, hlookup, hparse⟩ := load_eq_ok_iff.mp hload
  obtain ⟨rfl, hnormal, htrim⟩ := parse_eq_ok hparse
  obtain ⟨hself, habs'⟩ := absolute?_of_absolute? hcwd habs
  obtain ⟨hgiven, hdestination⟩ : (m.destination p).isEmpty = false ∧
      w.absolute? (m.destination p) = some m.path := by
    obtain rfl | rfl := hp
    · rw [destination, if_neg (by rw [hempty]; simp)]
      exact ⟨hempty, habs⟩
    · exact ⟨hself, habs'⟩
  have hprepare : m.stamped w.now = m.prepare m.path w.now :=
    (congrArg (fun l : Lockfile => l.stamped w.now) hnormal).symm
  by_cases hspace : NoSpace w m (w.codec.writeLockfile (m.stamped w.now))
  · exact .inl hspace
  · -- there is a file to overwrite, and space for it
    have hfollow : w.files.follow w.cwd m.path = .entry place (.file content) :=
      FileSystem.trace_eq_entry_iff.mpr (FileSystem.lookup_eq_ok_iff.mp hlookup)
    have hwrite : ∃ files, w.files.write w.space w.cwd m.path
        (w.codec.writeLockfile (m.stamped w.now)) = (.ok (), files) := by
      rw [FileSystem.write, hfollow]
      dsimp only
      rw [FileSystem.fill]
      split
      · rename_i n hn
        have hle : (w.codec.writeLockfile (m.stamped w.now)).length ≤ n := by
          by_contra hlt
          exact hspace ⟨place, _, n, hlookup, hn, Nat.lt_of_not_le hlt⟩
        rw [if_pos hle]
        exact ⟨_, rfl⟩
      · exact ⟨_, rfl⟩
    obtain ⟨files, hwrite⟩ := hwrite
    have hsave := save_eq_ok_iff.mpr ⟨hgiven, m.path, files, hdestination, hprepare, hwrite, rfl⟩
    refine .inr ⟨_, hsave, fun hback => ?_⟩
    rw [load_of_save hsave hback hempty habs, stamped, stamped]
    split
    · rfl
    · rw [htrim]

/-- What a lockfile is once it is written: it has a path from the root, a sanitized root, a time,
and of its entries those that are not void, normalized and in order. Every spelling of a name leads
to its entry. -/
structure Written (w : World) (l : Lockfile) (path : Text) (l' : Lockfile) : Prop where
  path : w.absolute? (l.destination path) = some l'.path
  root : l'.root = Segment.sanitize l.root
  generated : l'.generated = (l.stamped w.now).generated
  packages : ∃ arranged, l'.packages = arranged.map some ∧
    Arranges (l.entries.map LockedPackage.normalize) arranged
  find : ∀ e ∈ l'.entries, (∀ f ∈ l'.entries, f.name = e.name → f = e) →
    ∀ name, Segment.sanitize name = e.name → l'.find? name = some e

lemma written_of_save (hsave : save w (some l) path = (.ok l', w')) : Written w l path l' := by
  obtain ⟨-, p, -, habs, rfl, -, -⟩ := save_eq_ok_iff.mp hsave
  exact {
    path := habs
    root := rfl
    generated := rfl
    packages := ⟨_, packages_normalize _, arranges_normalize _⟩
    find := fun e he hunique name hname => find?_of_unique he hunique hname }

end

/-- **Writing and loading are inverse**, as long as contents are read as they were written. A
lockfile that was written is loaded as it is by then, up to blanks around its time. A lockfile that
was loaded can be written back to the same place unless the device is full, and the next one that
is loaded differs at most in a time that it had not had. -/
theorem save_load_inverse :
    (∀ w l path l' w', save w (some l) path = (.ok l', w') → Written w l path l' ∧
      (ReadsBack w.codec l' →
        load w' (l.destination path) = .ok { l' with generated := l'.generated.trim })) ∧
    (∀ w path m, Path.isAbsolute w.cwd = true → load w path = .ok m → ∀ p, p = path ∨ p = "" →
      NoSpace w m (w.codec.writeLockfile (m.stamped w.now)) ∨
      ∃ w', save w (some m) p = (.ok (m.stamped w.now), w') ∧
        (ReadsBack w.codec (m.stamped w.now) → load w' path = .ok (m.stamped w.now.trim))) := by
  refine ⟨fun w l path l' w' hsave => ?_,
    fun w path m hcwd hload p hp => save_of_load hcwd hload hp⟩
  have hwritten := written_of_save hsave
  exact ⟨hwritten,
    fun hback => load_of_save hsave hback (save_eq_ok_iff.mp hsave).1 hwritten.path⟩

/-- A lockfile with a void entry and names that are neither sanitized nor in order. -/
def unsortedLock : Lockfile where
  path := ""
  root := " my-app"
  generated := "today"
  packages :=
    [some ⟨"list-ops", " 1.0.0", "path+/ops", "0"⟩, none, some ⟨"io", "", "path+/io ", "1"⟩]

/-- The same lockfile as it is kept. -/
def sortedLock : Lockfile where
  path := "/package.lock"
  root := "my_app"
  generated := "today"
  packages := [some ⟨"io", "", "path+/io", "1"⟩, some ⟨"list_ops", "1.0.0", "path+/ops", "0"⟩]

/-- A world without files. -/
def emptyWorld : World :=
  { Remotes.world [] [] "/" with now := "today" }

lemma prepare_unsortedLock : unsortedLock.prepare "/package.lock" "today" = sortedLock := by
  have hgiven : unsortedLock.entries.map LockedPackage.normalize =
      [⟨"list_ops", "1.0.0", "path+/ops", "0"⟩, ⟨"io", "", "path+/io", "1"⟩] := by decide
  have hsorted : (unsortedLock.entries.map LockedPackage.normalize).mergeSort
      (fun p q => Text.comesFirst p.name q.name) = sortedLock.entries := by
    rw [hgiven, mergeSort_pair (by decide)]
    rfl
  change Lockfile.mk _ _ _
    (((unsortedLock.entries.map LockedPackage.normalize).mergeSort _).map some) = _
  rw [hsorted]
  decide

lemma readsBack_sortedLock : ReadsBack .yaml sortedLock := by
  decide +kernel

/-- The lockfile is loaded as it was written, and once more after it was written back. -/
theorem save_load_inverse_unsortedLock :
    ∃ w w', save emptyWorld (some unsortedLock) "package.lock" = (.ok sortedLock, w) ∧
      load w "package.lock" = .ok sortedLock ∧ sortedLock.find? " list-ops" =
        some ⟨"list_ops", "1.0.0", "path+/ops", "0"⟩ ∧
      save w (some sortedLock) "" = (.ok sortedLock, w') ∧
      load w' "package.lock" = .ok sortedLock := by
  obtain ⟨hwritten, hloaded⟩ := save_load_inverse
  let content := Codec.yaml.writeLockfile sortedLock
  let files : FileSystem := [(["package.lock"], .file content)]
  have hwrite : emptyWorld.files.write emptyWorld.space "/" "/package.lock" content =
      (.ok (), files) := by
    have hfree : emptyWorld.files.follow "/" "/package.lock" = .free ["package.lock"] := rfl
    rw [FileSystem.write, hfree]
    rfl
  have hsave : save emptyWorld (some unsortedLock) "package.lock" =
      (.ok sortedLock, emptyWorld.withFiles files) :=
    save_eq_ok_iff.mpr ⟨rfl, "/package.lock", files, rfl, prepare_unsortedLock.symm, hwrite, rfl⟩
  obtain ⟨hwritten, hload⟩ := hwritten _ _ _ _ _ hsave
  have hload := hload readsBack_sortedLock
  rcases hloaded _ "package.lock" sortedLock rfl hload "" (.inr rfl) with
    ⟨_, _, _, -, hspace, -⟩ | ⟨w', hsave', hload'⟩
  · cases hspace
  · refine ⟨_, w', hsave, hload, ?_, hsave', hload' readsBack_sortedLock⟩
    exact hwritten.find _ (by decide) (by decide) _ (by decide)

end Lockfile

end PocketScheme
