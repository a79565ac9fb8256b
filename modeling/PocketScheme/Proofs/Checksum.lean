import PocketScheme.Checksum
import PocketScheme.Proofs.Except
import PocketScheme.Text.Quoted
import Mathlib.Data.List.Basic
import Mathlib.Data.Nat.Digits.Defs

/-!
What a checksum says about a tree. The hashed bytes are the paths and contents of the files without
anything between them, so trees may be different and still have the same checksum. Trees that cannot
differ in where a path or a content ends have the same checksum only if they are the same.

* `Checksum.listing`: the paths and contents of the files that count;
* `Checksum.written`: these one after the other;
* `Checksum.Comparable`: listings that are told apart by what is written;
* `Checksum.checksum_identifies_comparable`: the main statement;
* `Checksum.checksum_confuses_trees`: different trees with the same checksum.
-/

namespace PocketScheme

lemma Text.ofString_inj {s t : String} : Text.ofString s = Text.ofString t ↔ s = t := by
  refine ⟨fun h => ?_, congrArg Text.ofString⟩
  have hchars := congrArg Text.chars h
  rw [ofString, ofString, chars_ofChars, chars_ofChars] at hchars
  exact String.toList_inj.mp hchars

/-! ### Hashes in hexadecimal -/

namespace Sha256

lemma hexValue?_concat (cs : List Char) (c : Char) :
    Text.hexValue? (cs ++ [c]) =
      (Text.hexValue? cs).bind fun n => (Text.hexDigit? c).map (n * 16 + ·) := by
  rw [Text.hexValue?, Text.hexValue?, List.foldlM_append]
  refine congrArg _ (funext fun n => ?_)
  rw [List.foldlM_cons]
  cases Text.hexDigit? c <;> rfl

lemma hexValue?_toDigits (n : Nat) : Text.hexValue? (Nat.toDigits 16 n) = some n := by
  have hdigit : ∀ n < 16, Text.hexDigit? (Nat.digitChar n) = some n := by decide
  induction n using Nat.strongRecOn with
  | _ n ih =>
      rw [Nat.toDigits_eq_if (by decide)]
      split
      · rename_i hn
        rw [← List.nil_append [Nat.digitChar n], hexValue?_concat, hdigit n hn]
        exact congrArg some (Nat.zero_add n)
      · rename_i hn
        rw [hexValue?_concat, ih (n / 16) (Nat.div_lt_self (by omega) (by decide)),
          hdigit _ (Nat.mod_lt n (by decide)), Option.bind_some, Option.map_some, Option.some.injEq]
        omega

lemma hexValue?_zeros (k : Nat) (cs : List Char) :
    Text.hexValue? (List.replicate k '0' ++ cs) = Text.hexValue? cs := by
  induction k with
  | zero => rfl
  | succ k ih => exact ih

lemma hexValue?_wordHex (w : UInt32) : Text.hexValue? (wordHex w) = some w.toNat := by
  rw [wordHex, hexValue?_zeros, hexValue?_toDigits]

lemma length_wordHex (w : UInt32) : (wordHex w).length = 8 := by
  have hdigits : (Nat.toDigits 16 w.toNat).length ≤ 8 :=
    Nat.toDigits_length 16 w.toNat 8 (by decide) w.toNat_lt
  rw [wordHex, List.length_append, List.length_replicate]
  omega

/-- Words are read off their digits. -/
lemma eq_of_flatMap_wordHex {vs ws : List UInt32} (h : vs.flatMap wordHex = ws.flatMap wordHex) :
    vs = ws := by
  have hne : ∀ w, wordHex w ≠ [] := by
    intro w
    rw [← List.length_pos_iff, length_wordHex]
    decide
  induction vs generalizing ws with
  | nil =>
      cases ws with
      | nil => rfl
      | cons w ws => exact absurd (List.append_eq_nil_iff.mp h.symm).1 (hne w)
  | cons v vs ih =>
      cases ws with
      | nil => exact absurd (List.append_eq_nil_iff.mp h).1 (hne v)
      | cons w ws =>
          rw [List.flatMap_cons, List.flatMap_cons] at h
          obtain ⟨hword, hrest⟩ := List.append_inj h (by rw [length_wordHex, length_wordHex])
          have hvalue := congrArg Text.hexValue? hword
          rw [hexValue?_wordHex, hexValue?_wordHex, Option.some.injEq] at hvalue
          rw [UInt32.toNat_inj.mp hvalue, ih hrest]

lemma hex_eq_iff {s t : List UInt8} : hex s = hex t ↔ digest s = digest t := by
  rw [hex, hex, String.ofList_inj]
  exact ⟨eq_of_flatMap_wordHex, congrArg (List.flatMap wordHex)⟩

end Sha256

namespace Checksum

/-! ### Listings -/

/-- The paths and contents of files. -/
def listing (found : List (Place × Text.Bytes)) : List (Text.Bytes × Text.Bytes) :=
  found.map fun f => ((Text.intercalate "/" f.1).bytes, f.2)

/-- The paths and contents of a listing, one after the other. -/
def written (xs : List (Text.Bytes × Text.Bytes)) : Text.Bytes :=
  xs.flatMap fun f => f.1 ++ f.2

/-- The lengths of a path and a content. -/
def sizes (f : Text.Bytes × Text.Bytes) : Nat × Nat :=
  (f.1.length, f.2.length)

lemma stream_eq (found : List (Place × Text.Bytes)) : stream found = written (listing found) := by
  rw [stream, written, listing, List.flatMap_map]

lemma written_cons (f : Text.Bytes × Text.Bytes) (xs : List (Text.Bytes × Text.Bytes)) :
    written (f :: xs) = f.1 ++ f.2 ++ written xs :=
  List.flatMap_cons

lemma written_append (xs ys : List (Text.Bytes × Text.Bytes)) :
    written (xs ++ ys) = written xs ++ written ys :=
  List.flatMap_append

/-- Where all lengths are the same, nothing is written twice. -/
lemma eq_of_written_of_sizes {xs ys : List (Text.Bytes × Text.Bytes)}
    (hsizes : xs.map sizes = ys.map sizes) (h : written xs = written ys) : xs = ys := by
  induction xs generalizing ys with
  | nil => exact (List.map_eq_nil_iff.mp hsizes.symm).symm
  | cons f xs ih =>
      obtain ⟨g, ys, rfl, hfg, hrest⟩ := List.map_eq_cons_iff.mp hsizes.symm
      obtain ⟨hpath, hcontent⟩ : g.1.length = f.1.length ∧ g.2.length = f.2.length :=
        Prod.ext_iff.mp hfg
      rw [written_cons, written_cons, List.append_assoc, List.append_assoc] at h
      obtain ⟨hpaths, h⟩ := List.append_inj h hpath.symm
      obtain ⟨hcontents, h⟩ := List.append_inj h hcontent.symm
      rw [Prod.ext hpaths hcontents, ih hrest.symm h]

lemma length_written_cons (f : Text.Bytes × Text.Bytes) (xs : List (Text.Bytes × Text.Bytes)) :
    (written (f :: xs)).length = f.1.length + f.2.length + (written xs).length := by
  rw [written_cons, List.length_append, List.length_append]

/-- Every file with a path makes a listing longer. -/
lemma length_written_of_sublist {xs ys : List (Text.Bytes × Text.Bytes)} (hsub : xs.Sublist ys)
    (hpaths : ∀ f ∈ ys, f.1 ≠ []) :
    (written xs).length ≤ (written ys).length ∧
      ((written xs).length = (written ys).length → xs = ys) := by
  induction hsub with
  | slnil => exact ⟨Nat.le_refl _, fun _ => rfl⟩
  | @cons xs ys f _ ih =>
      obtain ⟨hpath, hpaths⟩ := List.forall_mem_cons.mp hpaths
      have hpos := List.length_pos_iff.mpr hpath
      have hle := (ih hpaths).1
      rw [length_written_cons]
      exact ⟨by omega, fun hlength => by omega⟩
  | @cons_cons xs ys f _ ih =>
      obtain ⟨hle, heq⟩ := ih (List.forall_mem_cons.mp hpaths).2
      rw [length_written_cons, length_written_cons]
      exact ⟨by omega, fun hlength => by rw [heq (by omega)]⟩

/-! ### Trees that are told apart -/

/-- Listings in which no path or content can end in two places: all lengths are the same, or only
one content is another, or some files have been added. -/
inductive Comparable : List (Text.Bytes × Text.Bytes) → List (Text.Bytes × Text.Bytes) → Prop
  | lengths {xs ys : List (Text.Bytes × Text.Bytes)} (h : xs.map sizes = ys.map sizes) :
      Comparable xs ys
  | content (before after : List (Text.Bytes × Text.Bytes)) (path c c' : Text.Bytes) :
      Comparable (before ++ (path, c) :: after) (before ++ (path, c') :: after)
  | added {xs ys : List (Text.Bytes × Text.Bytes)} (h : xs.Sublist ys)
      (hpaths : ∀ f ∈ ys, f.1 ≠ []) : Comparable xs ys

/-- Comparable listings are told apart by what is written. -/
lemma Comparable.written_eq_iff {xs ys : List (Text.Bytes × Text.Bytes)} (h : Comparable xs ys) :
    written xs = written ys ↔ xs = ys := by
  refine ⟨fun heq => ?_, congrArg written⟩
  cases h with
  | lengths hsizes => exact eq_of_written_of_sizes hsizes heq
  | content before after path c c' =>
      rw [written_append, written_append, written_cons, written_cons] at heq
      have hrest := List.append_cancel_left heq
      have hfile : path ++ c = path ++ c' := List.append_cancel_right hrest
      rw [List.append_cancel_left hfile]
  | added hsub hpaths => exact (length_written_of_sublist hsub hpaths).2 (congrArg List.length heq)

/-- Two messages with the same hash. -/
def Collide (s t : Text.Bytes) : Prop :=
  s ≠ t ∧ Sha256.digest s = Sha256.digest t

lemma ofPath_directory {fs : FileSystem} {cwd path : Text} {p : Place}
    (h : fs.followTo cwd path = .entry p .directory) (hpath : lastName path ≠ skipped) :
    ofPath fs cwd path =
      (fun found => (Sha256.hex (stream found) : Text)) <$> files fs cwd path p := by
  have hstream : streamOf fs cwd path p .directory = stream <$> files fs cwd path p := by
    have hdirectory : Entry.isDirectory .directory = true := rfl
    rw [streamOf, if_pos hdirectory, if_neg (by simpa using hpath)]
  rw [ofPath, h]
  dsimp only [FileSystem.inspect, FileSystem.Found.result]
  rw [hstream]
  cases files fs cwd path p <;> rfl

/-- **Checksums identify comparable trees**. Take any two directories that can be read, whose
files, by path and content, have the same lengths in the same order, or differ in one content only,
or of which one has all the files of the other. If the same bytes are hashed for them, they hold the
same files with the same contents. If they have the same checksum, they do so too, or the bytes that
are hashed for them collide. -/
theorem checksum_identifies_comparable (fs gs : FileSystem) (cwd cwd' path path' : Text)
    (p q : Place) (xs ys : List (Place × Text.Bytes))
    (hp : fs.followTo cwd path = .entry p .directory)
    (hq : gs.followTo cwd' path' = .entry q .directory)
    (hpath : lastName path ≠ skipped) (hpath' : lastName path' ≠ skipped)
    (hxs : files fs cwd path p = .ok xs) (hys : files gs cwd' path' q = .ok ys)
    (h : Comparable (listing xs) (listing ys)) :
    (stream xs = stream ys ↔ listing xs = listing ys) ∧
      (ofPath fs cwd path = ofPath gs cwd' path' ↔
        listing xs = listing ys ∨ Collide (stream xs) (stream ys)) := by
  have hstream : stream xs = stream ys ↔ listing xs = listing ys := by
    rw [stream_eq, stream_eq]
    exact h.written_eq_iff
  have hsum : ofPath fs cwd path = ofPath gs cwd' path' ↔
      Sha256.digest (stream xs) = Sha256.digest (stream ys) := by
    rw [ofPath_directory hp hpath, ofPath_directory hq hpath', hxs, hys, ← Sha256.hex_eq_iff,
      ← Text.ofString_inj]
    exact ⟨fun hok => Except.ok.inj hok, fun htext => congrArg Except.ok htext⟩
  refine ⟨hstream, ?_⟩
  rw [hsum, ← hstream]
  refine ⟨fun hdigest => ?_, fun hcases => ?_⟩
  · by_cases heq : stream xs = stream ys
    · exact .inl heq
    · exact .inr ⟨heq, hdigest⟩
  · rcases hcases with heq | hcollide
    · rw [heq]
    · exact hcollide.2

/-! ### Files that are read -/

/-- The file at a place, with its content. -/
def ofFile? : Place × Entry → Option (Place × Text.Bytes)
  | (p, .file content) => some (p, content)
  | _ => none

/-- If all that a walk meets can be read, then what is read are the files. -/
lemma files_eq_ok {fs : FileSystem} {cwd path : Text} {p : Place}
    (h : ∀ b ∈ visits fs p, visit fs cwd path b = .ok (ofFile? b)) :
    files fs cwd path p = .ok ((visits fs p).filterMap ofFile?) := by
  rw [files, mapM_eq_ok h]
  dsimp only
  rw [List.filterMap_map, Function.id_comp]

lemma foldr_insert_of_pairwise {bs : List (Place × Entry)}
    (h : bs.Pairwise fun b c => comesFirst b.1 c.1 = true) : bs.foldr insert [] = bs := by
  induction bs with
  | nil => rfl
  | cons b bs ih =>
      obtain ⟨hb, hbs⟩ := List.pairwise_cons.mp h
      rw [List.foldr_cons, ih hbs]
      cases bs with
      | nil => rfl
      | cons c cs => rw [insert, if_pos (hb c List.mem_cons_self)]

/-- A directory `t` with some files in it. -/
def flat (found : List (Text × Text.Bytes)) : FileSystem :=
  (["t"], .directory) :: found.map fun f => (["t", f.1], .file f.2)

/-- The names are in order, and what they name can be read. -/
structure InOrder (found : List (Text × Text.Bytes)) : Prop where
  sorted : found.Pairwise fun f g => comesFirst [f.1] [g.1] = true
  read : ∀ f ∈ found, (flat found).read "/" (pathTo "/t" [f.1]) = .ok f.2

instance (found : List (Text × Text.Bytes)) : Decidable (InOrder found) :=
  decidable_of_iff (found.Pairwise (fun f g => comesFirst [f.1] [g.1] = true) ∧
      ∀ f ∈ found, ((flat found).read "/" (pathTo "/t" [f.1])).toOption = some f.2)
    ⟨fun h => ⟨h.1, fun f hf => eq_ok_of_toOption_eq_some (h.2 f hf)⟩,
      fun h => ⟨h.sorted, fun f hf => by rw [h.read f hf]; rfl⟩⟩

lemma followTo_flat (found : List (Text × Text.Bytes)) :
    (flat found).followTo "/" "/t" = .entry ["t"] .directory :=
  rfl

lemma files_flat {found : List (Text × Text.Bytes)} (h : InOrder found) :
    files (flat found) "/" "/t" ["t"] = .ok (found.map fun f => ([f.1], f.2)) := by
  have hbelow : (flat found).below ["t"] =
      ([], .directory) :: found.map fun f => ([f.1], .file f.2) := by
    rw [FileSystem.below, flat, List.filterMap_cons, List.filterMap_map]
    simp [List.isPrefixOf?]
  have hvisits : visits (flat found) ["t"] =
      ([], .directory) :: found.map fun f => ([f.1], .file f.2) := by
    have hkept : ∀ b ∈ (([], .directory) :: found.map fun f => ([f.1], .file f.2) :
        List (Place × Entry)), counts b.1 = true := by
      rw [List.forall_mem_cons, List.forall_mem_map]
      exact ⟨rfl, fun _ _ => rfl⟩
    rw [visits, hbelow, List.filter_eq_self.mpr hkept]
    refine foldr_insert_of_pairwise (List.pairwise_cons.mpr ⟨fun _ _ => rfl, ?_⟩)
    exact List.pairwise_map.mpr h.sorted
  rw [files_eq_ok, hvisits, List.filterMap_cons, List.filterMap_map, ← List.filterMap_eq_map]
  · rfl
  · rw [hvisits, List.forall_mem_cons, List.forall_mem_map]
    refine ⟨rfl, fun f hf => ?_⟩
    have hread := h.read f hf
    rw [visit, if_neg (by simp [Entry.isDirectory])]
    dsimp only
    rw [hread]
    rfl

lemma listing_names (found : List (Text × Text.Bytes)) :
    listing (found.map fun f => ([f.1], f.2)) = found.map fun f => (f.1.bytes, f.2) := by
  rw [listing, List.map_map]
  refine List.map_congr_left fun f _ => ?_
  simp [Text.intercalate]

/-- A content that alone is another is seen. -/
theorem checksum_identifies_comparable_content :
    let xs : List (Place × Text.Bytes) := [(["a"], Text.bytes "b"), (["b"], [])]
    let ys : List (Place × Text.Bytes) := [(["a"], Text.bytes "b"), (["b"], Text.bytes "b")]
    Comparable (listing xs) (listing ys) ∧ stream xs ≠ stream ys := by
  intro xs ys
  have hcomparable : Comparable (listing xs) (listing ys) :=
    .content [(Text.bytes "a", Text.bytes "b")] [] (Text.bytes "b") [] (Text.bytes "b")
  have hxs : files (flat [("a", Text.bytes "b"), ("b", [])]) "/" "/t" ["t"] = .ok xs :=
    files_flat (by decide)
  have hys : files (flat [("a", Text.bytes "b"), ("b", Text.bytes "b")]) "/" "/t" ["t"] = .ok ys :=
    files_flat (by decide)
  refine ⟨hcomparable, fun h => ?_⟩
  have hsame := (checksum_identifies_comparable _ _ "/" "/" "/t" "/t" ["t"] ["t"] xs ys
    (followTo_flat _) (followTo_flat _) (by decide) (by decide) hxs hys hcomparable).1.mp h
  exact absurd hsame (by decide)

/-- The trees hold different files, and the checksum is the same. -/
def Confused (fs gs : FileSystem) : Prop :=
  ∃ xs ys, files fs "/" "/t" ["t"] = .ok xs ∧ files gs "/" "/t" ["t"] = .ok ys ∧
    listing xs ≠ listing ys ∧ stream xs = stream ys ∧
    ∃ checksum, ofPath fs "/" "/t" = .ok checksum ∧ ofPath gs "/" "/t" = .ok checksum

lemma confused_flat {xs ys : List (Text × Text.Bytes)} (hxs : InOrder xs) (hys : InOrder ys)
    (hne : xs.map (fun f => (f.1.bytes, f.2)) ≠ ys.map fun f => (f.1.bytes, f.2))
    (h : written (xs.map fun f => (f.1.bytes, f.2)) =
      written (ys.map fun f => (f.1.bytes, f.2))) : Confused (flat xs) (flat ys) := by
  have hstream : stream (xs.map fun f => ([f.1], f.2)) = stream (ys.map fun f => ([f.1], f.2)) := by
    rw [stream_eq, stream_eq, listing_names, listing_names, h]
  refine ⟨_, _, files_flat hxs, files_flat hys, by rwa [listing_names, listing_names], hstream,
    (Sha256.hex (stream (xs.map fun f => ([f.1], f.2))) : Text), ?_, ?_⟩
  · rw [ofPath_directory (followTo_flat xs) (by decide), files_flat hxs]
    rfl
  · rw [ofPath_directory (followTo_flat ys) (by decide), files_flat hys, hstream]
    rfl

/-- A file `a` with the content `b` is confused with an empty file `ab`. And if one of the files `a`
and `b` is empty and the other one has the content `b`, it is not seen which one is empty. -/
theorem checksum_confuses_trees :
    Confused (flat [("a", Text.bytes "b")]) (flat [("ab", [])]) ∧
      Confused (flat [("a", Text.bytes "b"), ("b", [])])
        (flat [("a", []), ("b", Text.bytes "b")]) := by
  refine ⟨confused_flat ?_ ?_ ?_ ?_, confused_flat ?_ ?_ ?_ ?_⟩ <;> decide

end Checksum

end PocketScheme
