import PocketScheme.Lockfile.Store
import PocketScheme.Proofs.Path
import PocketScheme.Proofs.Text.Blank
import PocketScheme.Sha256
import Mathlib.Data.List.Nodup

/-!
What a lockfile says of a dependency.

* `Segment.sanitize_sanitize`: names that are kept as they are;
* `Lockfile.gitSource?_gitSource`: the address and the commit are read from the source that is made
  of them;
* `Lockfile.find?_of_unique`: the entry of a package, if there is no other one of its name;
* `Lockfile.pinned_of_find?`: the commit that a dependency is pinned to.
-/

namespace PocketScheme

namespace Text

lemma isEmpty_append_of_right {t : Text} (ht : t.isEmpty = false) (s : Text) :
    (s ++ t).isEmpty = false := by
  rw [isEmpty, List.isEmpty_eq_false_iff] at ht ⊢
  rw [toList_append]
  exact List.append_ne_nil_of_right_ne_nil _ ht

end Text

/-- The only element that is looked for is found. -/
lemma find?_eq_some_of_unique {α : Type} {xs : List α} {p : α → Bool} {x : α} (hx : x ∈ xs)
    (hp : p x = true) (hunique : ∀ y ∈ xs, p y = true → y = x) : xs.find? p = some x := by
  cases hfind : xs.find? p with
  | none => exact absurd hp (List.find?_eq_none.mp hfind x hx)
  | some y => rw [hunique y (List.mem_of_find?_eq_some hfind) (List.find?_some hfind)]

/-- Two elements that are out of order are exchanged. -/
lemma mergeSort_pair {α : Type} {le : α → α → Bool} {a b : α} (h : le a b = false) :
    [a, b].mergeSort le = [b, a] := by
  simp [List.mergeSort, h]

/-! ### Names of packages -/

namespace Segment

lemma isBlankGlyph_sanitized (g : Glyph) :
    Text.isBlankGlyph (if g == '-' then .char '_' else g) = Text.isBlankGlyph g := by
  split
  · rename_i h
    rw [beq_iff_eq.mp h]
    rfl
  · rfl

lemma trim_sanitize (t : Text) : (sanitize t).trim = sanitize t := by
  refine Text.trim_eq_self (fun g hg => ?_) fun g hg => ?_
  · rw [sanitize, List.head?_map] at hg
    obtain ⟨f, hf, rfl⟩ := Option.map_eq_some_iff.mp hg
    rw [isBlankGlyph_sanitized]
    exact Text.head?_trim t f hf
  · rw [sanitize, List.getLast?_map] at hg
    obtain ⟨f, hf, rfl⟩ := Option.map_eq_some_iff.mp hg
    rw [isBlankGlyph_sanitized]
    exact Text.getLast?_trim t f hf

lemma sanitize_sanitize (t : Text) : sanitize (sanitize t) = sanitize t := by
  rw [sanitize, trim_sanitize, sanitize, List.map_map]
  congr 1
  refine List.map_congr_left fun g _ => ?_
  by_cases hg : g = .char '-'
  · subst hg
    rfl
  · simp [hg]

end Segment

/-! ### Checksums -/

namespace Sha256

lemma isBlank_of_mem_toDigits (n : Nat) : ∀ c ∈ Nat.toDigits 16 n, Text.isBlank c = false := by
  have hdigit : ∀ n < 16, Text.isBlank (Nat.digitChar n) = false := by decide
  induction n using Nat.strongRecOn with
  | _ n ih =>
      rw [Nat.toDigits_eq_if (by decide)]
      split
      · rename_i hn
        simpa using hdigit n hn
      · rename_i hn
        intro c hc
        rcases List.mem_append.mp hc with hc | hc
        · exact ih (n / 16) (Nat.div_lt_self (by omega) (by decide)) c hc
        · rw [List.mem_singleton.mp hc]
          exact hdigit _ (Nat.mod_lt _ (by decide))

/-- There are no blanks in a checksum. -/
lemma trim_hex (message : List UInt8) : Text.trim (hex message) = hex message := by
  refine Text.trim_eq_self_of_forall fun g hg => ?_
  rw [hex, Text.ofString, Text.ofChars, String.toList_ofList] at hg
  obtain ⟨c, hc, rfl⟩ := List.mem_map.mp hg
  obtain ⟨w, -, hc⟩ := List.mem_flatMap.mp hc
  rw [wordHex] at hc
  rcases List.mem_append.mp hc with hc | hc
  · rw [List.eq_of_mem_replicate hc]
    rfl
  · exact isBlank_of_mem_toDigits _ c hc

end Sha256

/-! ### Sources -/

namespace Lockfile

lemma splitLastAt_append {address commit : List Glyph} (h : Glyph.char '@' ∉ commit) :
    splitLastAt (address ++ .char '@' :: commit) = some (address, commit) := by
  have hback : (address ++ Glyph.char '@' :: commit).reverse =
      commit.reverse ++ .char '@' :: address.reverse := by simp
  have hne : ∀ g ∈ commit.reverse, (g != .char '@') = true := by
    intro g hg
    rw [bne_iff_ne]
    rintro rfl
    exact h (List.mem_reverse.mp hg)
  rw [splitLastAt, hback, List.dropWhile_append_of_pos hne, List.takeWhile_append_of_pos hne]
  simp

lemma dropFront?_gitSource (address commit : Text) :
    Text.dropFront? gitMark (gitSource address commit) = some (address ++ "@" ++ commit) := rfl

/-- The address and the commit are read from a source that is made of them. -/
lemma gitSource?_gitSource {address commit : Text} (h : Glyph.char '@' ∉ commit.toList) :
    gitSource? (gitSource address commit) = some (address, commit) := by
  have hsplit :
      (address ++ "@" ++ commit).toList = address.toList ++ .char '@' :: commit.toList := by
    rw [Text.toList_append, Text.toList_append, List.append_assoc]
    rfl
  rw [gitSource?, dropFront?_gitSource, Option.bind_eq_bind, Option.bind_some, hsplit,
    splitLastAt_append h]
  rfl

/-- A commit with a mark in it is not read as it was. -/
lemma gitSource?_of_mem (address : Text) {commit : Text} (h : Glyph.char '@' ∈ commit.toList) :
    ∃ front rest, gitSource? (gitSource address commit) = some (address ++ "@" ++ front, rest) := by
  obtain ⟨front, rest, hcommit, hrest⟩ : ∃ front rest : Text,
      commit = front ++ "@" ++ rest ∧ Glyph.char '@' ∉ rest.toList := by
    obtain ⟨rest, front, hrest, hmem⟩ := List.eq_append_cons_of_mem (List.mem_reverse.mpr h)
    refine ⟨⟨front.reverse⟩, ⟨rest.reverse⟩, Text.eq_of_toList ?_, by simpa using hmem⟩
    have hrev := congrArg List.reverse hrest
    simp only [List.reverse_reverse, List.reverse_append, List.reverse_cons] at hrev
    exact hrev
  have hsource : gitSource address commit = gitSource (address ++ "@" ++ front) rest := by
    rw [hcommit]
    refine Text.eq_of_toList ?_
    simp [gitSource]
  exact ⟨front, rest, by rw [hsource, gitSource?_gitSource hrest]⟩

lemma trim_gitSource (address : Text) {commit : Text} (hne : commit.isEmpty = false)
    (htrim : commit.trim = commit) :
    (gitSource address commit).trim = gitSource address commit := by
  refine Text.trim_eq_self (fun g hg => ?_) fun g hg => ?_
  · obtain rfl : Glyph.char 'g' = g := Option.some.inj hg
    rfl
  · refine Text.getLast?_trim commit g ?_
    have hlist : commit.toList ≠ [] := by
      rw [ne_eq, ← List.isEmpty_iff]
      exact Bool.not_eq_true _ ▸ hne
    rw [htrim]
    rwa [gitSource, Text.toList_append, List.getLast?_append_of_ne_nil _ hlist] at hg

end Lockfile

/-- The package comes from a repository. -/
def LockedPackage.isFetched (p : LockedPackage) : Bool :=
  p.source.startsWith Lockfile.gitMark

/-! ### Entries -/

namespace Lockfile

/-- The entry of a package, if there is no other one of its name. -/
lemma find?_of_unique {l : Lockfile} {e : LockedPackage} (he : e ∈ l.entries)
    (hunique : ∀ f ∈ l.entries, f.name = e.name → f = e) {name : Text}
    (hname : Segment.sanitize name = e.name) : l.find? name = some e := by
  refine find?_eq_some_of_unique he (by simp [hname]) fun f hf hfound => hunique f hf ?_
  rw [← hname]
  exact beq_iff_eq.mp hfound

lemma find?_of_mem {l : Lockfile} (hnodup : (l.entries.map LockedPackage.name).Nodup)
    {e : LockedPackage} (he : e ∈ l.entries) {name : Text}
    (hname : Segment.sanitize name = e.name) :
    l.find? name = some e :=
  find?_of_unique he (fun _ hf => List.inj_on_of_nodup_map hnodup hf he) hname

section

variable {l : Lockfile} {name : Text} {d : Dependency} {e : LockedPackage} {commit : Text}
  (hfind : l.find? name = some e) (hsource : e.source = gitSource d.git.trim commit)

include hfind hsource

/-- A dependency is pinned to the commit in its entry. -/
lemma pinned_of_find? (h : Glyph.char '@' ∉ commit.toList) :
    pinned (some l) name d = some (e, commit) := by
  simp [pinned, hfind, hsource, gitSource?_gitSource h]

lemma pinned_eq_none (h : Glyph.char '@' ∈ commit.toList) : pinned (some l) name d = none := by
  obtain ⟨front, rest, hsplit⟩ := gitSource?_of_mem d.git.trim h
  have hne : d.git.trim ++ "@" ++ front ≠ d.git.trim := by
    intro heq
    have hlength := congrArg (fun t => t.toList.length) heq
    simp only [Text.toList_append, List.length_append] at hlength
    have hmark : (Text.toList "@").length = 1 := rfl
    omega
  simp [pinned, hfind, hsource, hsplit, hne]

end

end Lockfile

end PocketScheme
