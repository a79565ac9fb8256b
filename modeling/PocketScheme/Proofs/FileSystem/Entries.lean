import PocketScheme.Tree
import Mathlib.Data.List.Basic
import Mathlib.Data.List.Induction

/-!
What is stored where, after the operations on places.

* `FileSystem.get?_put_self`, `FileSystem.get?_put_of_ne`: storing an entry;
* `FileSystem.below_graft_self`, `FileSystem.get?_graft_of_not`: storing a whole tree;
* `FileSystem.Grown`: everything that is there stays there;
* `FileSystem.Covered`: what is stored is stored in something;
* `FileSystem.Stored`: entries stored at free places.
-/

namespace PocketScheme.FileSystem

variable {fs gs hs : FileSystem} {p q root : Place} {e : Entry}

/-! ### Entries -/

lemma get?_of_ne_nil (hp : p ≠ []) : fs.get? p = List.lookup p fs := by
  simp [get?, hp]

lemma ne_nil_of_get?_eq_none (h : fs.get? p = none) : p ≠ [] := by
  rintro rfl
  cases h

lemma lookup_filter_ne (hq : q ≠ p) :
    List.lookup q (fs.filter fun b => b.1 != p) = List.lookup q fs := by
  induction fs with
  | nil => rfl
  | cons b fs ih =>
      obtain ⟨r, f⟩ := b
      by_cases hr : r = p
      · subst hr
        have hqr : (q == r) = false := beq_eq_false_iff_ne.mpr hq
        rw [List.filter_cons_of_neg (by simp), ih, List.lookup_cons, hqr]
      · rw [List.filter_cons_of_pos (by simpa using hr), List.lookup_cons, List.lookup_cons, ih]

lemma lookup_put (q : Place) :
    List.lookup q (fs.put p e) = if q = p then some e else List.lookup q fs := by
  split
  · rename_i hq
    rw [hq, put, List.lookup_cons_self]
  · rename_i hq
    have hqp : (q == p) = false := beq_eq_false_iff_ne.mpr hq
    rw [put, List.lookup_cons, hqp, lookup_filter_ne hq]

lemma get?_put_self (hp : p ≠ []) : (fs.put p e).get? p = some e := by
  rw [get?_of_ne_nil hp, lookup_put, if_pos rfl]

lemma get?_put_of_ne (hq : q ≠ p) : (fs.put p e).get? q = fs.get? q := by
  by_cases hnil : q = []
  · rw [hnil]
    rfl
  · rw [get?_of_ne_nil hnil, get?_of_ne_nil hnil, lookup_put, if_neg hq]

lemma get?_put_self_ne_none : (fs.put p e).get? p ≠ none := by
  by_cases hnil : p = []
  · rw [hnil]
    exact Option.some_ne_none _
  · rw [get?_put_self hnil]
    exact Option.some_ne_none _

lemma get?_put_ne_none (hq : fs.get? q ≠ none) : (fs.put p e).get? q ≠ none := by
  by_cases hqp : q = p
  · rw [hqp]
    exact get?_put_self_ne_none
  · rwa [get?_put_of_ne hqp]

/-! ### What is below a place -/

lemma below_cons (b : Place × Entry) (root : Place) :
    below (b :: fs) root =
      ((root.isPrefixOf? b.1).map fun rest => (rest, b.2)).toList ++ fs.below root := by
  rw [below, List.filterMap_cons]
  cases root.isPrefixOf? b.1 <;> rfl

lemma lookup_below (root rest : Place) :
    List.lookup rest (fs.below root) = List.lookup (root ++ rest) fs := by
  induction fs with
  | nil => rfl
  | cons b fs ih =>
      obtain ⟨r, f⟩ := b
      rw [below_cons, List.lookup_append, ih, List.lookup_cons]
      cases hr : root.isPrefixOf? r with
      | none =>
          have hne : (root ++ rest == r) = false := by
            rw [beq_eq_false_iff_ne]
            intro heq
            rw [List.isPrefixOf?_eq_some_iff_append_eq.mpr heq] at hr
            cases hr
          rw [hne]
          rfl
      | some tail =>
          obtain rfl := List.isPrefixOf?_eq_some_iff_append_eq.mp hr
          by_cases hrest : rest = tail
          · simp [hrest]
          · have hne : (rest == tail) = false := beq_eq_false_iff_ne.mpr hrest
            have hne' : (root ++ rest == root ++ tail) = false := by simpa using hrest
            simp [List.lookup_cons, hne, hne']

lemma mem_below {rest : Place} : (rest, e) ∈ fs.below p ↔ (p ++ rest, e) ∈ fs := by
  rw [below, List.mem_filterMap]
  constructor
  · rintro ⟨⟨r, f⟩, hb, hrest⟩
    obtain ⟨tail, htail, hpair⟩ := Option.map_eq_some_iff.mp hrest
    obtain ⟨rfl, rfl⟩ := Prod.mk.inj hpair
    rwa [List.isPrefixOf?_eq_some_iff_append_eq.mp htail]
  · intro hb
    exact ⟨_, hb, by rw [List.isPrefixOf?_eq_some_iff_append_eq.mpr rfl]; rfl⟩

lemma get?_append {rest : Place} (hroot : root ≠ []) :
    fs.get? (root ++ rest) = List.lookup rest (fs.below root) := by
  rw [lookup_below, get?_of_ne_nil (by simp [hroot])]

/-- What is below a place below another one. -/
lemma below_append (p q : Place) : fs.below (p ++ q) = below (fs.below p) q := by
  rw [below, below, below, List.filterMap_filterMap]
  refine List.filterMap_congr fun b _ => ?_
  have hrest : (p ++ q).isPrefixOf? b.1 =
      (p.isPrefixOf? b.1).bind fun rest => q.isPrefixOf? rest := by
    refine Option.ext fun rest => ?_
    simp only [Option.bind_eq_some_iff, List.isPrefixOf?_eq_some_iff_append_eq]
    constructor
    · intro h
      exact ⟨q ++ rest, by rw [← h, List.append_assoc], rfl⟩
    · rintro ⟨_, h, rfl⟩
      rw [← h, List.append_assoc]
  rw [hrest]
  cases p.isPrefixOf? b.1 <;> rfl

lemma isPrefixOf?_eq_none_iff : root.isPrefixOf? p = none ↔ ¬ root <+: p := by
  rw [Option.eq_none_iff_forall_ne_some]
  constructor
  · rintro h ⟨rest, hrest⟩
    exact h rest (List.isPrefixOf?_eq_some_iff_append_eq.mpr hrest)
  · intro h rest hrest
    exact h ⟨rest, List.isPrefixOf?_eq_some_iff_append_eq.mp hrest⟩

lemma isPrefixOf_eq_false_iff : root.isPrefixOf p = false ↔ ¬ root <+: p := by
  rw [← Bool.not_eq_true, List.isPrefixOf_iff_prefix]

/-- Whether something is kept does not matter if it is elsewhere. -/
lemma below_filter {keep : Place × Entry → Bool} (h : ∀ b, root <+: b.1 → keep b = true) :
    below (fs.filter keep) root = fs.below root := by
  rw [below, List.filterMap_filter]
  refine List.filterMap_congr fun b _ => ?_
  by_cases hb : root <+: b.1
  · rw [if_pos (h b hb)]
  · rw [isPrefixOf?_eq_none_iff.mpr hb]
    split <;> rfl

/-- Entries elsewhere are not stored below a place. -/
lemma below_put_elsewhere (hp : ¬ root <+: p) : (fs.put p e).below root = fs.below root := by
  rw [put, below_cons, isPrefixOf?_eq_none_iff.mpr hp]
  refine below_filter fun b hb => ?_
  rw [bne_iff_ne]
  rintro rfl
  exact hp hb

lemma below_append_list (fs gs : FileSystem) (root : Place) :
    below (fs ++ gs) root = fs.below root ++ gs.below root :=
  List.filterMap_append

/-! ### Removing -/

lemma remove_eq_self (h : fs.below p = []) : fs.remove p = fs := by
  rw [remove, List.filter_eq_self]
  intro b hb
  rw [Bool.not_eq_true', isPrefixOf_eq_false_iff]
  rintro ⟨rest, hrest⟩
  have hmem : (rest, b.2) ∈ fs.below p := mem_below.mpr (hrest ▸ hb)
  rw [h] at hmem
  exact absurd hmem List.not_mem_nil

lemma remove_put_self : (fs.put p e).remove p = fs.remove p := by
  rw [put, remove, List.filter_cons_of_neg (by simp), remove, List.filter_filter]
  refine List.filter_congr fun b _ => ?_
  by_cases hb : b.1 = p <;> simp [hb]

lemma below_remove_self : (fs.remove p).below p = [] := by
  rw [below, remove, List.filterMap_filter, List.filterMap_eq_nil_iff]
  intro b _
  split
  · rename_i hb
    rw [isPrefixOf?_eq_none_iff.mpr (isPrefixOf_eq_false_iff.mp (by simpa using hb))]
    rfl
  · rfl

lemma below_remove_elsewhere (h : ¬ root <+: p) (h' : ¬ p <+: root) :
    (fs.remove p).below root = fs.below root := by
  refine below_filter fun b hb => ?_
  rw [Bool.not_eq_true', isPrefixOf_eq_false_iff]
  intro hpb
  rcases List.prefix_or_prefix_of_prefix hb hpb with h'' | h''
  · exact h h''
  · exact h' h''

lemma get?_remove_of_not (h : ¬ p <+: q) : (fs.remove p).get? q = fs.get? q := by
  by_cases hq : q = []
  · rw [hq]
    rfl
  · rw [get?_of_ne_nil hq, get?_of_ne_nil hq, remove]
    induction fs with
    | nil => rfl
    | cons b fs ih =>
        obtain ⟨r, f⟩ := b
        by_cases hr : p <+: r
        · have hne : (q == r) = false := by
            rw [beq_eq_false_iff_ne]
            rintro rfl
            exact h hr
          rw [List.filter_cons_of_neg (by simpa using hr), ih, List.lookup_cons, hne]
        · have hkept : p.isPrefixOf r = false := isPrefixOf_eq_false_iff.mpr hr
          rw [List.filter_cons_of_pos (by simp [hkept]), List.lookup_cons, List.lookup_cons, ih]

/-- Removing a place removes all that is below it, and nothing else. -/
lemma get?_remove (hq : q ≠ []) : (fs.remove p).get? q = if p <+: q then none else fs.get? q := by
  split
  · rename_i hwithin
    obtain ⟨rest, rfl⟩ := hwithin
    rw [get?_of_ne_nil hq, ← lookup_below, below_remove_self]
    rfl
  · exact get?_remove_of_not ‹_›

/-! ### Storing a whole tree -/

section Graft

variable {entries : List (Place × Entry)}

lemma below_map_append :
    below (entries.map fun b => (p ++ b.1, b.2)) p = entries := by
  rw [below, List.filterMap_map]
  refine (List.filterMap_congr fun b _ => ?_).trans List.filterMap_some
  rw [Function.comp_apply, List.isPrefixOf?_eq_some_iff_append_eq.mpr rfl]
  rfl

lemma below_map_append_elsewhere (h : ¬ root <+: p) (h' : ¬ p <+: root) :
    below (entries.map fun b => (p ++ b.1, b.2)) root = [] := by
  rw [below, List.filterMap_map, List.filterMap_eq_nil_iff]
  intro b _
  rw [Function.comp_apply, isPrefixOf?_eq_none_iff.mpr]
  · rfl
  · intro hb
    rcases List.prefix_or_prefix_of_prefix hb (List.prefix_append p b.1) with h'' | h''
    · exact h h''
    · exact h' h''

lemma below_graft_self : (fs.graft p entries).below p = entries := by
  rw [graft, below_append_list, below_map_append, below_remove_self, List.append_nil]

lemma below_graft_elsewhere (h : ¬ root <+: p) (h' : ¬ p <+: root) :
    (fs.graft p entries).below root = fs.below root := by
  rw [graft, below_append_list, below_map_append_elsewhere h h', below_remove_elsewhere h h',
    List.nil_append]

lemma remove_graft : (fs.graft p entries).remove p = fs.remove p := by
  have hnone : remove (entries.map fun b => (p ++ b.1, b.2)) p = [] := by
    rw [remove, List.filter_eq_nil_iff]
    intro b hb
    obtain ⟨c, -, rfl⟩ := List.mem_map.mp hb
    simp
  have hself : (fs.remove p).remove p = fs.remove p := remove_eq_self below_remove_self
  rw [graft, remove, List.filter_append, ← remove, ← remove, hnone, hself, List.nil_append]

lemma graft_graft {others : List (Place × Entry)} :
    (fs.graft p others).graft p entries = fs.graft p entries := by
  rw [graft, remove_graft, ← graft]

lemma get?_graft_append {rest : Place} (hp : p ≠ []) :
    (fs.graft p entries).get? (p ++ rest) = List.lookup rest entries := by
  rw [get?_append hp, below_graft_self]

lemma get?_graft_of_not (h : ¬ p <+: q) : (fs.graft p entries).get? q = fs.get? q := by
  by_cases hq : q = []
  · rw [hq]
    rfl
  · have hnone : List.lookup q (entries.map fun b => (p ++ b.1, b.2)) = none := by
      rw [List.lookup_eq_none_iff]
      intro b hb
      obtain ⟨c, -, rfl⟩ := List.mem_map.mp hb
      rw [bne_iff_ne]
      rintro rfl
      exact h (List.prefix_append _ _)
    rw [get?_of_ne_nil hq, graft, List.lookup_append, hnone, Option.none_or,
      ← get?_of_ne_nil hq, get?_remove_of_not h]

end Graft

/-! ### Growth -/

/-- Everything that is there stays there. -/
def Grown (fs gs : FileSystem) : Prop :=
  ∀ p e, fs.get? p = some e → gs.get? p = some e

lemma Grown.refl (fs : FileSystem) : Grown fs fs := fun _ _ h => h

lemma Grown.trans (h : Grown fs gs) (h' : Grown gs hs) : Grown fs hs :=
  fun p e hp => h' p e (h p e hp)

lemma Grown.ne_none (h : Grown fs gs) (hp : fs.get? p ≠ none) : gs.get? p ≠ none := by
  obtain ⟨e, he⟩ := Option.ne_none_iff_exists'.mp hp
  rw [h p e he]
  exact Option.some_ne_none _

lemma Grown.eq_none (h : Grown fs gs) (hp : gs.get? p = none) : fs.get? p = none := by
  by_contra hne
  exact h.ne_none hne hp

/-- Whatever is stored is stored in something. -/
def Covered (fs : FileSystem) : Prop :=
  ∀ b ∈ fs, fs.get? b.1.dropLast ≠ none

instance (fs : FileSystem) : Decidable (Covered fs) :=
  inferInstanceAs (Decidable (∀ b ∈ fs, fs.get? b.1.dropLast ≠ none))

lemma Covered.get?_dropLast (h : Covered fs) (hp : fs.get? p ≠ none) :
    fs.get? p.dropLast ≠ none := by
  by_cases hnil : p = []
  · rw [hnil]
    exact Option.some_ne_none _
  · rw [get?_of_ne_nil hnil] at hp
    obtain ⟨e, he⟩ := Option.ne_none_iff_exists'.mp hp
    obtain ⟨l₁, l₂, hfs, -⟩ := List.lookup_eq_some_iff.mp he
    exact h (p, e) (by simp [hfs])

/-- There is nothing below a free place. -/
lemma Covered.get?_below (h : Covered fs) (hp : fs.get? p = none) (q : Place) :
    fs.get? (p ++ q) = none := by
  induction q using List.reverseRecOn with
  | nil => rwa [List.append_nil]
  | append_singleton q c ih =>
      by_contra hne
      have hparent := h.get?_dropLast hne
      rw [← List.append_assoc, List.dropLast_concat] at hparent
      exact hparent ih

lemma Covered.put (h : Covered fs) (hp : fs.get? p.dropLast ≠ none) : Covered (fs.put p e) := by
  intro b hb
  rcases List.mem_cons.mp hb with rfl | hb
  · exact get?_put_ne_none hp
  · exact get?_put_ne_none (h b (List.mem_filter.mp hb).1)

lemma Covered.below_eq_nil (h : Covered fs) (hp : fs.get? p = none) : fs.below p = [] := by
  rw [List.eq_nil_iff_forall_not_mem]
  rintro ⟨rest, e⟩ hmem
  have hget : fs.get? (p ++ rest) = List.lookup rest (fs.below p) :=
    get?_append (ne_nil_of_get?_eq_none hp)
  rw [h.get?_below hp] at hget
  have hnone := List.lookup_eq_none_iff.mp hget.symm (rest, e) hmem
  simp at hnone

/-! ### Storing entries at free places -/

/-- Entries that satisfy `P` were stored at places that had been free, and nothing else changed. -/
structure Stored (P : Place → Entry → Prop) (fs gs : FileSystem) : Prop where
  get? : ∀ q, gs.get? q = fs.get? q ∨ fs.get? q = none ∧ ∃ e, P q e ∧ gs.get? q = some e
  covered : Covered fs → Covered gs
  below_eq : ∀ root, (∀ q e, P q e → ¬ root <+: q) → gs.below root = fs.below root

namespace Stored

variable {P Q : Place → Entry → Prop}

lemma refl : Stored P fs fs :=
  ⟨fun _ => .inl rfl, id, fun _ _ => rfl⟩

lemma grown (h : Stored P fs gs) : Grown fs gs := by
  intro q e hq
  rcases h.get? q with heq | ⟨hfree, -⟩
  · rwa [heq]
  · rw [hfree] at hq
    cases hq

lemma mono (h : Stored P fs gs) (hPQ : ∀ q e, P q e → Q q e) : Stored Q fs gs := by
  refine ⟨fun q => ?_, h.covered, fun root hroot => h.below_eq root fun q e hq => ?_⟩
  · exact (h.get? q).imp_right fun ⟨hfree, e, he, hget⟩ => ⟨hfree, e, hPQ q e he, hget⟩
  · exact hroot q e (hPQ q e hq)

lemma trans (h : Stored P fs gs) (h' : Stored P gs hs) : Stored P fs hs := by
  refine ⟨fun q => ?_, h'.covered ∘ h.covered, fun root hroot => ?_⟩
  · rcases h'.get? q with heq | ⟨hfree, hnew⟩
    · rw [heq]
      exact h.get? q
    · exact .inr ⟨h.grown.eq_none hfree, hnew⟩
  · rw [h'.below_eq root hroot, h.below_eq root hroot]

/-- One entry is stored in something. -/
lemma put (hq : P q e) (hfree : fs.get? q = none) (hparent : fs.get? q.dropLast ≠ none) :
    Stored P fs (fs.put q e) := by
  refine ⟨fun r => ?_, fun h => h.put hparent, fun root hroot => ?_⟩
  · by_cases hr : r = q
    · rw [hr]
      exact .inr ⟨hfree, e, hq, get?_put_self (ne_nil_of_get?_eq_none hfree)⟩
    · exact .inl (get?_put_of_ne hr)
  · exact below_put_elsewhere (hroot q e hq)

end Stored

/-! ### Trees -/

section Lay

variable {t : Tree}

lemma lookup_checkedOut {rest : Place} (h : List.lookup rest t.checkedOut = some e) :
    rest = [] ∨ List.lookup rest.dropLast t.checkedOut ≠ none := by
  by_cases hnil : rest = []
  · exact .inl hnil
  · refine .inr ?_
    by_cases hdrop : rest.dropLast = []
    · rw [hdrop]
      exact Option.some_ne_none _
    · have hne : rest ≠ [repositoryName] := by
        rintro rfl
        exact hdrop rfl
      have hmem : ∃ f, (rest, f) ∈ t.entries := by
        rw [Tree.checkedOut, List.lookup_cons, List.lookup_cons,
          beq_eq_false_iff_ne.mpr hnil, beq_eq_false_iff_ne.mpr hne] at h
        obtain ⟨l₁, l₂, hsplit, -⟩ := List.lookup_eq_some_iff.mp h
        exact ⟨e, by simp [hsplit]⟩
      obtain ⟨f, hf⟩ := hmem
      have hparent := ((t.fits _ hf).parent).resolve_left hdrop
      have hout : rest.dropLast ≠ [repositoryName] := by
        intro heq
        refine (t.fits _ hf).outside ?_
        rw [← List.dropLast_concat_getLast hnil, heq]
        rfl
      rw [Tree.checkedOut, List.lookup_cons, List.lookup_cons,
        beq_eq_false_iff_ne.mpr hdrop, beq_eq_false_iff_ne.mpr hout]
      dsimp only at hparent ⊢
      rw [hparent]
      exact Option.some_ne_none _

lemma lay_eq (h : fs.below p = []) :
    fs.lay p t = t.checkedOut.map (fun b => (p ++ b.1, b.2)) ++ fs := by
  rw [lay, graft, remove_eq_self h]

lemma below_lay_self : (fs.lay p t).below p = t.checkedOut :=
  below_graft_self

lemma get?_lay_self (hp : p ≠ []) : (fs.lay p t).get? p = some .directory := by
  have h : (fs.lay p t).get? (p ++ []) = List.lookup [] t.checkedOut := get?_graft_append hp
  rwa [List.append_nil] at h

/-- A tree is stored at a free place. -/
lemma Stored.lay {P : Place → Entry → Prop} (hfs : Covered fs) (hfree : fs.get? p = none)
    (hparent : fs.get? p.dropLast ≠ none)
    (hP : ∀ rest e, P (p ++ rest) e) : Stored P fs (fs.lay p t) := by
  have hne := ne_nil_of_get?_eq_none hfree
  have hget : ∀ q, (fs.lay p t).get? q = fs.get? q ∨
      fs.get? q = none ∧ ∃ e, P q e ∧ (fs.lay p t).get? q = some e := by
    intro q
    by_cases hq : p <+: q
    · obtain ⟨rest, rfl⟩ := hq
      have hlaid : (fs.lay p t).get? (p ++ rest) = List.lookup rest t.checkedOut :=
        get?_graft_append hne
      rw [hlaid, hfs.get?_below hfree]
      cases hrest : List.lookup rest t.checkedOut with
      | none => exact .inl rfl
      | some e => exact .inr ⟨rfl, e, hP rest e, rfl⟩
    · exact .inl (get?_graft_of_not hq)
  refine ⟨hget, fun _ b hb => ?_, fun root h => ?_⟩
  · -- the parent of an entry is in the tree, or it is the one of the tree itself
    rw [lay_eq (hfs.below_eq_nil hfree)] at hb
    rcases List.mem_append.mp hb with hb | hb
    · obtain ⟨⟨rest, f⟩, hmem, rfl⟩ := List.mem_map.mp hb
      dsimp only
      by_cases hnil : rest = []
      · rw [hnil, List.append_nil, FileSystem.lay, get?_graft_of_not]
        · exact hparent
        · intro hwithin
          have hlength := hwithin.length_le
          rw [List.length_dropLast] at hlength
          have hpos := List.length_pos_of_ne_nil hne
          omega
      · rw [List.dropLast_append_of_ne_nil hnil, FileSystem.lay, get?_graft_append hne]
        have hsome : ∃ g, List.lookup rest t.checkedOut = some g := by
          rw [← Option.ne_none_iff_exists', ne_eq, List.lookup_eq_none_iff]
          intro hnone
          simpa using hnone (rest, f) hmem
        obtain ⟨g, hg⟩ := hsome
        exact (lookup_checkedOut hg).resolve_left hnil
    · rcases hget b.1.dropLast with heq | ⟨-, e, -, heq⟩
      · rw [heq]
        exact hfs b hb
      · rw [heq]
        exact Option.some_ne_none _
  · refine below_graft_elsewhere (fun hroot => ?_) fun hroot => ?_
    · exact h (p ++ []) .directory (hP [] _) (by rwa [List.append_nil])
    · obtain ⟨rest, rfl⟩ := hroot
      exact h (p ++ rest) .directory (hP rest _) (List.prefix_refl _)

end Lay

end PocketScheme.FileSystem
