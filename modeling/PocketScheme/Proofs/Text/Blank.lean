import PocketScheme.Text.Blank
import Mathlib.Data.List.DropRight
import Mathlib.Tactic.Common

/-!
Texts without the blanks around them.

* `trim_eq_self`, `trim_trim`: texts that are kept as they are;
* `firstGlyph?`, `head?_trim_eq`: what is left starts with the first glyph that is not blank.
-/

namespace PocketScheme.Text

lemma append_assoc (s t u : Text) : s ++ t ++ u = s ++ (t ++ u) :=
  congrArg ofList (List.append_assoc _ _ _)

lemma ofString_append (s t : String) : ofString (s ++ t) = ofString s ++ ofString t := by
  rw [ofString, ofChars, String.toList_append, List.map_append]
  rfl

lemma append_empty (t : Text) : t ++ ofString "" = t :=
  congrArg ofList (List.append_nil _)

lemma trim_eq (t : Text) :
    t.trim = ⟨(t.toList.dropWhile isBlankGlyph).rdropWhile isBlankGlyph⟩ := rfl

lemma dropWhile_of_head? {t : Text} (hhead : ∀ g ∈ t.toList.head?, isBlankGlyph g = false) :
    t.toList.dropWhile isBlankGlyph = t.toList := by
  rw [List.dropWhile_eq_self_iff]
  intro hl
  rw [hhead _ (by rw [List.head?_eq_getElem?, List.getElem?_eq_getElem hl]; rfl)]
  simp

lemma trim_eq_self {t : Text} (hhead : ∀ g ∈ t.toList.head?, isBlankGlyph g = false)
    (hlast : ∀ g ∈ t.toList.getLast?, isBlankGlyph g = false) : t.trim = t := by
  have hback : t.toList.rdropWhile isBlankGlyph = t.toList := by
    rw [List.rdropWhile_eq_self_iff]
    intro hl
    rw [hlast _ (List.getLast?_eq_some_getLast hl)]
    simp
  rw [trim_eq, dropWhile_of_head? hhead, hback]

lemma trim_eq_self_of_forall {t : Text} (h : ∀ g ∈ t.toList, isBlankGlyph g = false) : t.trim = t :=
  trim_eq_self (fun g hg => h g (List.mem_of_mem_head? hg))
    fun g hg => h g (List.mem_of_getLast? hg)

/-- Blanks at the end do not change how a text starts. -/
lemma startsWith_trim {t front : Text} (hhead : ∀ g ∈ t.toList.head?, isBlankGlyph g = false)
    (h : t.startsWith front = false) : t.trim.startsWith front = false := by
  rw [startsWith, Bool.eq_false_iff, ne_eq, List.isPrefixOf_iff_prefix] at h ⊢
  rw [trim_eq, dropWhile_of_head? hhead]
  exact fun hfront => h (hfront.trans (List.rdropWhile_prefix _ _))

lemma startsWith_append (front t : Text) : (front ++ t).startsWith front = true := by
  rw [startsWith, List.isPrefixOf_iff_prefix]
  exact List.prefix_append _ _

/-- Nor do they, if the text starts with something that has no blanks. -/
lemma startsWith_trim_of_forall {t front : Text}
    (hfront : ∀ g ∈ front.toList, isBlankGlyph g = false)
    (h : t.startsWith front = true) : t.trim.startsWith front = true := by
  rw [startsWith, List.isPrefixOf_iff_prefix] at h ⊢
  rcases hg : front.toList with _ | ⟨g, gs⟩
  · exact List.nil_prefix
  have hself : front.toList.rdropWhile isBlankGlyph = front.toList := by
    rw [List.rdropWhile_eq_self_iff]
    intro hne
    rw [hfront _ (List.getLast_mem hne)]
    simp
  rw [← hg]
  obtain ⟨rest, hrest⟩ := h
  have hhead : ∀ f ∈ t.toList.head?, isBlankGlyph f = false := by
    rw [← hrest, hg]
    intro f hf
    obtain rfl := Option.some.inj hf
    exact hfront _ (by simp [hg])
  have hback : (front.toList ++ rest).rdropWhile isBlankGlyph =
      if (rest.rdropWhile isBlankGlyph).isEmpty then front.toList.rdropWhile isBlankGlyph
      else front.toList ++ rest.rdropWhile isBlankGlyph := by
    simp only [List.rdropWhile, List.reverse_append, List.dropWhile_append, List.isEmpty_reverse]
    split <;> simp
  rw [trim_eq, dropWhile_of_head? hhead, ← hrest]
  dsimp only
  rw [hback, hself]
  split
  · exact List.prefix_refl _
  · exact List.prefix_append _ _

/-- The first glyph that is not blank. -/
def firstGlyph? (t : Text) : Option Glyph :=
  t.toList.find? fun g => !isBlankGlyph g

lemma firstGlyph?_eq_head? (t : Text) :
    t.firstGlyph? = (t.toList.dropWhile isBlankGlyph).head? := by
  rw [firstGlyph?, List.find?_not_eq_head?_dropWhile]

lemma firstGlyph?_append {s : Text} (hs : s.isAllBlank = false) (t : Text) :
    (s ++ t).firstGlyph? = s.firstGlyph? := by
  rw [isAllBlank, List.all_eq_false] at hs
  obtain ⟨g, hg, hblank⟩ := hs
  have hsome : (s.toList.find? fun g => !isBlankGlyph g).isSome := by
    rw [List.find?_isSome]
    exact ⟨g, hg, by simpa using hblank⟩
  rw [firstGlyph?, firstGlyph?, toList_append, List.find?_append, Option.or_of_isSome hsome]

/-- What is left starts with the first glyph that is not blank. -/
lemma head?_trim_eq (t : Text) : t.trim.toList.head? = t.firstGlyph? := by
  rw [firstGlyph?_eq_head?, trim_eq]
  rcases hl : t.toList.dropWhile isBlankGlyph with _ | ⟨g, l⟩
  · rfl
  · have hg : isBlankGlyph g = false := by
      have hhead := List.head?_dropWhile_not isBlankGlyph t.toList
      rw [hl] at hhead
      exact hhead
    obtain ⟨rest, hrest⟩ := List.rdropWhile_prefix isBlankGlyph (l := g :: l)
    have hne : (g :: l).rdropWhile isBlankGlyph ≠ [] := by
      rw [ne_eq, List.rdropWhile_eq_nil_iff]
      intro hall
      rw [hall g List.mem_cons_self] at hg
      exact Bool.noConfusion hg
    nth_rewrite 2 [← hrest]
    rw [List.head?_append_of_ne_nil _ hne]

lemma head?_trim (t : Text) : ∀ g ∈ t.trim.toList.head?, isBlankGlyph g = false := by
  intro g hg
  rw [head?_trim_eq] at hg
  simpa using List.find?_some hg

/-- The last glyph that is left is not blank. -/
lemma getLast?_trim (t : Text) : ∀ g ∈ t.trim.toList.getLast?, isBlankGlyph g = false := by
  intro g hg
  have hne : t.trim.toList ≠ [] := by
    intro hnil
    rw [hnil] at hg
    cases hg
  have hnot := List.rdropWhile_last_not isBlankGlyph _ hne
  rw [List.getLast?_eq_some_getLast hne] at hg
  obtain rfl := Option.some.inj hg
  rw [Bool.not_eq_true] at hnot
  exact hnot

lemma trim_trim (t : Text) : t.trim.trim = t.trim :=
  trim_eq_self (head?_trim t) (getLast?_trim t)

end PocketScheme.Text
