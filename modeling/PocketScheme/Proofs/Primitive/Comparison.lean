import PocketScheme.Proofs.Primitive.Arguments
import Mathlib

/-!
Chains of comparisons. A builtin compares neighbours only and stops at the first pair that fails. On
integers the relations are transitive, so that it speaks of all pairs; on numbers with doubles among
them it can still be read from the other end.

* `Primitive.chain_iff`: a chain, in terms of neighbours;
* `Primitive.Orders`: a comparison of integers that is a transitive relation;
* `Orders.chain_iff_pairwise`: neighbours are enough;
* `Primitive.chain_gt`: a decreasing chain is an increasing one from its end;
* `Primitive.comparison_chains`: what the three comparisons say.
-/

namespace PocketScheme.Primitive

lemma chain_iff (rel : Number → Number → Bool) (ns : List Number) :
    chain rel ns = true ↔ ns.IsChain fun a b => rel a b = true := by
  induction ns with
  | nil => simp [chain]
  | cons a ns ih =>
      cases ns with
      | nil => simp [chain]
      | cons b ns => rw [chain, Bool.and_eq_true, ih, List.isChain_cons_cons]

/-! ### Integers -/

/-- The comparison of numbers is a transitive relation on integers. -/
structure Orders (rel : Number → Number → Bool) (R : Int → Int → Prop) : Prop where
  rel_iff : ∀ x y : Int64, rel (.int x) (.int y) = true ↔ R x.toInt y.toInt
  trans : ∀ i j k, R i j → R j k → R i k

lemma orders_lt : Orders Number.lt (· < ·) where
  rel_iff x y := by
    show decide (x < y) = true ↔ x.toInt < y.toInt
    rw [decide_eq_true_iff, Int64.lt_iff_toInt_lt]
  trans _ _ _ := lt_trans

lemma orders_gt : Orders Number.gt (· > ·) where
  rel_iff x y := orders_lt.rel_iff y x
  trans _ _ _ := gt_trans

lemma orders_eq : Orders Number.eq (· = ·) where
  rel_iff x y := by
    show (x == y) = true ↔ x.toInt = y.toInt
    rw [beq_iff_eq, Int64.toInt_inj]
  trans _ _ _ := Eq.trans

namespace Orders

variable {rel : Number → Number → Bool} {R : Int → Int → Prop} (h : Orders rel R)

include h

/-- Neighbours in the relation bring all pairs into it. -/
lemma chain_iff_pairwise (xs : List Int64) :
    chain rel (xs.map .int) = true ↔ (xs.map Int64.toInt).Pairwise R := by
  have : Trans R R R := ⟨h.trans _ _ _⟩
  rw [chain_iff, List.isChain_map, ← List.isChain_iff_pairwise, List.isChain_map]
  simp only [h.rel_iff]

end Orders

lemma compareChain_integers (rel : Number → Number → Bool) (xs : List Int64) :
    compareChain rel (xs.map integer) = .ok (.boolean (chain rel (xs.map .int))) := by
  rw [← compareChain_numbers, List.map_map]
  rfl

/-- The answer of the builtin on integers says whether all pairs of positions are in the relation,
the earlier one first. -/
def ComparesAll (p : Primitive) (R : Int → Int → Prop) : Prop :=
  ∀ xs : List Int64, ∃ b, p.apply (xs.map integer) = .ok (.boolean b) ∧
    (b = true ↔ ∀ i j : Fin xs.length, i < j → R (xs.get i).toInt (xs.get j).toInt)

lemma Orders.comparesAll {p : Primitive} {rel : Number → Number → Bool} {R : Int → Int → Prop}
    (h : Orders rel R) (hp : p.apply = compareChain rel) : ComparesAll p R := by
  intro xs
  refine ⟨_, by rw [hp, compareChain_integers], ?_⟩
  rw [h.chain_iff_pairwise, List.pairwise_map, List.pairwise_iff_get]

/-- Integers that are all equal are so in any order. -/
lemma chain_eq_perm {xs ys : List Int64} (h : xs.Perm ys) :
    chain Number.eq (xs.map .int) = chain Number.eq (ys.map .int) := by
  rw [Bool.eq_iff_iff, orders_eq.chain_iff_pairwise, orders_eq.chain_iff_pairwise]
  exact (h.map Int64.toInt).pairwise_iff Eq.symm

/-! ### Integers and doubles -/

lemma gt_eq_lt (a b : Number) : a.gt b = b.lt a := by
  cases a <;> cases b <;> rfl

/-- A decreasing chain is an increasing one from its end. -/
lemma chain_gt (ns : List Number) : chain Number.gt ns = chain Number.lt ns.reverse := by
  rw [Bool.eq_iff_iff, chain_iff, chain_iff, List.isChain_reverse]
  simp only [gt_eq_lt]

/-- **Comparisons of neighbours**. A comparison of integers is true exactly if all pairs of them are
in the relation, not only neighbours. So the order of integers does not matter to their equality,
and integers are less than one another exactly if they increase strictly. Numbers of both kinds are
greater than one another exactly if they are less than one another in reverse order. -/
theorem comparison_chains :
    ComparesAll lt (· < ·) ∧ ComparesAll gt (· > ·) ∧ ComparesAll eq (· = ·) ∧
    (∀ xs ys : List Int64, xs.Perm ys → eq.apply (xs.map integer) = eq.apply (ys.map integer)) ∧
    (∀ xs : List Int64,
      lt.apply (xs.map integer) = .ok (.boolean true) ↔ (xs.map Int64.toInt).SortedLT) ∧
    (∀ ns : List Number, gt.apply (ns.map .number) = lt.apply (ns.reverse.map .number)) := by
  refine ⟨orders_lt.comparesAll rfl, orders_gt.comparesAll rfl, orders_eq.comparesAll rfl,
    fun xs ys hperm => ?_, fun xs => ?_, fun ns => ?_⟩
  · rw [apply, apply, compareChain_integers, compareChain_integers, chain_eq_perm hperm]
  · rw [apply, compareChain_integers, List.sortedLT_iff_pairwise, ← orders_lt.chain_iff_pairwise]
    simp
  · rw [apply, apply, compareChain_numbers, compareChain_numbers, chain_gt]

/-- Neighbours that differ are found wherever they stand, and an increasing list with a double in it
is a decreasing one from its end. -/
theorem comparison_chains_mixed :
    eq.apply [integer 1, integer 1, integer 2] = eq.apply [integer 1, integer 2, integer 1] ∧
    lt.apply [integer (-1), integer 0, integer 3] = .ok (.boolean true) ∧
    gt.apply [integer 2, .number (.float 0.5), integer (-1)] =
      lt.apply [integer (-1), .number (.float 0.5), integer 2] := by
  obtain ⟨-, -, -, hperm, hsorted, hreverse⟩ := comparison_chains
  refine ⟨hperm [1, 1, 2] [1, 2, 1] (by decide), (hsorted [-1, 0, 3]).mpr ?_,
    hreverse [.int 2, .float 0.5, .int (-1)]⟩
  rw [List.sortedLT_iff_pairwise]
  decide

end PocketScheme.Primitive
