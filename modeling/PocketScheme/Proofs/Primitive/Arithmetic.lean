import PocketScheme.Proofs.Primitive
import Mathlib

/-!
Sums, products and differences of any number of operands.

* `Number.KeepsKind`: an operation that is exact on exact operands, and on no others;
* `Primitive.apply_add`, `Primitive.apply_mul`, `Primitive.apply_sub`: the builtins on numbers, as
  folds;
* `Primitive.add_reduced`, `Primitive.mul_reduced`, `Primitive.sub_reduced`: on integers, one
  reduction of the unbounded result does for all the steps;
* `Grouping`: operands in nested calls of one builtin;
* `Primitive.arithmetic_wraps`: kinds, values, order and grouping of operands.
-/

namespace PocketScheme

/-! ### Kinds of results -/

namespace Number

/-- The operation is exact on exact operands, and on no others. -/
def KeepsKind (op : Number → Number → Number) : Prop :=
  ∀ a b, (op a b).isExact = (a.isExact && b.isExact)

lemma keepsKind_add : KeepsKind add := by
  rintro (a | a) (b | b) <;> rfl

lemma keepsKind_sub : KeepsKind sub := by
  rintro (a | a) (b | b) <;> rfl

lemma keepsKind_mul : KeepsKind mul := by
  rintro (a | a) (b | b) <;> rfl

lemma isExact_neg (a : Number) : a.neg.isExact = a.isExact := by
  cases a <;> rfl

/-- One double among the operands is enough. -/
lemma KeepsKind.foldl {op : Number → Number → Number} (h : KeepsKind op) (acc : Number)
    (ns : List Number) : (ns.foldl op acc).isExact = (acc.isExact && ns.all isExact) := by
  induction ns generalizing acc with
  | nil => simp
  | cons n ns ih => rw [List.foldl_cons, ih, h, List.all_cons, Bool.and_assoc]

end Number

namespace Primitive

/-! ### Builtins on numbers -/

/-- A fold over numbers succeeds. -/
lemma fold_numbers (op : Number → Number → Number) (acc : Number) (ns : List Number) :
    fold op acc (ns.map .number) = .ok (.number (ns.foldl op acc)) := by
  induction ns generalizing acc with
  | nil => rfl
  | cons n ns ih => exact ih (op acc n)

lemma apply_add (ns : List Number) :
    add.apply (ns.map .number) = .ok (.number (ns.foldl Number.add (.int 0))) :=
  fold_numbers Number.add _ ns

lemma apply_mul (ns : List Number) :
    mul.apply (ns.map .number) = .ok (.number (ns.foldl Number.mul (.int 1))) :=
  fold_numbers Number.mul _ ns

/-- A single number is negated. -/
lemma apply_sub (n : Number) (ns : List Number) :
    sub.apply ((n :: ns).map .number) =
      .ok (.number (if ns.isEmpty then n.neg else ns.foldl Number.sub n)) := by
  cases ns with
  | nil => rfl
  | cons n' ns => exact fold_numbers Number.sub n (n' :: ns)

/-! ### Integers -/

/-- An exact integer as an operand. -/
def integer (x : Int64) : Expr :=
  .number (.int x)

/-- The exact integer that an unbounded one is reduced to. -/
def reduced (i : Int) : Expr :=
  integer (.ofInt i)

lemma integer_eq_reduced (x : Int64) : integer x = reduced x.toInt := by
  rw [reduced, Int64.ofInt_toInt]

lemma map_integer (xs : List Int64) : xs.map integer = (xs.map Int64.toInt).map reduced := by
  rw [List.map_map]
  exact List.map_congr_left fun x _ => integer_eq_reduced x

lemma map_reduced (is : List Int) :
    is.map reduced = (is.map fun i => Number.int (.ofInt i)).map .number := by
  rw [List.map_map]
  rfl

/-- An operation on integers that is that of unbounded ones, up to multiples of the word size. -/
def Reduces (op : Number → Number → Number) (whole : Int → Int → Int) : Prop :=
  ∀ i j, op (.int (.ofInt i)) (.int (.ofInt j)) = .int (.ofInt (whole i j))

lemma reduces_add : Reduces Number.add (· + ·) :=
  fun i j => congrArg Number.int (Int64.ofInt_add i j).symm

lemma reduces_sub : Reduces Number.sub (· - ·) :=
  fun i j => congrArg Number.int (Int64.ofInt_sub i j).symm

lemma reduces_mul : Reduces Number.mul (· * ·) :=
  fun i j => congrArg Number.int (Int64.ofInt_mul i j).symm

/-- Reducing at every step comes to reducing once at the end. -/
lemma Reduces.foldl {op : Number → Number → Number} {whole : Int → Int → Int} (h : Reduces op whole)
    (i : Int) (is : List Int) :
    (is.map fun i => Number.int (.ofInt i)).foldl op (.int (.ofInt i)) =
      .int (.ofInt (is.foldl whole i)) := by
  induction is generalizing i with
  | nil => rfl
  | cons j is ih => rw [List.map_cons, List.foldl_cons, h, ih, List.foldl_cons]

/-- The sum of integers, reduced once. -/
lemma add_reduced (is : List Int) : add.apply (is.map reduced) = .ok (reduced is.sum) := by
  rw [map_reduced, apply_add, show (0 : Int64) = .ofInt 0 from rfl, reduces_add.foldl,
    ← List.sum_eq_foldl]
  rfl

/-- The product of integers, reduced once. -/
lemma mul_reduced (is : List Int) : mul.apply (is.map reduced) = .ok (reduced is.prod) := by
  rw [map_reduced, apply_mul, show (1 : Int64) = .ofInt 1 from rfl, reduces_mul.foldl,
    ← List.prod_eq_foldl]
  rfl

lemma foldl_sub (is : List Int) (i : Int) : is.foldl (· - ·) i = i - is.sum := by
  induction is generalizing i with
  | nil => simp
  | cons j is ih => rw [List.foldl_cons, ih, List.sum_cons, Int.sub_sub]

/-- The difference of integers, reduced once. -/
lemma sub_reduced (i : Int) (is : List Int) :
    sub.apply ((i :: is).map reduced) = .ok (reduced (if is.isEmpty then -i else i - is.sum)) := by
  rw [map_reduced, List.map_cons, apply_sub, List.isEmpty_map]
  split
  · rw [reduced, Int64.ofInt_neg]
    rfl
  · rw [reduces_sub.foldl, foldl_sub]
    rfl

end Primitive

/-! ### Order and grouping -/

/-- Operands in nested calls of one builtin. -/
inductive Grouping where
  | operand (x : Int64)
  | call (parts : List Grouping)

namespace Grouping

mutual

/-- The operands from left to right. -/
def operands : Grouping → List Int64
  | operand x => [x]
  | call parts => operandsOf parts

/-- The operands of several parts. -/
def operandsOf : List Grouping → List Int64
  | [] => []
  | part :: parts => part.operands ++ operandsOf parts

end

mutual

/-- What the calls come to, the inner ones first. -/
def value (p : Primitive) : Grouping → Except Fault Expr
  | operand x => .ok (Primitive.integer x)
  | call parts => do
    let args ← valuesOf p parts
    p.apply args

/-- What several parts come to. -/
def valuesOf (p : Primitive) : List Grouping → Except Fault (List Expr)
  | [] => .ok []
  | part :: parts => do
    let v ← part.value p
    let vs ← valuesOf p parts
    return v :: vs

end

end Grouping

namespace Primitive

/-- The builtin reduces the total of its operands, and totals can be taken in any order and in
parts. -/
structure Totals (p : Primitive) (total : List Int → Int) (join : Int → Int → Int) : Prop where
  apply : ∀ is, p.apply (is.map reduced) = .ok (reduced (total is))
  singleton : ∀ i, total [i] = i
  append : ∀ is js, total (is ++ js) = join (total is) (total js)
  perm : ∀ is js : List Int, is.Perm js → total is = total js

lemma totals_add : Totals add List.sum (· + ·) :=
  ⟨add_reduced, fun _ => List.sum_singleton, fun _ _ => List.sum_append, fun _ _ h => h.sum_eq⟩

lemma totals_mul : Totals mul List.prod (· * ·) :=
  ⟨mul_reduced, fun _ => List.prod_singleton, fun _ _ => List.prod_append, fun _ _ h => h.prod_eq⟩

namespace Totals

variable {p : Primitive} {total : List Int → Int} {join : Int → Int → Int} (h : Totals p total join)

include h

/-- Parts come to integers whose total is that of all operands, if each of them does. -/
lemma valuesOf_eq {parts : List Grouping}
    (hparts : ∀ g ∈ parts, g.value p = .ok (reduced (total (g.operands.map Int64.toInt)))) :
    ∃ is, Grouping.valuesOf p parts = .ok (is.map reduced) ∧
      total is = total ((Grouping.operandsOf parts).map Int64.toInt) := by
  induction parts with
  | nil => exact ⟨[], rfl, rfl⟩
  | cons part parts ih =>
      obtain ⟨is, his, htotal⟩ := ih fun g hg => hparts g (List.mem_cons_of_mem _ hg)
      refine ⟨total (part.operands.map Int64.toInt) :: is, ?_, ?_⟩
      · rw [Grouping.valuesOf, hparts part List.mem_cons_self, his]
        rfl
      · rw [Grouping.operandsOf, List.map_append, ← List.singleton_append, h.append, h.append,
          h.singleton, htotal]

/-- Nested calls come to the total of all operands. -/
lemma value_eq : ∀ g : Grouping,
    g.value p = .ok (reduced (total (g.operands.map Int64.toInt)))
  | .operand x => by
      rw [Grouping.value, Grouping.operands, List.map_singleton, h.singleton, integer_eq_reduced]
  | .call parts => by
      obtain ⟨is, his, htotal⟩ := h.valuesOf_eq fun g (_ : g ∈ parts) => value_eq g
      rw [Grouping.value, Grouping.operands, his, ← htotal]
      exact h.apply is

/-- Neither the order of operands nor their grouping matters. -/
lemma value_eq_apply {g : Grouping} {xs : List Int64} (hxs : g.operands.Perm xs) :
    g.value p = p.apply (xs.map integer) := by
  rw [h.value_eq, map_integer, h.apply, h.perm _ _ (hxs.map Int64.toInt)]

end Totals

/-- **Arithmetic wraps, and doubles spread**. The result of a sum, a product or a difference, the
latter of one or more numbers, is an exact integer if all operands are, and otherwise a double. On
integers it is the unbounded sum, product or difference, reduced once to the range of 64 bits; a
single operand of a difference is negated. Integers can be added and multiplied in any order and in
any nested calls. -/
theorem arithmetic_wraps :
    (∀ p ∈ [add, mul, sub], ∀ ns : List Number, (p = sub → ns ≠ []) →
      ∃ r, p.apply (ns.map .number) = .ok (.number r) ∧
        (r.isExact = true ↔ ∀ n ∈ ns, n.isExact = true)) ∧
    (∀ xs : List Int64,
      (∃ v, add.apply (xs.map integer) = .ok (integer v) ∧
        v.toInt = (xs.map Int64.toInt).sum.bmod Int64.size) ∧
      (∃ v, mul.apply (xs.map integer) = .ok (integer v) ∧
        v.toInt = (xs.map Int64.toInt).prod.bmod Int64.size) ∧
      ∀ x, ∃ v, sub.apply ((x :: xs).map integer) = .ok (integer v) ∧
        v.toInt =
          (if xs.isEmpty then -x.toInt else x.toInt - (xs.map Int64.toInt).sum).bmod Int64.size) ∧
    (∀ p ∈ [add, mul], ∀ (g : Grouping) (xs : List Int64), g.operands.Perm xs →
      g.value p = p.apply (xs.map integer)) := by
  refine ⟨fun p hp ns hne => ?_, fun xs => ⟨?_, ?_, fun x => ?_⟩, fun p hp g xs hxs => ?_⟩
  · simp only [List.mem_cons, List.not_mem_nil, or_false] at hp
    rcases hp with rfl | rfl | rfl
    · refine ⟨_, apply_add ns, ?_⟩
      rw [Number.keepsKind_add.foldl, Bool.and_eq_true, List.all_eq_true]
      exact and_iff_right rfl
    · refine ⟨_, apply_mul ns, ?_⟩
      rw [Number.keepsKind_mul.foldl, Bool.and_eq_true, List.all_eq_true]
      exact and_iff_right rfl
    · obtain ⟨n, ns, rfl⟩ := List.exists_cons_of_ne_nil (hne rfl)
      refine ⟨_, apply_sub n ns, ?_⟩
      split
      · rename_i hnil
        simp [List.isEmpty_iff.mp hnil, Number.isExact_neg]
      · simp [Number.keepsKind_sub.foldl]
  · exact ⟨_, by rw [map_integer, add_reduced, reduced], Int64.toInt_ofInt⟩
  · exact ⟨_, by rw [map_integer, mul_reduced, reduced], Int64.toInt_ofInt⟩
  · refine ⟨_, by rw [map_integer, List.map_cons, sub_reduced, reduced], ?_⟩
    rw [Int64.toInt_ofInt, List.isEmpty_map]
  · simp only [List.mem_cons, List.not_mem_nil, or_false] at hp
    rcases hp with rfl | rfl
    · exact totals_add.value_eq_apply hxs
    · exact totals_mul.value_eq_apply hxs

/-- The largest integer, twice, and two come to zero, in two calls as in one. The least integer is
its own negative. One double makes a difference inexact. -/
theorem arithmetic_wraps_at_limits :
    (Grouping.call
      [.call [.operand Int64.maxValue, .operand 2], .operand Int64.maxValue]).value add =
      .ok (integer 0) ∧
    sub.apply [integer Int64.minValue] = .ok (integer Int64.minValue) ∧
    ∃ r, sub.apply ([.int 1, .float 0.5].map .number) = .ok (.number r) ∧ r.isExact = false := by
  obtain ⟨hkind, hvalue, hgroup⟩ := arithmetic_wraps
  refine ⟨?_, ?_, ?_⟩
  · obtain ⟨v, hv, hsum⟩ := (hvalue [Int64.maxValue, Int64.maxValue, 2]).1
    obtain rfl : v = 0 := Int64.toInt_inj.mp (hsum.trans (by decide))
    rw [hgroup add (by simp) _ [Int64.maxValue, Int64.maxValue, 2] (by decide), hv]
  · obtain ⟨v, hv, hneg⟩ := (hvalue []).2.2 Int64.minValue
    obtain rfl : v = Int64.minValue := Int64.toInt_inj.mp (hneg.trans (by decide))
    exact hv
  · obtain ⟨r, hr, hexact⟩ := hkind sub (by simp) [.int 1, .float 0.5] (by simp)
    refine ⟨r, hr, Bool.eq_false_iff.mpr fun h => ?_⟩
    cases hexact.mp h (.float 0.5) (by simp)

end Primitive

end PocketScheme
