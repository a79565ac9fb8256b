import PocketScheme.Proofs.Primitive.Arguments
import Mathlib

/-!
Quotients of any number of operands. A chain of divisions stays exact as long as every divisor
divides what is left so far. Once it is inexact it stays so, and zeros do no harm any more.

* `Primitive.DividesEvenly`: integers divided by one another without remainders;
* `DividesEvenly.quotient_append`: such divisions leave an integer for the divisors that follow;
* `DividesEvenly.product`: the divisions can be undone;
* `Primitive.MeetsZero`, `Primitive.StaysExact`: a zero while all is exact, and no loss at all;
* `Primitive.quotient_cases`: one of the two, or a double;
* `Primitive.division_chain`: when quotients fail, are exact, and are not.
-/

namespace PocketScheme

/-! ### One division -/

namespace Number

lemma div?_int (x y : Int64) : div? (.int x) (.int y) = divInt x y := rfl

lemma mod_eq_zero_iff (x y : Int64) : x % y = 0 ↔ y.toInt ∣ x.toInt := by
  rw [← Int64.toInt_inj, Int64.toInt_mod, Int.dvd_iff_tmod_eq_zero]
  rfl

/-- The quotient is that of unbounded integers, up to multiples of the word size. -/
lemma div_eq_ofInt {x y : Int64} {c : Int} (hy : y ≠ 0) (hc : x.toInt = y.toInt * c) :
    x / y = .ofInt c := by
  have hy' : y.toInt ≠ 0 := fun h => hy (Int64.toInt_inj.mp h)
  rw [← Int64.toInt_inj, Int64.toInt_div, Int64.toInt_ofInt, hc, Int.mul_tdiv_cancel_left c hy']

lemma divInt_of_eq {x y : Int64} {c : Int} (hy : y ≠ 0) (hc : x.toInt = y.toInt * c) :
    divInt x y = some (.int (.ofInt c)) := by
  have hmod : x % y = 0 := (mod_eq_zero_iff x y).mpr ⟨c, hc⟩
  rw [divInt, if_neg (by simpa using hy), if_pos (by simpa using hmod), div_eq_ofInt hy hc]

lemma divInt_of_not_dvd {x y : Int64} (hy : y ≠ 0) (h : ¬ y.toInt ∣ x.toInt) :
    ∃ v, divInt x y = some (.float v) := by
  have hmod : ¬ x % y = 0 := fun hzero => h ((mod_eq_zero_iff x y).mp hzero)
  rw [divInt, if_neg (by simpa using hy), if_neg (by simpa using hmod)]
  exact ⟨_, rfl⟩

end Number

namespace Primitive

/-! ### Chains of integers -/

/-- A division without remainder leaves an integer. -/
lemma quotient_of_eq {x y : Int64} {c : Int} (hy : y ≠ 0) (hc : x.toInt = y.toInt * c)
    (ns : List Number) : quotient (.int x) (.int y :: ns) = quotient (.int (.ofInt c)) ns := by
  rw [quotient, Number.div?_int, Number.divInt_of_eq hy hc]

/-- Dividing an integer by others, one after the other, ends with `q`: no divisor is zero, and each
one divides what is left without remainder. What is left is reduced to the range of 64 bits, which
only the least integer divided by -1 is in need of. -/
inductive DividesEvenly : Int64 → List Int64 → Int64 → Prop where
  | nil (x : Int64) : DividesEvenly x [] x
  | cons {x y q : Int64} {c : Int} {ys : List Int64} (hy : y ≠ 0) (hc : x.toInt = y.toInt * c)
      (h : DividesEvenly (.ofInt c) ys q) : DividesEvenly x (y :: ys) q

namespace DividesEvenly

variable {x q : Int64} {ys : List Int64}

/-- The divisors that follow find the integer that is left. -/
lemma quotient_append (h : DividesEvenly x ys q) (ns : List Number) :
    quotient (.int x) (ys.map .int ++ ns) = quotient (.int q) ns := by
  induction h with
  | nil x => rfl
  | cons hy hc _ ih => rw [List.map_cons, List.cons_append, quotient_of_eq hy hc, ih]

/-- Multiplying by the divisors undoes the divisions. -/
lemma product (h : DividesEvenly x ys q) : ys.foldl (· * ·) q = x := by
  induction h with
  | nil x => rfl
  | @cons x y q c ys _ hc _ ih =>
      calc (y :: ys).foldl (· * ·) q
          = ys.foldl (· * ·) (y * q) := by rw [List.foldl_cons, Int64.mul_comm]
        _ = y * ys.foldl (· * ·) q := List.foldl_assoc
        _ = y * .ofInt c := by rw [ih]
        _ = .ofInt (y.toInt * c) := by rw [Int64.ofInt_mul, Int64.ofInt_toInt]
        _ = x := by rw [← hc, Int64.ofInt_toInt]

end DividesEvenly

/-! ### Chains of numbers -/

/-- The divisors get to the integer zero while all is exact and every division so far left no
remainder. -/
def MeetsZero (a : Number) (bs : List Number) : Prop :=
  ∃ (x : Int64) (ys : List Int64) (q : Int64) (rest : List Number),
    a = .int x ∧ bs = ys.map .int ++ .int 0 :: rest ∧ DividesEvenly x ys q

/-- All numbers are exact, and no division leaves a remainder. -/
def StaysExact (a : Number) (bs : List Number) (q : Int64) : Prop :=
  ∃ (x : Int64) (ys : List Int64), a = .int x ∧ bs = ys.map .int ∧ DividesEvenly x ys q

lemma MeetsZero.quotient_eq {a : Number} {bs : List Number} (h : MeetsZero a bs) :
    quotient a bs = .error .divisionByZero := by
  obtain ⟨x, ys, q, rest, rfl, rfl, h⟩ := h
  rw [h.quotient_append]
  rfl

lemma StaysExact.quotient_eq {a : Number} {bs : List Number} {q : Int64} (h : StaysExact a bs q) :
    quotient a bs = .ok (integer q) := by
  obtain ⟨x, ys, rfl, rfl, h⟩ := h
  rw [← List.append_nil (ys.map _), h.quotient_append]
  rfl

/-- A double stays one, whatever it is divided by. -/
lemma quotient_float (v : Float) (bs : List Number) :
    ∃ w, quotient (.float v) bs = .ok (.number (.float w)) := by
  induction bs generalizing v with
  | nil => exact ⟨v, rfl⟩
  | cons b bs ih => exact ih (v / b.toFloat)

lemma quotient_cases (a : Number) (bs : List Number) :
    MeetsZero a bs ∨ (∃ q, StaysExact a bs q) ∨ ∃ v, quotient a bs = .ok (.number (.float v)) := by
  cases a with
  | float v => exact .inr (.inr (quotient_float v bs))
  | int x =>
      induction bs generalizing x with
      | nil => exact .inr (.inl ⟨x, x, [], rfl, rfl, .nil x⟩)
      | cons b bs ih =>
          cases b with
          | float w => exact .inr (.inr (quotient_float _ bs))
          | int y =>
              by_cases hy : y = 0
              · subst hy
                exact .inl ⟨x, [], x, bs, rfl, rfl, .nil x⟩
              by_cases hdvd : y.toInt ∣ x.toInt
              · obtain ⟨c, hc⟩ := hdvd
                -- the divisor goes in front of those that the quotient was divided by
                rcases ih (.ofInt c) with ⟨_, ys, q, rest, hx, rfl, h⟩ | ⟨q, _, ys, hx, rfl, h⟩ |
                  ⟨v, hv⟩
                · cases hx
                  exact .inl ⟨x, y :: ys, q, rest, rfl, rfl, .cons hy hc h⟩
                · cases hx
                  exact .inr (.inl ⟨q, x, y :: ys, rfl, rfl, .cons hy hc h⟩)
                · refine .inr (.inr ⟨v, ?_⟩)
                  rw [quotient_of_eq hy hc, hv]
              · obtain ⟨v, hv⟩ := Number.divInt_of_not_dvd hy hdvd
                rw [quotient, Number.div?_int, hv]
                exact .inr (.inr (quotient_float v bs))

lemma quotient_fails_iff {a : Number} {bs : List Number} :
    (∃ f, quotient a bs = .error f) ↔ MeetsZero a bs := by
  refine ⟨?_, fun h => ⟨_, h.quotient_eq⟩⟩
  rintro ⟨f, hf⟩
  rcases quotient_cases a bs with h | ⟨q, h⟩ | ⟨v, hv⟩
  · exact h
  · cases h.quotient_eq.symm.trans hf
  · cases hv.symm.trans hf

lemma quotient_eq_integer_iff {a : Number} {bs : List Number} {q : Int64} :
    quotient a bs = .ok (integer q) ↔ StaysExact a bs q := by
  refine ⟨fun hq => ?_, StaysExact.quotient_eq⟩
  rcases quotient_cases a bs with h | ⟨q', h⟩ | ⟨v, hv⟩
  · cases h.quotient_eq.symm.trans hq
  · cases h.quotient_eq.symm.trans hq
    exact h
  · cases hv.symm.trans hq

lemma quotient_eq_float_iff {a : Number} {bs : List Number} :
    (∃ v, quotient a bs = .ok (.number (.float v))) ↔
      ¬ MeetsZero a bs ∧ ¬ ∃ q, StaysExact a bs q := by
  constructor
  · rintro ⟨v, hv⟩
    refine ⟨fun h => ?_, fun ⟨q, h⟩ => ?_⟩
    · cases h.quotient_eq.symm.trans hv
    · cases h.quotient_eq.symm.trans hv
  · rintro ⟨hzero, hexact⟩
    exact ((quotient_cases a bs).resolve_left hzero).resolve_left hexact

/-- **Chained division**. A quotient fails exactly if the divisors get to an exact zero while the
first number and all divisors up to it are exact, no earlier divisor is zero, and each divides what
is left without remainder; the fault is the division by zero. It is an exact integer exactly if all
numbers are exact and all divisors divide in this way, and the integer times the divisors is then
the first number, in arithmetic that wraps. Otherwise it is a double. -/
theorem division_chain (a : Number) (bs : List Number) :
    ((∃ f, div.apply ((a :: bs).map .number) = .error f) ↔ MeetsZero a bs) ∧
    (∀ f, div.apply ((a :: bs).map .number) = .error f → f.kind? = some .divisionByZero) ∧
    (∀ q, div.apply ((a :: bs).map .number) = .ok (integer q) ↔ StaysExact a bs q) ∧
    (∀ (x : Int64) (ys : List Int64) (q : Int64), a = .int x → bs = ys.map .int →
      div.apply ((a :: bs).map .number) = .ok (integer q) → ys.foldl (· * ·) q = x) ∧
    ((∃ v, div.apply ((a :: bs).map .number) = .ok (.number (.float v))) ↔
      ¬ MeetsZero a bs ∧ ¬ ∃ q, StaysExact a bs q) := by
  rw [apply_div]
  refine ⟨quotient_fails_iff, fun f hf => ?_, fun q => quotient_eq_integer_iff,
    fun x ys q ha hbs hq => ?_, quotient_eq_float_iff⟩
  · rw [quotient_error hf]
    rfl
  · obtain ⟨x', ys', ha', hbs', h⟩ := quotient_eq_integer_iff.mp hq
    obtain rfl : x = x' := Number.int.inj (ha.symm.trans ha')
    obtain rfl : ys = ys' :=
      List.map_injective_iff.mpr (fun _ _ => Number.int.inj) (hbs.symm.trans hbs')
    exact h.product

/-- The least integer divided by -1 is itself, and so is their product. Twelve divided by two and by
zero fails. Seven divided by two is a double, and a zero after it does no harm. -/
theorem division_chain_at_limits :
    div.apply [integer Int64.minValue, integer (-1)] = .ok (integer Int64.minValue) ∧
    Int64.minValue * (-1) = Int64.minValue ∧
    (∃ f, div.apply [integer 12, integer 2, integer 0] = .error f ∧
      f.kind? = some .divisionByZero) ∧
    ¬ MeetsZero (.int 7) [.int 2, .int 0] := by
  have hleast : StaysExact (.int Int64.minValue) [.int (-1)] Int64.minValue :=
    ⟨_, [-1], rfl, rfl, .cons (c := 9223372036854775808) (by decide) (by decide) (.nil _)⟩
  have hzero : MeetsZero (.int 12) [.int 2, .int 0] :=
    ⟨12, [2], 6, [], rfl, rfl, .cons (c := 6) (by decide) (by decide) (.nil _)⟩
  have hmin := ((division_chain _ _).2.2.1 _).mpr hleast
  refine ⟨hmin, (division_chain _ _).2.2.2.1 _ [-1] _ rfl rfl hmin, ?_,
    ((division_chain _ _).2.2.2.2.mp ⟨_, rfl⟩).1⟩
  obtain ⟨f, hf⟩ := (division_chain _ _).1.mpr hzero
  exact ⟨f, hf, (division_chain _ _).2.1 f hf⟩

end Primitive

end PocketScheme
