import PocketScheme.Expr.Basic
import Mathlib

/-!
Equality of expressions, and copies of them. Equality looks at the structure, but a procedure, a
builtin and the double that is no number are not even equal to themselves; so an expression is equal
to itself unless one of these is in it. The body of a procedure is never looked at, yet it is
copied.

* `Number.eq_swap`, `Number.eq_self_iff`: equality of numbers;
* `Expr.Inside`: an expression somewhere in another one, through combinations only;
* `Expr.Definite`: no procedure, no builtin and not NaN;
* `Expr.equal_comm`, `Expr.equal_self_iff`, `Expr.copy_eq`: the parts of the main statement;
* `Expr.equality_and_copies`: equality is symmetric, where it is reflexive, and what copies are.
-/

namespace PocketScheme

namespace Number

lemma eq_swap (m n : Number) : m.eq n = n.eq m := by
  cases m <;> cases n <;> exact BEq.comm

/-- Only the double that is no number differs from itself. -/
lemma eq_self_iff (n : Number) : n.eq n = true ↔ ∀ v, n = .float v → v.isNaN = false := by
  cases n with
  | int v =>
      refine iff_of_true (show (v == v) = true from beq_self_eq_true v) ?_
      rintro _ ⟨⟩
  | float v =>
      have hself : (Number.float v).eq (.float v) = (v == v) := rfl
      rw [hself, Float.beq_self_iff]
      simp [Float.isNaN_eq_decide_eq_nan]

end Number

namespace Expr

/-! ### Symmetry -/

mutual

/-- It does not matter which expression comes first. -/
lemma equal_comm (a b : Expr) : equal a b = equal b a := by
  cases a with
  | combination as =>
      cases b with
      | combination bs => exact equalList_comm as bs
      | _ => rfl
  | identifier a =>
      cases b with
      | identifier b => exact BEq.comm
      | _ => rfl
  | string a =>
      cases b with
      | string b => exact BEq.comm
      | _ => rfl
  | number m =>
      cases b with
      | number n => exact Number.eq_swap m n
      | _ => rfl
  | boolean a =>
      cases b with
      | boolean b => exact BEq.comm
      | _ => rfl
  | procedure | builtin | void => cases b <;> rfl

lemma equalList_comm (as bs : List Expr) : equalList as bs = equalList bs as := by
  cases as with
  | nil => cases bs <;> rfl
  | cons a as =>
      cases bs with
      | nil => rfl
      | cons b bs => rw [equalList, equalList, equal_comm a b, equalList_comm as bs]

end

/-! ### Reflexivity -/

/-- The first expression is the second one, or is inside one of its elements. -/
inductive Inside (x : Expr) : Expr → Prop where
  | here : Inside x x
  | element {e : Expr} {es : List Expr} (he : e ∈ es) (h : Inside x e) : Inside x (.combination es)

/-- No procedure, no builtin, and not the double that is no number. -/
structure Definite (x : Expr) : Prop where
  ne_procedure : x.kind ≠ .procedure
  ne_builtin : x.kind ≠ .builtin
  isNaN_eq_false : ∀ v, x = .number (.float v) → v.isNaN = false

/-- In an atom there is nothing but the atom. -/
lemma forall_inside_atom {P : Expr → Prop} (a : Expr) (ha : a.kind ≠ .combination) :
    (∀ x, Inside x a → P x) ↔ P a := by
  refine ⟨fun h => h a .here, fun h x hx => ?_⟩
  cases hx with
  | here => exact h
  | element => exact absurd rfl ha

lemma forall_inside_combination {P : Expr → Prop} {es : List Expr} :
    (∀ x, Inside x (.combination es) → P x) ↔
      P (.combination es) ∧ ∀ e ∈ es, ∀ x, Inside x e → P x := by
  refine ⟨fun h => ⟨h _ .here, fun e he x hx => h x (.element he hx)⟩, fun h x hx => ?_⟩
  cases hx with
  | here => exact h.1
  | element he hx => exact h.2 _ he x hx

mutual

/-- An expression is equal to itself if and only if everything inside it is definite. -/
lemma equal_self_iff (a : Expr) : equal a a = true ↔ ∀ x, Inside x a → Definite x := by
  cases a with
  | combination es =>
      have hes : Definite (.combination es) := ⟨nofun, nofun, nofun⟩
      rw [forall_inside_combination, equal, and_iff_right hes]
      exact equalList_self_iff es
  | number n =>
      rw [forall_inside_atom (.number n) nofun, equal, Number.eq_self_iff]
      refine ⟨fun h => ⟨nofun, nofun, ?_⟩, fun h v hv => h.isNaN_eq_false v (congrArg _ hv)⟩
      rintro v ⟨⟩
      exact h v rfl
  | identifier name =>
      rw [forall_inside_atom (.identifier name) nofun, equal]
      exact iff_of_true (beq_self_eq_true name) ⟨nofun, nofun, nofun⟩
  | string value =>
      rw [forall_inside_atom (.string value) nofun, equal]
      exact iff_of_true (beq_self_eq_true value) ⟨nofun, nofun, nofun⟩
  | boolean value =>
      rw [forall_inside_atom (.boolean value) nofun, equal]
      exact iff_of_true (beq_self_eq_true value) ⟨nofun, nofun, nofun⟩
  | void =>
      rw [forall_inside_atom .void nofun]
      exact iff_of_true rfl ⟨nofun, nofun, nofun⟩
  | procedure name params body =>
      rw [forall_inside_atom (.procedure name params body) nofun]
      exact iff_of_false nofun fun h => h.ne_procedure rfl
  | builtin name operation =>
      rw [forall_inside_atom (.builtin name operation) nofun]
      exact iff_of_false nofun fun h => h.ne_builtin rfl

lemma equalList_self_iff (es : List Expr) :
    equalList es es = true ↔ ∀ e ∈ es, ∀ x, Inside x e → Definite x := by
  cases es with
  | nil => simp [equalList]
  | cons e es =>
      rw [equalList, Bool.and_eq_true, equal_self_iff e, equalList_self_iff es,
        List.forall_mem_cons]

end

/-! ### Copies -/

mutual

/-- A copy is what was copied, down to the bodies of procedures. -/
lemma copy_eq (a : Expr) : copy a = a := by
  cases a with
  | combination es => rw [copy, copyList_eq es]
  | procedure name params body => rw [copy, copy_eq body]
  | _ => rfl

lemma copyList_eq (es : List Expr) : copyList es = es := by
  cases es with
  | nil => rfl
  | cons e es => rw [copyList, copy_eq e, copyList_eq es]

end

/-- **Equality and copies**. Whichever of two expressions comes first, they are equal or not. An
expression is equal to its copy if and only if it is equal to itself; it is if and only if, in
itself and at any depth of the combinations in it, it has no procedure, no builtin and no double
that is not a number. And a copy has the kind and the text of the expression and all its parts,
those in the bodies of procedures included. -/
theorem equality_and_copies (a b : Expr) :
    equal a b = equal b a ∧
      equal a (copy a) = equal a a ∧
      (equal a a = true ↔ ∀ x, Inside x a → Definite x) ∧
      (copy a).kind = a.kind ∧ (copy a).render = a.render ∧ copy a = a := by
  rw [copy_eq]
  exact ⟨equal_comm a b, rfl, equal_self_iff a, rfl, rfl, rfl⟩

end Expr

end PocketScheme
