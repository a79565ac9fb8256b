import PocketScheme.Primitive
import PocketScheme.Proofs.Except

/-!
What the builtins give back: a number or a boolean, whatever the arguments, or a fault that says
what is wrong with these.

* `Primitive.apply_ok`: the values of the builtins;
* `Primitive.apply_error`: their faults.
-/

namespace PocketScheme.Primitive

/-- A fold over arguments ends in a number. -/
lemma fold_ok {op : Number → Number → Number} {acc : Number} {args : List Expr} {v : Expr}
    (h : fold op acc args = .ok v) : ∃ n, v = .number n := by
  induction args generalizing acc with
  | nil =>
      cases h
      exact ⟨acc, rfl⟩
  | cons e es ih =>
      rw [fold] at h
      obtain ⟨n, -, h⟩ := exists_of_bind_eq_ok h
      exact ih h

/-- A chain of divisions ends in a number. -/
lemma quotient_ok {acc : Number} {ns : List Number} {v : Expr}
    (h : quotient acc ns = .ok v) : ∃ n, v = .number n := by
  induction ns generalizing acc with
  | nil =>
      cases h
      exact ⟨acc, rfl⟩
  | cons n ns ih =>
      rw [quotient] at h
      cases hq : acc.div? n with
      | none => rw [hq] at h; cases h
      | some q => rw [hq] at h; exact ih h

/-- A difference is a number. -/
lemma difference_ok {args : List Expr} {v : Expr} (h : difference args = .ok v) :
    ∃ n, v = .number n := by
  match args with
  | [] => cases h
  | [e] =>
      rw [difference] at h
      obtain ⟨n, -, h⟩ := exists_of_bind_eq_ok h
      cases h
      exact ⟨n.neg, rfl⟩
  | e :: e' :: es =>
      rw [difference] at h
      · obtain ⟨n, -, h⟩ := exists_of_bind_eq_ok h
        exact fold_ok h
      · simp

/-- A quotient is a number. -/
lemma quotients_ok {args : List Expr} {v : Expr} (h : quotients args = .ok v) :
    ∃ n, v = .number n := by
  rw [quotients] at h
  split at h
  · cases h
  · obtain ⟨ns, -, h⟩ := exists_of_bind_eq_ok h
    cases ns with
    | nil => cases h
    | cons n ns => exact quotient_ok h

/-- A comparison is a boolean. -/
lemma compareChain_ok {rel : Number → Number → Bool} {args : List Expr} {v : Expr}
    (h : compareChain rel args = .ok v) : ∃ b, v = .boolean b := by
  rw [compareChain] at h
  obtain ⟨ns, -, h⟩ := exists_of_bind_eq_ok h
  cases h
  exact ⟨chain rel ns, rfl⟩

/-- A builtin gives back a number or a boolean. -/
lemma apply_ok {p : Primitive} {args : List Expr} {v : Expr} (h : p.apply args = .ok v) :
    (∃ n, v = .number n) ∨ ∃ b, v = .boolean b := by
  cases p with
  | add | mul => exact .inl (fold_ok h)
  | sub => exact .inl (difference_ok h)
  | div => exact .inl (quotients_ok h)
  | gt | lt | eq => exact .inr (compareChain_ok h)

/-! ### Faults -/

/-- A fault that says what is wrong with the arguments. -/
def IsArgumentFault (f : Fault) : Prop :=
  (∃ kind, f = .notNumber kind) ∨ (∃ name, f = .noArguments name) ∨ f = .divisionByZero

lemma toNumber_error {e : Expr} {f : Fault} (h : toNumber e = .error f) : IsArgumentFault f := by
  cases e <;> cases h <;> exact .inl ⟨_, rfl⟩

lemma toNumbers_error {args : List Expr} {f : Fault} (h : toNumbers args = .error f) :
    IsArgumentFault f := by
  induction args with
  | nil => cases h
  | cons e es ih =>
      rw [toNumbers] at h
      rcases error_of_bind_eq_error h with h | ⟨n, -, h⟩
      · exact toNumber_error h
      · rcases error_of_bind_eq_error h with h | ⟨ns, -, h⟩
        · exact ih h
        · cases h

lemma fold_error {op : Number → Number → Number} {acc : Number} {args : List Expr} {f : Fault}
    (h : fold op acc args = .error f) : IsArgumentFault f := by
  induction args generalizing acc with
  | nil => cases h
  | cons e es ih =>
      rw [fold] at h
      rcases error_of_bind_eq_error h with h | ⟨n, -, h⟩
      · exact toNumber_error h
      · exact ih h

/-- A chain of divisions fails only at a zero. -/
lemma quotient_error {acc : Number} {ns : List Number} {f : Fault}
    (h : quotient acc ns = .error f) : f = .divisionByZero := by
  induction ns generalizing acc with
  | nil => cases h
  | cons n ns ih =>
      rw [quotient] at h
      cases hq : acc.div? n with
      | none =>
          rw [hq] at h
          cases h
          rfl
      | some q =>
          rw [hq] at h
          exact ih h

lemma difference_error {args : List Expr} {f : Fault} (h : difference args = .error f) :
    IsArgumentFault f := by
  match args with
  | [] =>
      cases h
      exact .inr (.inl ⟨_, rfl⟩)
  | [e] =>
      rw [difference] at h
      rcases error_of_bind_eq_error h with h | ⟨n, -, h⟩
      · exact toNumber_error h
      · cases h
  | e :: e' :: es =>
      rw [difference] at h
      · rcases error_of_bind_eq_error h with h | ⟨n, -, h⟩
        · exact toNumber_error h
        · exact fold_error h
      · simp

lemma quotients_error {args : List Expr} {f : Fault} (h : quotients args = .error f) :
    IsArgumentFault f := by
  rw [quotients] at h
  split at h
  · cases h
    exact .inr (.inl ⟨_, rfl⟩)
  · rcases error_of_bind_eq_error h with h | ⟨ns, -, h⟩
    · exact toNumbers_error h
    · cases ns with
      | nil =>
          cases h
          exact .inr (.inl ⟨_, rfl⟩)
      | cons n ns => exact .inr (.inr (quotient_error h))

lemma compareChain_error {rel : Number → Number → Bool} {args : List Expr} {f : Fault}
    (h : compareChain rel args = .error f) : IsArgumentFault f := by
  rw [compareChain] at h
  rcases error_of_bind_eq_error h with h | ⟨ns, -, h⟩
  · exact toNumbers_error h
  · cases h

/-- A builtin fails only because of its arguments. -/
lemma apply_error {p : Primitive} {args : List Expr} {f : Fault} (h : p.apply args = .error f) :
    IsArgumentFault f := by
  cases p with
  | add | mul => exact fold_error h
  | sub => exact difference_error h
  | div => exact quotients_error h
  | gt | lt | eq => exact compareChain_error h

end PocketScheme.Primitive
