import PocketScheme.Proofs.Eval.Coupling

/-!
Evaluations that finish, without a bound on their depth.

* `Finishes`: some bound is enough for a value or a fault;
* `eval_mono`, `Finishes.eventually`, `Finishes.unique`: a larger bound changes nothing, so there is
  one value or fault and one machine left;
* `eval_env_congr`, `Finishes.of_env_eq`: what an evaluation comes to depends on the environment
  alone.
-/

namespace PocketScheme

/-- A value or a fault as an outcome. -/
def Outcome.ofExcept {α : Type} : Except Fault α → Outcome α
  | .ok v => .value v
  | .error f => .fault f

@[simp] lemma Outcome.ofExcept_ne_exhausted {α : Type} (r : Except Fault α) :
    Outcome.ofExcept r ≠ .exhausted := by
  cases r <;> simp [Outcome.ofExcept]

lemma Outcome.ofExcept_injective {α : Type} {r r' : Except Fault α}
    (h : Outcome.ofExcept r = Outcome.ofExcept r') : r = r' := by
  cases r <;> cases r' <;> simp_all [Outcome.ofExcept]

/-- The evaluation of `e` on `m` finishes with `r` and leaves `m'`. -/
def Finishes (e : Expr) (m : Machine) (r : Except Fault Expr) (m' : Machine) : Prop :=
  ∃ depth, eval depth e m = (.ofExcept r, m')

namespace Eval

/-! ### More depth -/

/-- An evaluation and one with a larger bound, which go through the same machines. -/
def deeper : Coupling Unit :=
  .ofRel True Eq (fun _ _ h => by rw [h]) (fun _ _ _ h => by rw [h]) (fun _ _ _ h => by rw [h])

/-- A larger bound does not change what finishes. -/
lemma eval_mono {d d' : Nat} (hd : d ≤ d') {e : Expr} {m : Machine}
    (h : (eval d e m).1 ≠ .exhausted) : eval d' e m = eval d e m := by
  have hagree := deeper.eval_agree (.inr ⟨trivial, hd⟩) (i := ()) (e := e) (m := m) trivial rfl
  generalize eval d e m = x at h hagree
  generalize eval d' e m = y at hagree
  cases hagree with
  | value _ hst => rw [hst]
  | fault hst => rw [hst]
  | exhausted hst => exact absurd rfl h
  | cut _ => exact absurd rfl h

/-! ### The same environment -/

/-- Machines with the same environment, whatever they record. -/
def sameEnv : Coupling Unit :=
  .ofRel False (fun m n => m.env = n.env) (fun _ _ h => h) (fun _ _ _ _ => rfl)
    (fun _ _ _ h => by simpa using h)

/-- Outcome and environment depend on the environment alone. -/
lemma eval_env_congr {d : Nat} {e : Expr} {m n : Machine} (h : m.env = n.env) :
    (eval d e m).1 = (eval d e n).1 ∧ (eval d e m).2.env = (eval d e n).2.env := by
  have hagree := sameEnv.eval_agree (.inl rfl) (d := d) (i := ()) (e := e) trivial h
  exact ⟨hagree.outcome_eq, hagree.state⟩

end Eval

/-- An evaluation finishes in one way only. -/
lemma Finishes.unique {e : Expr} {m : Machine} {r r' : Except Fault Expr} {m₁ m₂ : Machine}
    (h₁ : Finishes e m r m₁) (h₂ : Finishes e m r' m₂) : r = r' ∧ m₁ = m₂ := by
  obtain ⟨d, hd⟩ := h₁
  obtain ⟨d', hd'⟩ := h₂
  have hmax := Eval.eval_mono (Nat.le_max_left d d') (e := e) (m := m) (by simp [hd])
  have hmax' := Eval.eval_mono (Nat.le_max_right d d') (e := e) (m := m) (by simp [hd'])
  rw [hd] at hmax
  rw [hd'] at hmax'
  obtain ⟨hr, hm⟩ := Prod.mk.inj (hmax.symm.trans hmax')
  exact ⟨Outcome.ofExcept_injective hr, hm⟩

/-- Every bound that is large enough shows how an evaluation finishes. -/
lemma Finishes.eventually {e : Expr} {m m' : Machine} {r : Except Fault Expr}
    (h : Finishes e m r m') :
    ∃ d, ∀ d', d ≤ d' → eval d' e m = (.ofExcept r, m') := by
  obtain ⟨d, hd⟩ := h
  refine ⟨d, fun d' hle => ?_⟩
  rw [Eval.eval_mono hle (by simp [hd]), hd]

lemma Finishes.iff_eq {e : Expr} {m m' : Machine} {r : Except Fault Expr} (h : Finishes e m r m')
    (r' : Except Fault Expr) (m'' : Machine) : Finishes e m r' m'' ↔ r' = r ∧ m'' = m' := by
  refine ⟨fun h' => h'.unique h, ?_⟩
  rintro ⟨rfl, rfl⟩
  exact h

/-- An evaluation finishes alike on machines with the same environment. -/
lemma Finishes.of_env_eq {e : Expr} {m n m' : Machine} {r : Except Fault Expr}
    (h : Finishes e m r m') (hmn : m.env = n.env) : ∃ n', Finishes e n r n' ∧ n'.env = m'.env := by
  obtain ⟨d, hd⟩ := h
  obtain ⟨hr, henv⟩ := Eval.eval_env_congr (d := d) (e := e) hmn
  rw [hd] at hr henv
  exact ⟨(eval d e n).2, ⟨d, Prod.ext hr.symm rfl⟩, henv.symm⟩

end PocketScheme
