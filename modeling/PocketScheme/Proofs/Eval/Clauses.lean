import PocketScheme.Proofs.Eval.Finishes

/-!
The clauses of `cond`. Tests may define names, call procedures or fail, and the clauses after the
first one that decides are not looked at, so that clauses can be taken in parts.

* `conditional`: the special form on its clauses;
* `Selects`, `FallsThrough`: the clauses select a body, or all their tests are false;
* `Selects.eval_append`, `FallsThrough.eval_append`: what further clauses have to do with it;
* `evalCond_append_of_fault`: clauses that fail keep the further ones out;
* `conditional_append`: clauses in two parts.
-/

namespace PocketScheme.Eval

/-- Evaluations that are the same at all large bounds, up to a shift, finish alike. -/
lemma finishes_congr {e e' : Expr} {m n : Machine} {d k : Nat}
    (h : ∀ d', d ≤ d' → eval (d' + 1) e m = eval (d' + k) e' n) (r : Except Fault Expr)
    (m' : Machine) :
    Finishes e m r m' ↔ Finishes e' n r m' := by
  constructor
  · intro hfin
    obtain ⟨d₀, hd₀⟩ := hfin.eventually
    refine ⟨max d d₀ + k, ?_⟩
    rw [← h _ (Nat.le_max_left d d₀), hd₀ _ (by omega)]
  · intro hfin
    obtain ⟨d₀, hd₀⟩ := hfin.eventually
    refine ⟨max d d₀ + 1, ?_⟩
    rw [h _ (Nat.le_max_left d d₀), hd₀ _ (by omega)]

/-! ### Clauses -/

/-- The special form `cond` on its clauses. -/
def conditional (clauses : List Expr) : Expr :=
  .combination (.identifier "cond" :: clauses)

/-- The clauses select a body: the tests before its clause are false and its own test is not. The
second machine is the one that the tests leave for the body. -/
inductive Selects : List Expr → Machine → Expr → Machine → Prop where
  | here {test body v : Expr} {clauses : List Expr} {m m₁ : Machine}
      (ht : Finishes test m (.ok v) m₁) (hv : v ≠ .boolean false) :
      Selects (.combination [test, body] :: clauses) m body m₁
  | next {test body selected : Expr} {clauses : List Expr} {m m₁ m₂ : Machine}
      (ht : Finishes test m (.ok (.boolean false)) m₁) (h : Selects clauses m₁ selected m₂) :
      Selects (.combination [test, body] :: clauses) m selected m₂

/-- All tests of the clauses are false. The second machine is the one that they leave. -/
inductive FallsThrough : List Expr → Machine → Machine → Prop where
  | nil (m : Machine) : FallsThrough [] m m
  | cons {test body : Expr} {clauses : List Expr} {m m₁ m₂ : Machine}
      (ht : Finishes test m (.ok (.boolean false)) m₁) (h : FallsThrough clauses m₁ m₂) :
      FallsThrough (.combination [test, body] :: clauses) m m₂

lemma isFalse_iff (v : Expr) : v.isFalse = true ↔ v = .boolean false := by
  fun_cases Expr.isFalse v with
  | case1 => simp
  | case2 v h => simpa using h

/-- A test that is false hands on to the clauses after it. -/
lemma evalCond_of_isFalse {ev : Evaluator} {test body v : Expr} {m m₁ : Machine}
    (ht : ev test m = (.value v, m₁)) (hv : v.isFalse = true) (clauses : List Expr) :
    evalCond ev (.combination [test, body] :: clauses) m = evalCond ev clauses m₁ := by
  rw [evalCond_cons, andThen, ht]
  exact if_pos hv

/-- A test that is not false hands on to its body. -/
lemma evalCond_of_not_isFalse {ev : Evaluator} {test body v : Expr} {m m₁ : Machine}
    (ht : ev test m = (.value v, m₁)) (hv : ¬ v.isFalse = true) (clauses : List Expr) :
    evalCond ev (.combination [test, body] :: clauses) m = ev body m₁ := by
  rw [evalCond_cons, andThen, ht]
  exact if_neg hv

variable {p : List Expr} {m m₁ : Machine}

/-- Behind a test that is false, the clauses are evaluated on the machine that it leaves. -/
lemma eval_conditional_of_false {test body : Expr}
    (ht : Finishes test m (.ok (.boolean false)) m₁) :
    ∃ d, ∀ d', d ≤ d' → ∀ clauses,
      eval (d' + 1) (conditional (.combination [test, body] :: clauses)) m =
        eval (d' + 1) (conditional clauses) m₁ := by
  obtain ⟨d, hd⟩ := ht.eventually
  exact ⟨d, fun d' hle clauses => evalCond_of_isFalse (hd d' hle) rfl clauses⟩

/-- A selected body decides, whatever clauses follow. -/
lemma Selects.eval_append {body : Expr} (h : Selects p m body m₁) :
    ∃ d, ∀ d', d ≤ d' → ∀ q, eval (d' + 1) (conditional (p ++ q)) m = eval d' body m₁ := by
  induction h with
  | here ht hv =>
      obtain ⟨d, hd⟩ := ht.eventually
      exact ⟨d, fun d' hle q => evalCond_of_not_isFalse (hd d' hle) (mt (isFalse_iff _).mp hv) _⟩
  | next ht _ ih =>
      obtain ⟨d₁, hd₁⟩ := eval_conditional_of_false ht
      obtain ⟨d₂, hd₂⟩ := ih
      refine ⟨max d₁ d₂, fun d' hle q => ?_⟩
      rw [List.cons_append, hd₁ d' (by omega), hd₂ d' (by omega)]

/-- After tests that are all false, the clauses that follow decide on the machine that is left. -/
lemma FallsThrough.eval_append (h : FallsThrough p m m₁) :
    ∃ d, ∀ d', d ≤ d' → ∀ q,
      eval (d' + 1) (conditional (p ++ q)) m = eval (d' + 1) (conditional q) m₁ := by
  induction h with
  | nil m => exact ⟨0, fun d' _ q => rfl⟩
  | cons ht _ ih =>
      obtain ⟨d₁, hd₁⟩ := eval_conditional_of_false ht
      obtain ⟨d₂, hd₂⟩ := ih
      refine ⟨max d₁ d₂, fun d' hle q => ?_⟩
      rw [List.cons_append, hd₁ d' (by omega), hd₂ d' (by omega)]

/-- Clauses that fail do so whatever clauses follow. -/
lemma evalCond_append_of_fault {ev : Evaluator} {f : Fault} {m' : Machine}
    (h : evalCond ev p m = (.fault f, m')) (q : List Expr) :
    evalCond ev (p ++ q) m = (.fault f, m') := by
  fun_induction evalCond ev p m with
  | case1 m => cases h
  | case2 test body clauses m v m₁ ht hv ih =>
      rw [List.cons_append, evalCond_of_isFalse ht hv, ih h]
  | case3 test body clauses m v m₁ ht hv =>
      rw [List.cons_append, evalCond_of_not_isFalse ht hv, h]
  | case4 test body clauses m f' m₁ ht =>
      rw [List.cons_append, evalCond_cons, andThen, ht]
      exact h
  | case5 test body clauses m m₁ ht => cases h
  | case6 clause clauses m hclause =>
      rw [List.cons_append, evalCond]
      · exact h
      · exact hclause

/-- Clauses that select a body do not fall through. -/
lemma Selects.not_fallsThrough {body : Expr} (h : Selects p m body m₁) (m₂ : Machine) :
    ¬ FallsThrough p m m₂ := by
  intro hfall
  induction h with
  | here ht hv =>
      cases hfall with
      | cons ht' _ => exact hv (Except.ok.inj (ht.unique ht').1)
  | next ht _ ih =>
      cases hfall with
      | cons ht' hfall =>
          obtain ⟨-, rfl⟩ := ht.unique ht'
          exact ih hfall

lemma Selects.finishes_iff {body : Expr} (h : Selects p m body m₁) (q : List Expr)
    (r : Except Fault Expr) (m' : Machine) :
    Finishes (conditional (p ++ q)) m r m' ↔ Finishes body m₁ r m' := by
  obtain ⟨d, hd⟩ := h.eval_append
  exact finishes_congr (k := 0) (fun d' hle => hd d' hle q) r m'

lemma FallsThrough.finishes_iff (h : FallsThrough p m m₁) (q : List Expr) (r : Except Fault Expr)
    (m' : Machine) : Finishes (conditional (p ++ q)) m r m' ↔ Finishes (conditional q) m₁ r m' := by
  obtain ⟨d, hd⟩ := h.eval_append
  exact finishes_congr (fun d' hle => hd d' hle q) r m'

lemma finishes_append_of_error {f : Fault} (h : Finishes (conditional p) m (.error f) m₁)
    (q : List Expr) : Finishes (conditional (p ++ q)) m (.error f) m₁ := by
  obtain ⟨d, hd⟩ := h.eventually
  have hfault : evalCond (eval d) p m = (.fault f, m₁) := hd (d + 1) (by omega)
  exact ⟨d + 1, evalCond_append_of_fault hfault q⟩

/-- **The first clause that matches**. Clauses that select a body come to what the body comes to,
also if that is void, and do not fall through. Clauses that select a body or fail come to the same
value or fault and leave the same machine with any others after them. Where all tests are false, the
clauses after them come to what they come to on the machine that the tests leave. -/
theorem conditional_append (p q : List Expr) (m : Machine) :
    (∀ body m₁, Selects p m body m₁ →
      (∀ r m', Finishes (conditional (p ++ q)) m r m' ↔ Finishes body m₁ r m') ∧
      ∀ m₂, ¬ FallsThrough p m m₂) ∧
    ((∃ body m₁, Selects p m body m₁) ∨ (∃ f m₁, Finishes (conditional p) m (.error f) m₁) →
      ∀ r m', Finishes (conditional (p ++ q)) m r m' ↔ Finishes (conditional p) m r m') ∧
    (∀ m₁, FallsThrough p m m₁ →
      ∀ r m', Finishes (conditional (p ++ q)) m r m' ↔ Finishes (conditional q) m₁ r m') := by
  refine ⟨fun body m₁ h => ⟨h.finishes_iff q, h.not_fallsThrough⟩, fun h r m' => ?_,
    fun m₁ h => h.finishes_iff q⟩
  rcases h with ⟨body, m₁, h⟩ | ⟨f, m₁, h⟩
  · calc Finishes (conditional (p ++ q)) m r m'
        ↔ Finishes body m₁ r m' := h.finishes_iff q r m'
      _ ↔ Finishes (conditional (p ++ [])) m r m' := (h.finishes_iff [] r m').symm
      _ ↔ Finishes (conditional p) m r m' := by rw [List.append_nil]
  · rw [(finishes_append_of_error h q).iff_eq, h.iff_eq]

/-- A machine with these bindings in its only frame. -/
def bound (bindings : Frame) : Machine where
  env := [bindings]
  tracing := false
  events := []

/-- A clause whose test is false. -/
def falseClause : Expr :=
  .combination [.boolean false, .identifier "z"]

/-- The clause `((define x "a") (define y x))`, whose test is void, and so is its body. -/
def voidClause : Expr :=
  .combination [.combination [.identifier "define", .identifier "x", .string "a"],
    .combination [.identifier "define", .identifier "y", .identifier "x"]]

/-- A clause without a body, and one with a test that fails. -/
def strayClauses : List Expr :=
  [.combination [.boolean true], .combination [.identifier "z", .void]]

theorem conditional_append_void :
    Finishes (conditional ([falseClause, voidClause] ++ strayClauses)) (bound []) (.ok .void)
      (bound [("y", .string "a"), ("x", .string "a")]) ∧
    Finishes (conditional ([.identifier "z"] ++ strayClauses)) (bound [])
      (.error .clause) (bound []) ∧
    Finishes (conditional ([falseClause] ++ [voidClause])) (bound []) (.ok .void)
      (bound [("y", .string "a"), ("x", .string "a")]) := by
  have hfalse : Finishes (.boolean false) (bound []) (.ok (.boolean false)) (bound []) := ⟨1, rfl⟩
  have hdefine : Finishes (.combination [.identifier "define", .identifier "x", .string "a"])
      (bound [])
      (.ok .void) (bound [("x", .string "a")]) := ⟨2, rfl⟩
  have hselects : Selects [falseClause, voidClause] (bound [])
      (.combination [.identifier "define", .identifier "y", .identifier "x"])
      (bound [("x", .string "a")]) := .next hfalse (.here hdefine (by simp))
  exact ⟨(((conditional_append _ strayClauses _).1 _ _ hselects).1 _ _).mpr ⟨2, rfl⟩,
    ((conditional_append _ strayClauses _).2.1 (.inr ⟨.clause, bound [], 1, rfl⟩) _ _).mpr ⟨1, rfl⟩,
    ((conditional_append _ [voidClause] _).2.2 (bound []) (.cons hfalse (.nil _)) _ _).mpr ⟨3, rfl⟩⟩

end PocketScheme.Eval
