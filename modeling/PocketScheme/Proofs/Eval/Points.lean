import PocketScheme.Proofs.Eval.Coupling

/-!
The points of an evaluation: the evaluations that are started inside it, down to any depth, each
with the machine that it starts on.

* `evalOnce`: one level of evaluation;
* `Starts`: an evaluation that one level starts;
* `evalOnce_congr`: one level depends on the evaluations that it starts and on no others;
* `Reaches`: an evaluation inside another one, at any depth;
* `Coupling.reaches`: evaluations in step come to the same points;
* `Raises`, `exists_raises`: every fault was raised at some point.
-/

namespace PocketScheme

namespace Eval

variable {ev ev' : Evaluator} {e : Expr} {m : Machine}

/-! ### One level -/

/-- One level of evaluation. -/
def evalOnce (ev : Evaluator) (e : Expr) (m : Machine) : Outcome Expr × Machine :=
  match e with
  | .identifier name =>
    match m.env.lookup name with
    | some v => (.value v, m)
    | none => (.fault (.undefined name), m)
  | .combination elements => evalCombination ev elements m
  | e => (.value e, m)

lemma eval_succ (depth : Nat) (e : Expr) (m : Machine) :
    eval (depth + 1) e m = evalOnce (eval depth) e m := by
  cases e <;> rfl

/-- The name of a special form. -/
def IsKeyword (e : Expr) : Prop :=
  e = .identifier "define" ∨ e = .identifier "cond"

lemma isKeyword_identifier_iff {name : String} :
    IsKeyword (.identifier name) ↔ name = "define" ∨ name = "cond" := by
  simp [IsKeyword]

lemma evalCombination_of_not_isKeyword {operator : Expr} (h : ¬ IsKeyword operator)
    (operands : List Expr) :
    evalCombination ev (operator :: operands) m = evalApplication ev operator operands m := by
  cases operator with
  | identifier name =>
      obtain ⟨hd, hc⟩ := not_or.mp (mt isKeyword_identifier_iff.mpr h)
      simp only [evalCombination, beq_iff_eq, hd, hc, if_false]
  | _ => rfl

/-- The value of an operator that its operands are evaluated for. -/
inductive IsCallable : Expr → Prop where
  | builtin (name : String) (operation : Option Primitive) : IsCallable (.builtin name operation)
  | procedure (name : String) (params : List String) (body : Expr) :
      IsCallable (.procedure name params body)

lemma applyTo_of_not_isCallable {v : Expr} (h : ¬ IsCallable v) (operands : List Expr) :
    applyTo ev operands v m = (.fault (.notProcedure v), m) := by
  cases v with
  | builtin name operation => exact absurd (.builtin name operation) h
  | procedure name params body => exact absurd (.procedure name params body) h
  | _ => rfl

/-! ### What a level starts -/

/-- The evaluations that are started where expressions are evaluated from left to right. -/
inductive StartsEach (ev : Evaluator) : List Expr → Machine → Expr → Machine → Prop where
  | head {e : Expr} {es : List Expr} {m : Machine} : StartsEach ev (e :: es) m e m
  | tail {e v e' : Expr} {es : List Expr} {m m₁ m' : Machine} (hv : ev e m = (.value v, m₁))
      (h : StartsEach ev es m₁ e' m') : StartsEach ev (e :: es) m e' m'

/-- The evaluations that are started by the clauses of `cond`. -/
inductive StartsClause (ev : Evaluator) : List Expr → Machine → Expr → Machine → Prop where
  | test {test body : Expr} {clauses : List Expr} {m : Machine} :
      StartsClause ev (.combination [test, body] :: clauses) m test m
  | body {test body v : Expr} {clauses : List Expr} {m m₁ : Machine}
      (hv : ev test m = (.value v, m₁)) (hno : v.isFalse = false) :
      StartsClause ev (.combination [test, body] :: clauses) m body m₁
  | next {test body v e' : Expr} {clauses : List Expr} {m m₁ m' : Machine}
      (hv : ev test m = (.value v, m₁)) (hno : v.isFalse = true)
      (h : StartsClause ev clauses m₁ e' m') :
      StartsClause ev (.combination [test, body] :: clauses) m e' m'

/-- Evaluating an expression on a machine by means of `ev` starts the evaluation of another
expression on another machine. -/
inductive Starts (ev : Evaluator) (m : Machine) : Expr → Expr → Machine → Prop where
  | definition {name : String} {body : Expr} (h : isSpecial name = false) :
      Starts ev m (.combination [.identifier "define", .identifier name, body]) body m
  | clause {clauses : List Expr} {e' : Expr} {m' : Machine} (h : StartsClause ev clauses m e' m') :
      Starts ev m (.combination (.identifier "cond" :: clauses)) e' m'
  | operator {operator : Expr} {operands : List Expr} (hk : ¬ IsKeyword operator) :
      Starts ev m (.combination (operator :: operands)) operator m
  | operand {operator v e' : Expr} {operands : List Expr} {m₁ m' : Machine}
      (hk : ¬ IsKeyword operator) (hv : ev operator m = (.value v, m₁)) (hcall : IsCallable v)
      (h : StartsEach ev operands m₁ e' m') :
      Starts ev m (.combination (operator :: operands)) e' m'
  | body {operator body : Expr} {operands args : List Expr} {name : String} {params : List String}
      {m₁ m₂ : Machine} (hk : ¬ IsKeyword operator)
      (hv : ev operator m = (.value (.procedure name params body), m₁))
      (hargs : evalList ev operands m₁ = (.value args, m₂)) (hlen : args.length = params.length) :
      Starts ev m (.combination (operator :: operands)) body (enter name params args m₂)

/-! ### Nothing else is started -/

lemma evalList_congr {es : List Expr}
    (h : ∀ e' m', StartsEach ev es m e' m' → ev' e' m' = ev e' m') :
    evalList ev' es m = evalList ev es m := by
  induction es generalizing m with
  | nil => rfl
  | cons e es ih =>
      rw [evalList_cons, evalList_cons, andThen, andThen, h e m .head]
      rcases hv : ev e m with ⟨v | f | _, m₁⟩
      · simp only [andThen]
        rw [ih fun e' m' h' => h e' m' (.tail hv h')]
      · rfl
      · rfl

lemma evalCond_congr {clauses : List Expr}
    (h : ∀ e' m', StartsClause ev clauses m e' m' → ev' e' m' = ev e' m') :
    evalCond ev' clauses m = evalCond ev clauses m := by
  induction clauses generalizing m with
  | nil => rfl
  | cons clause clauses ih =>
      by_cases hpair : ∃ test body, clause = .combination [test, body]
      · obtain ⟨test, body, rfl⟩ := hpair
        rw [evalCond_cons, evalCond_cons, andThen, andThen, h test m .test]
        rcases hv : ev test m with ⟨v | f | _, m₁⟩
        · dsimp only
          cases hno : v.isFalse with
          | true => exact ih fun e' m' h' => h e' m' (.next hv hno h')
          | false => exact h body m₁ (.body hv hno)
        · rfl
        · rfl
      · rw [evalCond_of_not_pair ev' hpair, evalCond_of_not_pair ev hpair]

lemma evalDefine_congr {operands : List Expr}
    (h : ∀ e' m', Starts ev m (.combination (.identifier "define" :: operands)) e' m' →
      ev' e' m' = ev e' m') :
    evalDefine ev' operands m = evalDefine ev operands m := by
  match operands with
  | [.identifier name, body] =>
      rw [evalDefine_value, evalDefine_value]
      split
      · rfl
      · rename_i hname
        rw [andThen, andThen, h body m (.definition (by simpa using hname))]
  | [.combination _, _] | [.string _, _] | [.number _, _] | [.boolean _, _] | [.procedure _ _ _, _]
  | [.builtin _ _, _] | [.void, _] => rfl
  | [] => rfl
  | [e] | e :: _ :: _ :: _ => cases e <;> rfl

lemma evalApplication_congr {operator : Expr} {operands : List Expr} (hk : ¬ IsKeyword operator)
    (h : ∀ e' m', Starts ev m (.combination (operator :: operands)) e' m' → ev' e' m' = ev e' m') :
    evalApplication ev' operator operands m = evalApplication ev operator operands m := by
  rw [evalApplication_eq, evalApplication_eq, andThen, andThen, h operator m (.operator hk)]
  rcases hv : ev operator m with ⟨v | f | _, m₁⟩
  · dsimp only
    by_cases hcall : IsCallable v
    · have hoperands : evalList ev' operands m₁ = evalList ev operands m₁ :=
        evalList_congr fun e' m' h' => h e' m' (.operand hk hv hcall h')
      cases hcall with
      | builtin name operation => rw [applyTo, applyTo, andThen, andThen, hoperands]
      | procedure name params body =>
          rw [applyTo, applyTo, andThen, andThen, hoperands]
          rcases hargs : evalList ev operands m₁ with ⟨args | f | _, m₂⟩
          · dsimp only
            rw [applyProcedure_eq, applyProcedure_eq]
            split
            · rw [h body _ (.body hk hv hargs ‹_›)]
            · rfl
          · rfl
          · rfl
    · rw [applyTo_of_not_isCallable hcall, applyTo_of_not_isCallable hcall]
  · rfl
  · rfl

/-- One level of evaluation depends on the evaluations that it starts and on no others, so none is
left out. -/
theorem evalOnce_congr (h : ∀ e' m', Starts ev m e e' m' → ev' e' m' = ev e' m') :
    evalOnce ev' e m = evalOnce ev e m := by
  cases e with
  | combination elements =>
      cases elements with
      | nil => rfl
      | cons operator operands =>
          by_cases hk : IsKeyword operator
          · rcases hk with rfl | rfl
            · exact evalDefine_congr h
            · exact evalCond_congr fun e' m' h' => h e' m' (.clause h')
          · rw [evalOnce, evalOnce, evalCombination_of_not_isKeyword hk,
              evalCombination_of_not_isKeyword hk]
            exact evalApplication_congr hk h
  | _ => rfl

/-! ### Evaluations inside an evaluation -/

/-- The evaluation of `e` on `m` with a bound on the depth comes to the evaluation of another
expression on another machine with what is left of the bound. -/
inductive Reaches : Nat → Expr → Machine → Nat → Expr → Machine → Prop where
  | refl {d : Nat} {e : Expr} {m : Machine} : Reaches d e m d e m
  | step {d d' : Nat} {e e₁ e' : Expr} {m m₁ m' : Machine} (h : Starts (eval d) m e e₁ m₁)
      (h' : Reaches d e₁ m₁ d' e' m') : Reaches (d + 1) e m d' e' m'

/-! ### Couplings -/

lemma mem_parts_clause {clauses : List Expr} {test body p : Expr}
    (h : .combination [test, body] ∈ clauses) (hp : p ∈ [test, body]) :
    p ∈ parts (.combination (.identifier "cond" :: clauses)) :=
  List.mem_flatMap.mpr ⟨_, h, hp⟩

lemma parts_application {operator : Expr} (hk : ¬ IsKeyword operator) (operands : List Expr) :
    parts (.combination (operator :: operands)) = operator :: operands := by
  cases operator with
  | identifier name =>
      obtain ⟨hd, hc⟩ := not_or.mp (mt isKeyword_identifier_iff.mpr hk)
      simp [parts, hd, hc]
  | _ => rfl

lemma Agree.of_value {σ τ α : Type} {lax : Prop} {R : σ → τ → Prop} {P : α → Prop} {v : α} {s : σ}
    {y : Outcome α × τ} (h : Agree lax R P (.value v, s) y) :
    ∃ t, y = (.value v, t) ∧ P v ∧ R s t := by
  cases h with
  | value hv hst => exact ⟨_, rfl, hv, hst⟩

namespace Coupling

variable {ι : Type} {C : Coupling ι} {i : ι} {n : Machine}

lemma startsEach (h : C.Agrees ev ev') {es : List Expr} (hes : ∀ e ∈ es, C.code i e)
    (hmn : C.rel i m n) {e' : Expr} {m' : Machine} (hs : StartsEach ev es m e' m') :
    ∃ n', StartsEach ev' es n e' n' ∧ C.code i e' ∧ C.rel i m' n' := by
  induction hs generalizing n with
  | head => exact ⟨n, .head, hes _ List.mem_cons_self, hmn⟩
  | tail hv _ ih =>
      have hagree := h (hes _ List.mem_cons_self) hmn
      rw [hv] at hagree
      obtain ⟨n₁, hv', -, hmn₁⟩ := hagree.of_value
      obtain ⟨n', hs', hc, hmn'⟩ := ih (fun e he => hes e (by simp [he])) hmn₁
      exact ⟨n', .tail hv' hs', hc, hmn'⟩

lemma startsClause (h : C.Agrees ev ev') {clauses : List Expr}
    (hc : ∀ test body, .combination [test, body] ∈ clauses → C.code i test ∧ C.code i body)
    (hmn : C.rel i m n) {e' : Expr} {m' : Machine} (hs : StartsClause ev clauses m e' m') :
    ∃ n', StartsClause ev' clauses n e' n' ∧ C.code i e' ∧ C.rel i m' n' := by
  induction hs generalizing n with
  | test => exact ⟨n, .test, (hc _ _ List.mem_cons_self).1, hmn⟩
  | body hv hno =>
      have hagree := h (hc _ _ List.mem_cons_self).1 hmn
      rw [hv] at hagree
      obtain ⟨n₁, hv', -, hmn₁⟩ := hagree.of_value
      exact ⟨n₁, .body hv' hno, (hc _ _ List.mem_cons_self).2, hmn₁⟩
  | next hv hno _ ih =>
      have hagree := h (hc _ _ List.mem_cons_self).1 hmn
      rw [hv] at hagree
      obtain ⟨n₁, hv', -, hmn₁⟩ := hagree.of_value
      obtain ⟨n', hs', hc', hmn'⟩ := ih (fun test body hb => hc test body (by simp [hb])) hmn₁
      exact ⟨n', .next hv' hno hs', hc', hmn'⟩

lemma code_application {operator : Expr} {operands : List Expr} (hk : ¬ IsKeyword operator)
    (hc : C.code i (.combination (operator :: operands))) :
    C.code i operator ∧ ∀ e ∈ operands, C.code i e := by
  have hparts : ∀ p ∈ operator :: operands, C.code i p := fun p hp =>
    C.code_part hc (by rwa [parts_application hk])
  exact List.forall_mem_cons.mp hparts

/-- Evaluations in step start the same evaluations, each pair of them in step again. -/
lemma starts (h : C.Agrees ev ev') (hc : C.code i e) (hmn : C.rel i m n) {e' : Expr} {m' : Machine}
    (hs : Starts ev m e e' m') : ∃ j n', Starts ev' n e e' n' ∧ C.code j e' ∧ C.rel j m' n' := by
  cases hs with
  | definition hname => exact ⟨i, n, .definition hname, C.code_part hc (by simp [parts]), hmn⟩
  | clause hs =>
      obtain ⟨n', hs', hc', hmn'⟩ := startsClause h (fun test body hb =>
        ⟨C.code_part hc (mem_parts_clause hb (by simp)),
          C.code_part hc (mem_parts_clause hb (by simp))⟩)
        hmn hs
      exact ⟨i, n', .clause hs', hc', hmn'⟩
  | operator hk => exact ⟨i, n, .operator hk, (code_application hk hc).1, hmn⟩
  | operand hk hv hcall hs =>
      obtain ⟨hoperator, hoperands⟩ := code_application hk hc
      have hagree := h hoperator hmn
      rw [hv] at hagree
      obtain ⟨n₁, hv', -, hmn₁⟩ := hagree.of_value
      obtain ⟨n', hs', hc', hmn'⟩ := startsEach h hoperands hmn₁ hs
      exact ⟨i, n', .operand hk hv' hcall hs', hc', hmn'⟩
  | body hk hv hargs hlen =>
      obtain ⟨hoperator, hoperands⟩ := code_application hk hc
      have hagree := h hoperator hmn
      rw [hv] at hagree
      obtain ⟨n₁, hv', hproc, hmn₁⟩ := hagree.of_value
      have hagree := evalList_agree h hoperands hmn₁
      rw [hargs] at hagree
      obtain ⟨n₂, hargs', hvalues, hmn₂⟩ := hagree.of_value
      obtain ⟨j, hbody, henter, -⟩ := C.call hmn₂ hproc hvalues hlen
      exact ⟨j, _, .body hk hv' hargs' hlen, hbody, henter⟩

/-- Evaluations in step come to the same points, each pair of them in step again. -/
lemma reaches (C : Coupling ι) {d d' : Nat} {e' : Expr} {m' : Machine} (hr : Reaches d e m d' e' m')
    (hc : C.code i e) (hmn : C.rel i m n) :
    ∃ j n', Reaches d e n d' e' n' ∧ C.code j e' ∧ C.rel j m' n' := by
  induction hr generalizing i n with
  | refl => exact ⟨i, n, .refl, hc, hmn⟩
  | step h _ ih =>
      obtain ⟨j, n₁, h', hc₁, hmn₁⟩ := starts (C.eval_agree (.inl rfl)) hc hmn h
      obtain ⟨k, n', hr', hc', hmn'⟩ := ih hc₁ hmn₁
      exact ⟨k, n', .step h' hr', hc', hmn'⟩

end Coupling

/-! ### Where faults come from -/

/-- What a level of evaluation may raise by itself. A definition that meets no frame and the
application of something that cannot be called are told apart from all else. -/
inductive Raises (ev : Evaluator) (m : Machine) (e : Expr) : Fault → Prop where
  | noFrame {m₁ : Machine} (henv : m₁.env = [])
      (hm : m₁ = m ∨ ∃ e' m' v, Starts ev m e e' m' ∧ ev e' m' = (.value v, m₁)) :
      Raises ev m e .noFrame
  | notProcedure {e' v : Expr} {m' m₁ : Machine} (hs : Starts ev m e e' m')
      (hv : ev e' m' = (.value v, m₁)) (hno : ∀ name p, v ≠ .builtin name (some p)) :
      Raises ev m e (.notProcedure v)
  | other {f : Fault} (hframe : f ≠ .noFrame) (hproc : ∀ v, f ≠ .notProcedure v) : Raises ev m e f

lemma exists_of_andThen_fault {σ α β : Type} {a : Action σ α} {k : α → Action σ β} {s : σ}
    {f : Fault} (h : (andThen a k s).1 = .fault f) :
    (a s).1 = .fault f ∨ ∃ v s', a s = (.value v, s') ∧ (k v s').1 = .fault f := by
  rw [andThen] at h
  rcases ha : a s with ⟨v | g | _, s'⟩
  · rw [ha] at h
    exact .inr ⟨v, s', rfl, h⟩
  · rw [ha] at h
    cases h
    exact .inl rfl
  · rw [ha] at h
    cases h

lemma exists_of_evalList_fault {es : List Expr} {f : Fault} (h : (evalList ev es m).1 = .fault f) :
    ∃ e' m', StartsEach ev es m e' m' ∧ (ev e' m').1 = .fault f := by
  induction es generalizing m with
  | nil => cases h
  | cons e es ih =>
      rw [evalList_cons] at h
      rcases exists_of_andThen_fault h with h | ⟨v, m₁, hv, h⟩
      · exact ⟨e, m, .head, h⟩
      · rcases exists_of_andThen_fault h with h | ⟨vs, m₂, -, h⟩
        · obtain ⟨e', m', hs, hf⟩ := ih h
          exact ⟨e', m', .tail hv hs, hf⟩
        · cases h

lemma exists_of_evalCond_fault {clauses : List Expr} {f : Fault}
    (h : (evalCond ev clauses m).1 = .fault f) :
    f = .clause ∨ ∃ e' m', StartsClause ev clauses m e' m' ∧ (ev e' m').1 = .fault f := by
  induction clauses generalizing m with
  | nil => cases h
  | cons clause clauses ih =>
      by_cases hpair : ∃ test body, clause = .combination [test, body]
      · obtain ⟨test, body, rfl⟩ := hpair
        rw [evalCond_cons] at h
        rcases exists_of_andThen_fault h with h | ⟨v, m₁, hv, h⟩
        · exact .inr ⟨test, m, .test, h⟩
        · cases hno : v.isFalse with
          | true =>
              rw [hno, if_pos rfl] at h
              rcases ih h with h | ⟨e', m', hs, hf⟩
              · exact .inl h
              · exact .inr ⟨e', m', .next hv hno hs, hf⟩
          | false =>
              rw [hno, if_neg (by simp)] at h
              exact .inr ⟨body, m₁, .body hv hno, h⟩
      · rw [evalCond_of_not_pair ev hpair] at h
        cases h
        exact .inl rfl

/-- A fault of one level is raised there, or by an evaluation that the level starts. -/
def FaultFrom (ev : Evaluator) (m : Machine) (e : Expr) (f : Fault) : Prop :=
  Raises ev m e f ∨ ∃ e' m', Starts ev m e e' m' ∧ (ev e' m').1 = .fault f

lemma bind_fault {name : String} {v : Expr} {event : Event} {f : Fault}
    (h : (bind name v event m).1 = .fault f) : f = .noFrame ∧ m.env = [] := by
  rw [bind] at h
  cases henv : m.env with
  | nil =>
      rw [henv] at h
      cases h
      exact ⟨rfl, rfl⟩
  | cons g gs =>
      rw [henv] at h
      cases h

lemma signatureNames_fault {es : List Expr} {f : Fault} (h : signatureNames es = .error f) :
    f = .signature ∨ ∃ name, f = .reserved name := by
  fun_induction signatureNames es with
  | case1 => cases h
  | case2 name es hname =>
      cases h
      exact .inr ⟨name, rfl⟩
  | case3 name es hname ih =>
      cases hes : signatureNames es with
      | error g =>
          rw [hes] at h
          cases h
          exact ih hes
      | ok names =>
          rw [hes] at h
          cases h
  | case4 e es hno =>
      cases h
      exact .inl rfl

lemma faultFrom_evalDefine {operands : List Expr} {f : Fault}
    (h : (evalDefine ev operands m).1 = .fault f) :
    FaultFrom ev m (.combination (.identifier "define" :: operands)) f := by
  match operands with
  | [.identifier name, body] =>
      rw [evalDefine_value] at h
      split at h
      · cases h
        exact .inl (.other (by simp) (by simp))
      · rename_i hname
        have hstart :
            Starts ev m (.combination [.identifier "define", .identifier name, body]) body m :=
          .definition (by simpa using hname)
        rcases exists_of_andThen_fault h with h | ⟨v, m₁, hv, h⟩
        · exact .inr ⟨body, m, hstart, h⟩
        · obtain ⟨rfl, henv⟩ := bind_fault h
          exact .inl (.noFrame henv (.inr ⟨body, m, v, hstart, hv⟩))
  | [.combination elements, body] =>
      rw [evalDefine] at h
      cases hs : signatureNames elements with
      | error g =>
          rw [hs] at h
          cases h
          refine .inl ?_
          obtain rfl | ⟨name, rfl⟩ := signatureNames_fault hs
          · exact .other (by simp) (by simp)
          · exact .other (by simp) (by simp)
      | ok names =>
          rw [hs] at h
          cases names with
          | nil =>
              cases h
              exact .inl (.other (by simp) (by simp))
          | cons name params =>
              obtain ⟨rfl, henv⟩ := bind_fault h
              exact .inl (.noFrame henv (.inl rfl))
  | [.string _, _] | [.number _, _] | [.boolean _, _] | [.procedure _ _ _, _] | [.builtin _ _, _]
  | [.void, _] | [] =>
      cases h
      exact .inl (.other (by simp) (by simp))
  | [e] | e :: _ :: _ :: _ =>
      cases e <;> cases h <;> exact .inl (.other (by simp) (by simp))

lemma callBuiltin_fault {name : String} {operation : Option Primitive} {args : List Expr}
    {f : Fault} (h : (callBuiltin name operation args m).1 = .fault f) :
    (operation = none ∧ f = .notProcedure (.builtin name none)) ∨
      (f ≠ .noFrame ∧ ∀ v, f ≠ .notProcedure v) := by
  cases operation with
  | none =>
      cases h
      exact .inl ⟨rfl, rfl⟩
  | some p =>
      rw [callBuiltin] at h
      cases hp : p.apply args with
      | ok v =>
          rw [hp] at h
          cases h
      | error g =>
          rw [hp] at h
          cases h
          refine .inr ?_
          obtain ⟨k, rfl⟩ | ⟨n, rfl⟩ | rfl := Primitive.apply_error hp
          all_goals exact ⟨by simp, by simp⟩

lemma faultFrom_evalApplication {operator : Expr} {operands : List Expr} (hk : ¬ IsKeyword operator)
    {f : Fault} (h : (evalApplication ev operator operands m).1 = .fault f) :
    FaultFrom ev m (.combination (operator :: operands)) f := by
  have hstart : Starts ev m (.combination (operator :: operands)) operator m := .operator hk
  rw [evalApplication_eq] at h
  rcases exists_of_andThen_fault h with h | ⟨v, m₁, hv, h⟩
  · exact .inr ⟨operator, m, hstart, h⟩
  by_cases hcall : IsCallable v
  · have hoperands : (evalList ev operands m₁).1 = .fault f →
        FaultFrom ev m (.combination (operator :: operands)) f := fun h =>
      have ⟨e', m', hs, hf⟩ := exists_of_evalList_fault h
      .inr ⟨e', m', .operand hk hv hcall hs, hf⟩
    cases hcall with
    | builtin name operation =>
        rcases exists_of_andThen_fault h with h | ⟨args, m₂, -, h⟩
        · exact hoperands h
        · rcases callBuiltin_fault h with ⟨rfl, rfl⟩ | ⟨hframe, hproc⟩
          · exact .inl (.notProcedure hstart hv (by simp))
          · exact .inl (.other hframe hproc)
    | procedure name params body =>
        rcases exists_of_andThen_fault h with h | ⟨args, m₂, hargs, h⟩
        · exact hoperands h
        · rw [applyProcedure_eq] at h
          split at h
          · exact .inr ⟨body, _, .body hk hv hargs ‹_›, h⟩
          · cases h
            exact .inl (.other (by simp) (by simp))
  · rw [applyTo_of_not_isCallable hcall] at h
    cases h
    exact .inl (.notProcedure hstart hv fun name p hp => hcall (hp ▸ .builtin name _))

lemma faultFrom_evalOnce {f : Fault} (h : (evalOnce ev e m).1 = .fault f) : FaultFrom ev m e f := by
  cases e with
  | identifier name =>
      rw [evalOnce] at h
      split at h
      · cases h
      · cases h
        exact .inl (.other (by simp) (by simp))
  | combination elements =>
      cases elements with
      | nil =>
          cases h
          exact .inl (.other (by simp) (by simp))
      | cons operator operands =>
          by_cases hk : IsKeyword operator
          · rcases hk with rfl | rfl
            · exact faultFrom_evalDefine h
            · rcases exists_of_evalCond_fault h with rfl | ⟨e', m', hs, hf⟩
              · exact .inl (.other (by simp) (by simp))
              · exact .inr ⟨e', m', .clause hs, hf⟩
          · rw [evalOnce, evalCombination_of_not_isKeyword hk] at h
            exact faultFrom_evalApplication hk h
  | _ => cases h

/-- Every fault was raised at some point of the evaluation. -/
theorem exists_raises {d : Nat} {f : Fault} (h : (eval d e m).1 = .fault f) :
    ∃ d' e' m', Reaches d e m (d' + 1) e' m' ∧ Raises (eval d') m' e' f := by
  induction d generalizing e m with
  | zero => cases h
  | succ d ih =>
      rw [eval_succ] at h
      rcases faultFrom_evalOnce h with hr | ⟨e₁, m₁, hs, hf⟩
      · exact ⟨d, e, m, .refl, hr⟩
      · obtain ⟨d', e', m', hreach, hr⟩ := ih hf
        exact ⟨d', e', m', .step hs hreach, hr⟩

end Eval

end PocketScheme
