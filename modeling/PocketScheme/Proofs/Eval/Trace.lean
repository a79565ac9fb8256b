import PocketScheme.Proofs.Eval.Points

/-!
What an evaluation records. The events of an evaluation are those of the evaluations that it starts,
in that order, and at most one of its own: a definition is recorded after the value that it binds is
there, and a call after its arguments and before its body.

* `Machine.Adds`: so many events recorded since, or none without tracing;
* `eval_depth`: evaluation keeps the number of frames;
* `log`: the events of an evaluation, the first one first;
* `eval_adds`: with tracing on an evaluation records its log, and without tracing nothing;
* `Logs`: an event that one level of evaluation records by itself;
* `mem_log_iff`: the log holds what is recorded at the points that the evaluation comes to;
* `log_define_of_not_value`: a definition that fails records nothing by itself.
-/

namespace PocketScheme

/-! ### Recorded events -/

namespace Machine

variable {m m' m'' : Machine} {log log' : List Event}

/-- Since it was `m` the machine has recorded the events of `log`, the first one first. Without
tracing it has recorded nothing. -/
structure Adds (log : List Event) (m m' : Machine) : Prop where
  tracing : m'.tracing = m.tracing
  events : m'.events = (if m.tracing then log.reverse else []) ++ m.events

namespace Adds

lemma refl (m : Machine) : Adds [] m m :=
  ⟨rfl, by simp⟩

lemma trans (h : Adds log m m') (h' : Adds log' m' m'') : Adds (log ++ log') m m'' := by
  refine ⟨h'.tracing.trans h.tracing, ?_⟩
  rw [h'.events, h.events, h.tracing]
  cases m.tracing <;> simp

lemma record (m : Machine) (event : Event) : Adds [event] m (m.record event) := by
  unfold Machine.record
  split
  · exact ⟨rfl, by simp [*]⟩
  · exact ⟨rfl, by simp [*]⟩

/-- Another environment at the end makes no difference. -/
lemma withEnv (h : Adds log m m') (env : Environment) : Adds log m (m'.withEnv env) :=
  ⟨h.tracing, h.events⟩

/-- The trace as text grows by the lines of the events. -/
lemma trace_eq (h : Adds log m m') (ht : m.tracing = true) :
    m'.trace = String.join ((m.events.reverse ++ log).map Event.line) := by
  rw [trace, h.events, if_pos ht]
  simp

end Adds

end Machine

namespace Eval

open Machine (Adds)

variable {ev : Evaluator} {m : Machine} {e : Expr}

/-! ### The number of frames -/

/-- One evaluation, with so many frames. -/
def stacked : Coupling Nat where
  lax := False
  rel k m n := m = n ∧ m.env.depth = k
  code _ _ := True
  value _ := True
  code_part _ _ := trivial
  lookup_eq h _ := by rw [h.1]
  lookup_value _ _ _ := trivial
  literal _ _ _ := trivial
  number _ := trivial
  boolean _ := trivial
  void := trivial
  procedure _ _ := trivial
  bind := by
    rintro k m _ target body v name event ⟨rfl, hk⟩ _ _ _
    unfold Eval.bind
    cases henv : m.env with
    | nil => exact .fault ⟨rfl, hk⟩
    | cons f fs =>
        refine .value trivial ⟨rfl, ?_⟩
        rw [Machine.record_env, Machine.withEnv_env, ← hk, henv]
        rfl
  call := by
    rintro k m _ name params body args ⟨rfl, hk⟩ _ _ _
    refine ⟨k + 1, trivial, ⟨rfl, ?_⟩, ?_⟩
    · rw [enter_env, ← hk]
      rfl
    · rintro m' _ ⟨rfl, hk'⟩
      refine ⟨rfl, ?_⟩
      rw [leave_env, Environment.pop, Environment.depth, List.length_tail]
      exact Nat.sub_eq_of_eq_add hk'

lemma eval_depth (d : Nat) (e : Expr) (m : Machine) :
    (eval d e m).2.env.depth = m.env.depth :=
  (stacked.eval_agree (.inl rfl) (d := d) (i := m.env.depth) (e := e) (m := m) (n := m) trivial
    ⟨rfl, rfl⟩).state.2

lemma evalList_depth (d : Nat) (es : List Expr) (m : Machine) :
    (evalList (eval d) es m).2.env.depth = m.env.depth :=
  (Coupling.evalList_agree (stacked.eval_agree (.inl rfl)) (i := m.env.depth) (m := m) (n := m)
    (fun _ _ => trivial) ⟨rfl, rfl⟩).state.2

/-! ### The log -/

/-- What a computation comes to is logged by `next` if it is a value, and by nothing otherwise. -/
def onValue {α : Type} (x : Outcome α × Machine) (next : α → Machine → List Event) : List Event :=
  match x with
  | (.value v, m) => next v m
  | _ => []

section

variable (ev : Evaluator) (logs : Expr → Machine → List Event)

/-- The log of expressions that are evaluated from left to right. -/
def logList : List Expr → Machine → List Event
  | [], _ => []
  | e :: es, m => logs e m ++ onValue (ev e m) fun _ m₁ => logList es m₁

/-- The log of a name that is bound, if there is a frame for it. -/
def logBind (event : Event) (m : Machine) : List Event :=
  if m.env.isEmpty then [] else [event]

/-- The log of the special form `define`. -/
def logDefine : List Expr → Machine → List Event
  | [.identifier name, body], m =>
    if isSpecial name then []
    else logs body m ++ onValue (ev body m) fun v m₁ => logBind (.defined name v) m₁
  | [.combination elements, _], m =>
    match signatureNames elements with
    | .ok (name :: params) => logBind (.definedProcedure name params) m
    | _ => []
  | _, _ => []

/-- The log of the special form `cond`. -/
def logCond : List Expr → Machine → List Event
  | .combination [test, body] :: clauses, m =>
    logs test m ++ onValue (ev test m) fun v m₁ =>
      if v.isFalse then logCond clauses m₁ else logs body m₁
  | _, _ => []

/-- The log of a call that is evaluated with so many frames, once its operator has a value. -/
def logApply (frames : Nat) (operands : List Expr) : Expr → Machine → List Event
  | .builtin _ _, m => logList ev logs operands m
  | .procedure name params body, m =>
    logList ev logs operands m ++ onValue (evalList ev operands m) fun args m₁ =>
      if args.length = params.length then
        .applied name args (frames + 1) :: logs body (enter name params args m₁)
      else []
  | _, _ => []

/-- The log of a combination that is no special form. -/
def logApplication (operator : Expr) (operands : List Expr) (m : Machine) : List Event :=
  logs operator m ++ onValue (ev operator m) (logApply ev logs m.env.depth operands)

/-- The log of a combination. -/
def logCombination : List Expr → Machine → List Event
  | [], _ => []
  | .identifier name :: operands, m =>
    if name == "define" then logDefine ev logs operands m
    else if name == "cond" then logCond ev logs operands m
    else logApplication ev logs (.identifier name) operands m
  | operator :: operands, m => logApplication ev logs operator operands m

/-- The log of one level of evaluation. -/
def logOnce : Expr → Machine → List Event
  | .combination elements, m => logCombination ev logs elements m
  | _, _ => []

end

/-- The events of an evaluation, the first one first. -/
def log : Nat → Expr → Machine → List Event
  | 0, _, _ => []
  | d + 1, e, m => logOnce (eval d) (log d) e m

variable {logs : Expr → Machine → List Event}

lemma logCombination_of_not_isKeyword {operator : Expr} (h : ¬ IsKeyword operator)
    (operands : List Expr) :
    logCombination ev logs (operator :: operands) m =
      logApplication ev logs operator operands m := by
  cases operator with
  | identifier name =>
      obtain ⟨hd, hc⟩ := not_or.mp (mt isKeyword_identifier_iff.mpr h)
      simp only [logCombination, beq_iff_eq, hd, hc, if_false]
  | _ => rfl

lemma logApply_of_not_isCallable {v : Expr} (h : ¬ IsCallable v) (frames : Nat)
    (operands : List Expr) : logApply ev logs frames operands v m = [] := by
  cases v with
  | builtin name operation => exact absurd (.builtin name operation) h
  | procedure name params body => exact absurd (.procedure name params body) h
  | _ => rfl

/-! ### Evaluation records its log -/

@[simp] lemma onValue_nil {α : Type} (x : Outcome α × Machine) :
    onValue x (fun _ _ => []) = [] := by
  rcases x with ⟨_ | _ | _, _⟩ <;> rfl

/-- A computation and the one after it record one log after the other. -/
lemma adds_andThen {α β : Type} {a : Action Machine α} {k : α → Action Machine β}
    {l : α → Machine → List Event} {first : List Event} (h : Adds first m (a m).2)
    (hk : ∀ v m₁, a m = (.value v, m₁) → Adds (l v m₁) m₁ (k v m₁).2) :
    Adds (first ++ onValue (a m) l) m (andThen a k m).2 := by
  unfold andThen onValue
  rcases ha : a m with ⟨v | f | _, m₁⟩
  · rw [ha] at h
    exact h.trans (hk v m₁ ha)
  · rw [ha] at h
    simpa using h
  · rw [ha] at h
    simpa using h

lemma adds_bind (name : String) (v : Expr) (event : Event) (m : Machine) :
    Adds (logBind event m) m (bind name v event m).2 := by
  unfold bind logBind
  cases henv : m.env with
  | nil => exact .refl m
  | cons f fs =>
      have h := Adds.record (m.withEnv (f.insert name v :: fs)) event
      exact ⟨h.tracing, h.events⟩

lemma adds_enter (name : String) (params : List String) (args : List Expr) (m : Machine) :
    Adds [.applied name args (m.env.depth + 1)] m (enter name params args m) := by
  have h := Adds.record (m.withEnv (bindParams params args :: m.env))
    (.applied name args (m.env.depth + 1))
  exact ⟨h.tracing, h.events⟩

lemma adds_evalList (h : ∀ e m, Adds (logs e m) m (ev e m).2) (es : List Expr) (m : Machine) :
    Adds (logList ev logs es m) m (evalList ev es m).2 := by
  induction es generalizing m with
  | nil => exact .refl m
  | cons e es ih =>
      rw [evalList_cons]
      refine adds_andThen (h e m) fun v m₁ _ => ?_
      simpa using adds_andThen (l := fun _ _ => []) (ih m₁) fun vs m₂ _ => .refl m₂

lemma adds_evalDefine (h : ∀ e m, Adds (logs e m) m (ev e m).2) (operands : List Expr)
    (m : Machine) :
    Adds (logDefine ev logs operands m) m (evalDefine ev operands m).2 := by
  match operands with
  | [.identifier name, body] =>
      rw [evalDefine_value, logDefine]
      split
      · exact .refl m
      · exact adds_andThen (h body m) fun v m₁ _ => adds_bind name v (.defined name v) m₁
  | [.combination elements, body] =>
      rw [evalDefine, logDefine]
      rcases signatureNames elements with f | _ | ⟨name, params⟩
      · exact .refl m
      · exact .refl m
      · exact adds_bind name _ (.definedProcedure name params) m
  | [.string _, _] | [.number _, _] | [.boolean _, _] | [.procedure _ _ _, _] | [.builtin _ _, _]
  | [.void, _] => exact .refl m
  | [] => exact .refl m
  | [e] | e :: _ :: _ :: _ => cases e <;> exact .refl m

lemma adds_evalCond (h : ∀ e m, Adds (logs e m) m (ev e m).2) (clauses : List Expr) (m : Machine) :
    Adds (logCond ev logs clauses m) m (evalCond ev clauses m).2 := by
  induction clauses generalizing m with
  | nil => exact .refl m
  | cons clause clauses ih =>
      by_cases hpair : ∃ test body, clause = .combination [test, body]
      · obtain ⟨test, body, rfl⟩ := hpair
        rw [evalCond_cons, logCond]
        refine adds_andThen (h test m) fun v m₁ _ => ?_
        split
        · exact ih m₁
        · exact h body m₁
      · rw [evalCond_of_not_pair ev hpair, logCond]
        · exact .refl m
        · rintro test body _ heq
          obtain ⟨hclause, -⟩ := List.cons.inj heq
          exact hpair ⟨test, body, hclause⟩

lemma adds_evalApplication {d : Nat} (h : ∀ e m, Adds (log d e m) m (eval d e m).2)
    (operator : Expr) (operands : List Expr) (m : Machine) :
    Adds (logApplication (eval d) (log d) operator operands m) m
      (evalApplication (eval d) operator operands m).2 := by
  rw [evalApplication_eq]
  refine adds_andThen (h operator m) fun v m₁ hv => ?_
  by_cases hcall : IsCallable v
  · have hoperands := adds_evalList h operands m₁
    cases hcall with
    | builtin name operation =>
        have hnone : ∀ args m₂, Adds [] m₂ (callBuiltin name operation args m₂).2 := by
          intro args m₂
          unfold callBuiltin
          repeat' split
          all_goals exact .refl m₂
        rw [applyTo, logApply]
        simpa using adds_andThen (l := fun _ _ => []) hoperands fun args m₂ _ => hnone args m₂
    | procedure name params body =>
        refine adds_andThen hoperands fun args m₂ hargs => ?_
        rw [applyProcedure_eq]
        split
        · -- neither the operator nor the operands have changed the number of frames
          have hdepth : m₂.env.depth = m.env.depth := by
            have h₁ := eval_depth d operator m
            have h₂ := evalList_depth d operands m₁
            rw [hv] at h₁
            rw [hargs] at h₂
            exact h₂.trans h₁
          rw [← hdepth]
          exact ((adds_enter name params args m₂).trans (h body _)).withEnv _
        · exact .refl m₂
  · rw [applyTo_of_not_isCallable hcall, logApply_of_not_isCallable hcall]
    exact .refl m₁

/-- With tracing on an evaluation records its log, whatever it comes to, and without tracing it
records nothing. -/
theorem eval_adds (d : Nat) (e : Expr) (m : Machine) : Adds (log d e m) m (eval d e m).2 := by
  induction d generalizing e m with
  | zero => exact .refl m
  | succ d ih =>
      cases e with
      | combination elements =>
          rw [eval_succ, evalOnce, log, logOnce]
          cases elements with
          | nil => exact .refl m
          | cons operator operands =>
              by_cases hk : IsKeyword operator
              · rcases hk with rfl | rfl
                · exact adds_evalDefine ih operands m
                · exact adds_evalCond ih operands m
              · rw [evalCombination_of_not_isKeyword hk, logCombination_of_not_isKeyword hk]
                exact adds_evalApplication ih operator operands m
      | identifier name =>
          rw [eval_succ, evalOnce]
          cases m.env.lookup name <;> exact .refl m
      | _ => exact .refl m

/-! ### The events of the points -/

/-- Evaluating an expression on a machine by means of `ev` records an event by itself: a name is
bound, or a procedure starts on the values of its operands, one frame above those of the machine. -/
inductive Logs (ev : Evaluator) (m : Machine) : Expr → Event → Prop where
  | defined {name : String} {body v : Expr} {m₁ : Machine} (hname : isSpecial name = false)
      (hv : ev body m = (.value v, m₁)) (henv : m₁.env ≠ []) :
      Logs ev m (.combination [.identifier "define", .identifier name, body]) (.defined name v)
  | definedProcedure {name : String} {params : List String} {elements : List Expr} {body : Expr}
      (hs : signatureNames elements = .ok (name :: params)) (henv : m.env ≠ []) :
      Logs ev m (.combination [.identifier "define", .combination elements, body])
        (.definedProcedure name params)
  | applied {operator body : Expr} {operands args : List Expr} {name : String}
      {params : List String}
      {m₁ m₂ : Machine} (hk : ¬ IsKeyword operator)
      (hv : ev operator m = (.value (.procedure name params body), m₁))
      (hargs : evalList ev operands m₁ = (.value args, m₂)) (hlen : args.length = params.length) :
      Logs ev m (.combination (operator :: operands)) (.applied name args (m.env.depth + 1))

variable {event : Event}

lemma mem_onValue {α : Type} {x : Outcome α × Machine} {next : α → Machine → List Event} :
    event ∈ onValue x next ↔ ∃ v m₁, x = (.value v, m₁) ∧ event ∈ next v m₁ := by
  rcases x with ⟨v | f | _, m₁⟩ <;> simp [onValue]

lemma mem_logBind {event' : Event} : event ∈ logBind event' m ↔ m.env ≠ [] ∧ event = event' := by
  unfold logBind
  cases m.env <;> simp

lemma mem_logList {es : List Expr} :
    event ∈ logList ev logs es m ↔ ∃ e' m', StartsEach ev es m e' m' ∧ event ∈ logs e' m' := by
  induction es generalizing m with
  | nil =>
      constructor
      · intro h
        simp [logList] at h
      · rintro ⟨e', m', hs, -⟩
        cases hs
  | cons e es ih =>
      rw [logList, List.mem_append, mem_onValue]
      constructor
      · rintro (h | ⟨v, m₁, hv, h⟩)
        · exact ⟨e, m, .head, h⟩
        · obtain ⟨e', m', hs, h⟩ := ih.mp h
          exact ⟨e', m', .tail hv hs, h⟩
      · rintro ⟨e', m', hs, h⟩
        cases hs with
        | head => exact .inl h
        | tail hv hs => exact .inr ⟨_, _, hv, ih.mpr ⟨e', m', hs, h⟩⟩

lemma mem_logCond {clauses : List Expr} :
    event ∈ logCond ev logs clauses m ↔
      ∃ e' m', StartsClause ev clauses m e' m' ∧ event ∈ logs e' m' := by
  fun_induction logCond ev logs clauses m with
  | case1 test body clauses m ih =>
      rw [List.mem_append, mem_onValue]
      constructor
      · rintro (h | ⟨v, m₁, hv, h⟩)
        · exact ⟨test, m, .test, h⟩
        · cases hno : v.isFalse with
          | true =>
              rw [if_pos hno] at h
              obtain ⟨e', m', hs, h⟩ := (ih m₁).mp h
              exact ⟨e', m', .next hv hno hs, h⟩
          | false =>
              rw [if_neg (by simp [hno])] at h
              exact ⟨body, m₁, .body hv hno, h⟩
      · rintro ⟨e', m', hs, h⟩
        cases hs with
        | test => exact .inl h
        | body hv hno => exact .inr ⟨_, _, hv, by rwa [if_neg (by simp [hno])]⟩
        | next hv hno hs =>
            exact .inr ⟨_, _, hv, by rw [if_pos hno]; exact (ih _).mpr ⟨e', m', hs, h⟩⟩
  | case2 clauses m hno =>
      constructor
      · intro h
        simp at h
      · rintro ⟨e', m', hs, -⟩
        cases hs <;> exact absurd rfl (hno _ _ _)

/-- An event of a level is in its log. -/
lemma Logs.mem (h : Logs ev m e event) : event ∈ logOnce ev logs e m := by
  cases h with
  | @defined name body v m₁ hname hv henv =>
      have hbind : .defined name v ∈
          onValue (ev body m) fun v m₁ => logBind (.defined name v) m₁ :=
        mem_onValue.mpr ⟨v, m₁, hv, mem_logBind.mpr ⟨henv, rfl⟩⟩
      simp [logOnce, logCombination, logDefine, hname, hbind]
  | definedProcedure hs henv =>
      simp [logOnce, logCombination, logDefine, hs, mem_logBind, henv]
  | applied hk hv hargs hlen =>
      rw [logOnce, logCombination_of_not_isKeyword hk, logApplication, List.mem_append, mem_onValue]
      refine .inr ⟨_, _, hv, ?_⟩
      rw [logApply, List.mem_append, mem_onValue]
      exact .inr ⟨_, _, hargs, by simp [hlen]⟩

/-- The log of what a level starts is part of its log. -/
lemma Starts.mem {e' : Expr} {m' : Machine} (h : Starts ev m e e' m')
    (hevent : event ∈ logs e' m') :
    event ∈ logOnce ev logs e m := by
  cases h with
  | definition hname => simp [logOnce, logCombination, logDefine, hname, hevent]
  | clause hs => exact mem_logCond.mpr ⟨e', m', hs, hevent⟩
  | operator hk =>
      rw [logOnce, logCombination_of_not_isKeyword hk, logApplication, List.mem_append]
      exact .inl hevent
  | operand hk hv hcall hs =>
      rw [logOnce, logCombination_of_not_isKeyword hk, logApplication, List.mem_append, mem_onValue]
      have hlist := mem_logList.mpr ⟨e', m', hs, hevent⟩
      refine .inr ⟨_, _, hv, ?_⟩
      cases hcall with
      | builtin name operation => exact hlist
      | procedure name params body => exact List.mem_append.mpr (.inl hlist)
  | body hk hv hargs hlen =>
      rw [logOnce, logCombination_of_not_isKeyword hk, logApplication, List.mem_append, mem_onValue]
      refine .inr ⟨_, _, hv, ?_⟩
      rw [logApply, List.mem_append, mem_onValue]
      exact .inr ⟨_, _, hargs, by simp [hlen, hevent]⟩

/-- The event comes from the level itself or from an evaluation that it starts. -/
def Stems (ev : Evaluator) (logs : Expr → Machine → List Event) (m : Machine) (e : Expr)
    (event : Event) : Prop :=
  Logs ev m e event ∨ ∃ e' m', Starts ev m e e' m' ∧ event ∈ logs e' m'

lemma stems_of_mem_logDefine {operands : List Expr} (h : event ∈ logDefine ev logs operands m) :
    Stems ev logs m (.combination (.identifier "define" :: operands)) event := by
  match operands with
  | [.identifier name, body] =>
      rw [logDefine] at h
      split at h
      · simp at h
      · rename_i hname
        have hname : isSpecial name = false := by simpa using hname
        rw [List.mem_append, mem_onValue] at h
        rcases h with h | ⟨v, m₁, hv, h⟩
        · exact .inr ⟨body, m, .definition hname, h⟩
        · obtain ⟨henv, rfl⟩ := mem_logBind.mp h
          exact .inl (.defined hname hv henv)
  | [.combination elements, body] =>
      rw [logDefine] at h
      split at h
      · rename_i hs
        obtain ⟨henv, rfl⟩ := mem_logBind.mp h
        exact .inl (.definedProcedure hs henv)
      · simp at h
  | [.string _, _] | [.number _, _] | [.boolean _, _] | [.procedure _ _ _, _] | [.builtin _ _, _]
  | [.void, _] => simp [logDefine] at h
  | [] => simp [logDefine] at h
  | [e] | e :: _ :: _ :: _ => cases e <;> simp [logDefine] at h

lemma stems_of_mem_logApplication {operator : Expr} {operands : List Expr}
    (hk : ¬ IsKeyword operator) (h : event ∈ logApplication ev logs operator operands m) :
    Stems ev logs m (.combination (operator :: operands)) event := by
  rw [logApplication, List.mem_append, mem_onValue] at h
  rcases h with h | ⟨v, m₁, hv, h⟩
  · exact .inr ⟨operator, m, .operator hk, h⟩
  by_cases hcall : IsCallable v
  · have hlist : event ∈ logList ev logs operands m₁ →
        Stems ev logs m (.combination (operator :: operands)) event := by
      intro h
      obtain ⟨e', m', hs, h⟩ := mem_logList.mp h
      exact .inr ⟨e', m', .operand hk hv hcall hs, h⟩
    cases hcall with
    | builtin name operation => exact hlist h
    | procedure name params body =>
        rw [logApply, List.mem_append, mem_onValue] at h
        rcases h with h | ⟨args, m₂, hargs, h⟩
        · exact hlist h
        split at h
        · rename_i hlen
          rcases List.mem_cons.mp h with rfl | h
          · exact .inl (.applied hk hv hargs hlen)
          · exact .inr ⟨body, _, .body hk hv hargs hlen, h⟩
        · simp at h
  · simp [logApply_of_not_isCallable hcall] at h

lemma mem_logOnce : event ∈ logOnce ev logs e m ↔ Stems ev logs m e event := by
  constructor
  · intro h
    cases e with
    | combination elements =>
        rw [logOnce] at h
        cases elements with
        | nil => simp [logCombination] at h
        | cons operator operands =>
            by_cases hk : IsKeyword operator
            · rcases hk with rfl | rfl
              · exact stems_of_mem_logDefine h
              · obtain ⟨e', m', hs, h⟩ := mem_logCond.mp h
                exact .inr ⟨e', m', .clause hs, h⟩
            · rw [logCombination_of_not_isKeyword hk] at h
              exact stems_of_mem_logApplication hk h
    | _ => simp [logOnce] at h
  · rintro (h | ⟨e', m', hs, h⟩)
    · exact h.mem
    · exact hs.mem h

/-- The log of an evaluation holds what is recorded at the points that it comes to, and nothing
else. -/
theorem mem_log_iff {d : Nat} :
    event ∈ log d e m ↔ ∃ d' e' m', Reaches d e m (d' + 1) e' m' ∧ Logs (eval d') m' e' event := by
  constructor
  · intro h
    induction d generalizing e m with
    | zero => simp [log] at h
    | succ d ih =>
        rcases mem_logOnce.mp h with h | ⟨e₁, m₁, hs, h⟩
        · exact ⟨d, e, m, .refl, h⟩
        · obtain ⟨d', e', m', hr, h⟩ := ih h
          exact ⟨d', e', m', .step hs hr, h⟩
  · rintro ⟨d', e', m', hr, h⟩
    generalize hk : d' + 1 = k at hr
    induction hr with
    | refl =>
        subst hk
        exact h.mem
    | step hs _ ih => exact hs.mem (ih h hk)

/-- The operator comes to a procedure of this name, which starts on these arguments: the values of
the operands, from left to right. -/
def Calls (ev : Evaluator) (m : Machine) (operator : Expr) (operands : List Expr) (name : String)
    (args : List Expr) : Prop :=
  ¬ IsKeyword operator ∧ ∃ params body m₁ m₂,
    ev operator m = (.value (.procedure name params body), m₁) ∧
    evalList ev operands m₁ = (.value args, m₂) ∧ args.length = params.length

lemma logs_applied_iff {name : String} {args : List Expr} {depth : Nat} :
    Logs ev m e (.applied name args depth) ↔ ∃ operator operands,
      e = .combination (operator :: operands) ∧ Calls ev m operator operands name args ∧
      depth = 1 + m.env.depth := by
  constructor
  · intro h
    cases h with
    | applied hk hv hargs hlen =>
        exact ⟨_, _, rfl, ⟨hk, _, _, _, _, hv, hargs, hlen⟩, Nat.add_comm _ _⟩
  · rintro ⟨operator, operands, rfl, ⟨hk, params, body, m₁, m₂, hv, hargs, hlen⟩, rfl⟩
    rw [Nat.add_comm]
    exact .applied hk hv hargs hlen

/-- A call is logged at each point where one starts, with one frame more than there are at that
point. -/
lemma applied_mem_log_iff {d : Nat} {name : String} {args : List Expr} {depth : Nat} :
    .applied name args depth ∈ log d e m ↔ ∃ d' operator operands m',
      Reaches d e m (d' + 1) (.combination (operator :: operands)) m' ∧
      Calls (eval d') m' operator operands name args ∧ depth = 1 + m'.env.depth := by
  rw [mem_log_iff]
  constructor
  · rintro ⟨d', e', m', hr, h⟩
    obtain ⟨operator, operands, rfl, hcalls, hdepth⟩ := logs_applied_iff.mp h
    exact ⟨d', operator, operands, m', hr, hcalls, hdepth⟩
  · rintro ⟨d', operator, operands, m', hr, hcalls, hdepth⟩
    exact ⟨d', _, m', hr, logs_applied_iff.mpr ⟨operator, operands, rfl, hcalls, hdepth⟩⟩

/-! ### Definitions that fail -/

/-- What is logged while the value of a definition is evaluated. -/
def logBody (d : Nat) : List Expr → Machine → List Event
  | [.identifier name, body], m => if isSpecial name then [] else log d body m
  | _, _ => []

lemma logBind_of_not_value {name : String} {v : Expr}
    (h : ∀ w, (bind name v event m).1 ≠ .value w) :
    logBind event m = [] := by
  unfold logBind
  cases henv : m.env with
  | nil => rfl
  | cons f fs => simp [bind, henv, Environment.insert?] at h

/-- A definition that comes to no value records what its body records, and nothing by itself. -/
lemma log_define_of_not_value {d : Nat} {operands : List Expr}
    (h : ∀ v, (eval (d + 1) (.combination (.identifier "define" :: operands)) m).1 ≠ .value v) :
    log (d + 1) (.combination (.identifier "define" :: operands)) m = logBody d operands m := by
  replace h : ∀ v, (evalDefine (eval d) operands m).1 ≠ .value v := h
  change logDefine (eval d) (log d) operands m = logBody d operands m
  match operands with
  | [.identifier name, body] =>
      rw [evalDefine_value] at h
      rw [logDefine, logBody]
      split
      · rfl
      · rename_i hname
        rw [if_neg hname, andThen] at h
        rcases hv : eval d body m with ⟨v | f | _, m₁⟩
        · rw [hv] at h
          simp [onValue, logBind_of_not_value h]
        · simp [onValue]
        · simp [onValue]
  | [.combination elements, body] =>
      rw [evalDefine] at h
      rw [logDefine, logBody]
      split
      · rename_i hs
        rw [hs] at h
        exact logBind_of_not_value h
      · rfl
      · simp
  | [.string _, _] | [.number _, _] | [.boolean _, _] | [.procedure _ _ _, _] | [.builtin _ _, _]
  | [.void, _] => rfl
  | [] => rfl
  | [e] | e :: _ :: _ :: _ => cases e <;> rfl

end Eval

end PocketScheme
