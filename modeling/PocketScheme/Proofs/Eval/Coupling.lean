import PocketScheme.Eval
import PocketScheme.Proofs.Primitive

/-!
Two evaluations in step. What the evaluator keeps is mostly a relation between two runs on the same
expression, or of one run with itself, and the induction over the evaluator is done here once for
all such relations.

* `Agree`: two outcomes are the same, and the states that come with them are related;
* `andThen`: one computation after the other, with `Agree.andThen`;
* `parts`: the expressions that an expression evaluates in its own frame;
* `Coupling`: relations between machines, with what looking up, defining and calling must do for
  them to be kept;
* `Coupling.eval_agree`: evaluations of one expression from related machines agree.
-/

namespace PocketScheme

namespace Machine

@[simp] lemma record_env (m : Machine) (e : Event) : (m.record e).env = m.env := by
  unfold record
  split <;> rfl

@[simp] lemma withEnv_env (m : Machine) (env : Environment) : (m.withEnv env).env = env := rfl

end Machine

namespace Eval

/-! ### Agreeing outcomes -/

section Agree

variable {σ τ α β : Type}

/-- A computation on a state. A failure keeps the state that it met. -/
abbrev Action (σ α : Type) := σ → Outcome α × σ

/-- One computation after the other. The second one gets the value of the first, and does not start
without it. -/
def andThen (a : Action σ α) (k : α → Action σ β) : Action σ β := fun s =>
  match a s with
  | (.value v, s) => k v s
  | (.fault f, s) => (.fault f, s)
  | (.exhausted, s) => (.exhausted, s)

/-- Two outcomes are the same and their states are related by `R`; a value also satisfies `P`. In a
lax comparison the first outcome may be exhausted whatever the second one is. -/
inductive Agree (lax : Prop) (R : σ → τ → Prop) (P : α → Prop) :
    Outcome α × σ → Outcome α × τ → Prop where
  | value {v : α} {s : σ} {t : τ} (hv : P v) (hst : R s t) :
      Agree lax R P (.value v, s) (.value v, t)
  | fault {f : Fault} {s : σ} {t : τ} (hst : R s t) : Agree lax R P (.fault f, s) (.fault f, t)
  | exhausted {s : σ} {t : τ} (hst : R s t) : Agree lax R P (.exhausted, s) (.exhausted, t)
  | cut {s : σ} {y : Outcome α × τ} (h : lax) : Agree lax R P (.exhausted, s) y

variable {lax : Prop} {R : σ → τ → Prop} {P : α → Prop} {Q : β → Prop}

/-- Agreement goes on to the computations that follow. -/
lemma Agree.andThen {a : Action σ α} {b : Action τ α} {k : α → Action σ β} {l : α → Action τ β}
    {s : σ} {t : τ} (h : Agree lax R P (a s) (b t))
    (hk : ∀ v s t, P v → R s t → Agree lax R Q (k v s) (l v t)) :
    Agree lax R Q (andThen a k s) (andThen b l t) := by
  unfold Eval.andThen
  generalize a s = x at h
  generalize b t = y at h
  cases h with
  | value hv hst => exact hk _ _ _ hv hst
  | fault hst => exact .fault hst
  | exhausted hst => exact .exhausted hst
  | cut h => exact .cut h

/-- Agreement carries over to other states that come with the outcomes. -/
lemma Agree.withState {σ' τ' : Type} {S : σ' → τ' → Prop} {x : Outcome α × σ} {y : Outcome α × τ}
    {s : σ'} {t : τ'} (h : Agree lax R P x y) (hst : R x.2 y.2 → S s t) :
    Agree lax S P (x.1, s) (y.1, t) := by
  cases h with
  | value hv hR => exact .value hv (hst hR)
  | fault hR => exact .fault (hst hR)
  | exhausted hR => exact .exhausted (hst hR)
  | cut h => exact .cut h

/-- Without laxity the outcomes are the same. -/
lemma Agree.outcome_eq {x : Outcome α × σ} {y : Outcome α × τ} (h : Agree False R P x y) :
    x.1 = y.1 := by
  cases h with
  | cut h => exact h.elim
  | _ => rfl

/-- Without laxity the states are related. -/
lemma Agree.state {x : Outcome α × σ} {y : Outcome α × τ} (h : Agree False R P x y) :
    R x.2 y.2 := by
  cases h with
  | value _ hst => exact hst
  | fault hst => exact hst
  | exhausted hst => exact hst
  | cut h => exact h.elim

end Agree

/-! ### The evaluator as computations one after the other -/

lemma evalList_cons (ev : Evaluator) (e : Expr) (es : List Expr) :
    evalList ev (e :: es) =
      andThen (ev e) fun v => andThen (evalList ev es) fun vs m => (.value (v :: vs), m) := by
  funext m
  rw [evalList, andThen]
  rcases ev e m with ⟨_ | _ | _, m⟩
  · simp only [andThen]
    rcases evalList ev es m with ⟨_ | _ | _, m⟩ <;> rfl
  · rfl
  · rfl

lemma evalDefine_value (ev : Evaluator) (name : String) (body : Expr) (m : Machine) :
    evalDefine ev [.identifier name, body] m =
      if isSpecial name then (.fault (.reserved name), m)
      else andThen (ev body) (fun v => bind name v (.defined name v)) m := by
  rw [evalDefine, andThen]
  rcases ev body m with ⟨_ | _ | _, m⟩ <;> rfl

lemma evalCond_cons (ev : Evaluator) (test body : Expr) (clauses : List Expr) :
    evalCond ev (.combination [test, body] :: clauses) =
      andThen (ev test) fun v m => if v.isFalse then evalCond ev clauses m else ev body m := by
  funext m
  rw [evalCond, andThen]
  rcases ev test m with ⟨_ | _ | _, m⟩ <;> rfl

/-- A clause that is no pair fails, whatever comes after it. -/
lemma evalCond_of_not_pair (ev : Evaluator) {clause : Expr}
    (h : ¬ ∃ test body, clause = .combination [test, body]) (clauses : List Expr) (m : Machine) :
    evalCond ev (clause :: clauses) m = (.fault .clause, m) := by
  rw [evalCond]
  exact fun test body hb => h ⟨test, body, hb⟩

/-- What a builtin comes to on its arguments. -/
def callBuiltin (name : String) (operation : Option Primitive) (args : List Expr) :
    Action Machine Expr := fun m =>
  match operation with
  | none => (.fault (.notProcedure (.builtin name none)), m)
  | some p =>
    match p.apply args with
    | .ok v => (.value v, m)
    | .error f => (.fault f, m)

/-- What is done with the value of an operator. -/
def applyTo (ev : Evaluator) (operands : List Expr) : Expr → Action Machine Expr
  | .builtin name operation => andThen (evalList ev operands) (callBuiltin name operation)
  | .procedure name params body =>
    andThen (evalList ev operands) (applyProcedure ev name params body)
  | v => fun m => (.fault (.notProcedure v), m)

lemma evalApplication_eq (ev : Evaluator) (operator : Expr) (operands : List Expr) :
    evalApplication ev operator operands = andThen (ev operator) (applyTo ev operands) := by
  funext m
  rw [evalApplication, andThen]
  rcases ev operator m with ⟨v | _ | _, m⟩
  · cases v with
    | builtin name operation =>
        simp only [applyTo, andThen]
        rcases evalList ev operands m with ⟨_ | _ | _, m⟩ <;> rfl
    | procedure name params body =>
        simp only [applyTo, andThen]
        rcases evalList ev operands m with ⟨_ | _ | _, m⟩ <;> rfl
    | _ => rfl
  · rfl
  · rfl

/-- The machine at the start of a procedure: its parameters are bound in a new frame. -/
def enter (name : String) (params : List String) (args : List Expr) (m : Machine) : Machine :=
  (m.withEnv (bindParams params args :: m.env)).record
    (.applied name args (Environment.depth (bindParams params args :: m.env)))

/-- The machine at the end of a procedure: the frame of its parameters is gone. -/
def leave (m : Machine) : Machine :=
  m.withEnv m.env.pop

@[simp] lemma enter_env (name : String) (params : List String) (args : List Expr) (m : Machine) :
    (enter name params args m).env = bindParams params args :: m.env := by
  simp [enter]

@[simp] lemma leave_env (m : Machine) : (leave m).env = m.env.pop := rfl

lemma applyProcedure_eq (ev : Evaluator) (name : String) (params : List String) (body : Expr)
    (args : List Expr) (m : Machine) :
    applyProcedure ev name params body args m =
      if args.length = params.length then
        ((ev body (enter name params args m)).1, leave (ev body (enter name params args m)).2)
      else (.fault (.argumentCount params.length args.length), m) := by
  rw [applyProcedure]
  by_cases h : args.length = params.length
  · simp [h, enter, leave]
  · simp [h]

/-! ### Couplings -/

/-- The expressions that an expression evaluates in its own frame. The body of a new procedure is
not among them, and of `cond` only what stands in a well-formed clause. -/
def parts : Expr → List Expr
  | .combination (.identifier name :: operands) =>
    if name == "define" then
      match operands with
      | [.identifier _, body] => [body]
      | _ => []
    else if name == "cond" then
      operands.flatMap fun
        | .combination [test, body] => [test, body]
        | _ => []
    else .identifier name :: operands
  | .combination elements => elements
  | _ => []

/-- The name that a definition of this target binds, if it is well-formed. -/
def boundName? : Expr → Option String
  | .identifier name => if isSpecial name then none else some name
  | .combination elements =>
    match signatureNames elements with
    | .ok (name :: _) => some name
    | _ => none
  | _ => none

/-- A family of relations between machines that evaluation keeps. What is evaluated under the
relation `i` satisfies `code i`, and what evaluation gives back satisfies `value`. A call may go to
another relation of the family for its body, as long as the end of the call leads back. -/
structure Coupling (ι : Type) where
  /-- The first evaluation may run out of depth before the second. -/
  lax : Prop
  rel : ι → Machine → Machine → Prop
  code : ι → Expr → Prop
  value : Expr → Prop
  code_part {i : ι} {e p : Expr} : code i e → p ∈ parts e → code i p
  lookup_eq {i : ι} {m n : Machine} {name : String} : rel i m n → code i (.identifier name) →
    m.env.lookup name = n.env.lookup name
  lookup_value {i : ι} {m n : Machine} {name : String} {v : Expr} : rel i m n →
    code i (.identifier name) → m.env.lookup name = some v → value v
  literal {i : ι} {e : Expr} : code i e → e.kind ≠ .combination → e.kind ≠ .identifier → value e
  number (n : Number) : value (.number n)
  boolean (b : Bool) : value (.boolean b)
  void : value .void
  procedure {i : ι} {name : String} {params : List String} {elements : List Expr} {body : Expr} :
    code i (.combination [.identifier "define", .combination elements, body]) →
    signatureNames elements = .ok (name :: params) → value (.procedure name params body)
  bind {i : ι} {m n : Machine} {target body v : Expr} {name : String} {event : Event} :
    rel i m n → code i (.combination [.identifier "define", target, body]) →
    boundName? target = some name → value v →
    Agree lax (rel i) value (bind name v event m) (bind name v event n)
  call {i : ι} {m n : Machine} {name : String} {params : List String} {body : Expr}
    {args : List Expr} : rel i m n → value (.procedure name params body) →
    (∀ a ∈ args, value a) → args.length = params.length →
    ∃ j, code j body ∧ rel j (enter name params args m) (enter name params args n) ∧
      ∀ m' n', rel j m' n' → rel i (leave m') (leave n')

namespace Coupling

variable {ι : Type} (C : Coupling ι)

/-- Two evaluators agree on all that the coupling speaks of. -/
def Agrees (ev ev' : Evaluator) : Prop :=
  ∀ ⦃i : ι⦄ ⦃e : Expr⦄ ⦃m n : Machine⦄, C.code i e → C.rel i m n →
    Agree C.lax (C.rel i) C.value (ev e m) (ev' e n)

variable {C} {ev ev' : Evaluator} {i : ι}

lemma evalList_agree (h : C.Agrees ev ev') {es : List Expr} (hes : ∀ e ∈ es, C.code i e)
    {m n : Machine} (hmn : C.rel i m n) :
    Agree C.lax (C.rel i) (fun vs => ∀ v ∈ vs, C.value v) (evalList ev es m)
      (evalList ev' es n) := by
  induction es generalizing m n with
  | nil => exact .value (by simp) hmn
  | cons e es ih =>
      rw [evalList_cons, evalList_cons]
      refine (h (hes e (by simp)) hmn).andThen fun v m n hv hmn => ?_
      refine (ih (fun e he => hes e (by simp [he])) hmn).andThen fun vs m n hvs hmn => ?_
      exact .value (by simpa [hv] using hvs) hmn

lemma evalCond_agree (h : C.Agrees ev ev') {clauses : List Expr}
    (hc : ∀ test body, .combination [test, body] ∈ clauses → C.code i test ∧ C.code i body)
    {m n : Machine} (hmn : C.rel i m n) :
    Agree C.lax (C.rel i) C.value (evalCond ev clauses m) (evalCond ev' clauses n) := by
  induction clauses generalizing m n with
  | nil => exact .value C.void hmn
  | cons clause clauses ih =>
      have ih' := fun m n => @ih (fun test body hb => hc test body (by simp [hb])) m n
      by_cases hpair : ∃ test body, clause = .combination [test, body]
      · obtain ⟨test, body, rfl⟩ := hpair
        obtain ⟨ht, hb⟩ := hc test body (by simp)
        rw [evalCond_cons, evalCond_cons]
        refine (h ht hmn).andThen fun v m n _ hmn => ?_
        split
        · exact ih' m n hmn
        · exact h hb hmn
      · rw [evalCond_of_not_pair ev hpair, evalCond_of_not_pair ev' hpair]
        exact .fault hmn

lemma evalDefine_agree (h : C.Agrees ev ev') {operands : List Expr}
    (hc : C.code i (.combination (.identifier "define" :: operands))) {m n : Machine}
    (hmn : C.rel i m n) :
    Agree C.lax (C.rel i) C.value (evalDefine ev operands m) (evalDefine ev' operands n) := by
  match operands with
  | [.identifier name, body] =>
      have hbody : C.code i body := C.code_part hc (by simp [parts])
      rw [evalDefine_value, evalDefine_value]
      split
      · exact .fault hmn
      · rename_i hname
        exact (h hbody hmn).andThen fun v m n hv hmn =>
          C.bind hmn hc (by simp [boundName?, hname]) hv
  | [.combination elements, body] =>
      rw [evalDefine, evalDefine]
      cases hs : signatureNames elements with
      | error f => exact .fault hmn
      | ok names =>
          cases names with
          | nil => exact .fault hmn
          | cons name params =>
              exact C.bind hmn hc (by simp [boundName?, hs]) (C.procedure hc hs)
  | [.string _, _] | [.number _, _] | [.boolean _, _] | [.procedure _ _ _, _] | [.builtin _ _, _]
  | [.void, _] => exact .fault hmn
  | [] => exact .fault hmn
  | [e] | e :: _ :: _ :: _ => cases e <;> exact .fault hmn

lemma callBuiltin_agree {name : String} {operation : Option Primitive} {args : List Expr}
    {m n : Machine} (hmn : C.rel i m n) :
    Agree C.lax (C.rel i) C.value (callBuiltin name operation args m)
      (callBuiltin name operation args n) := by
  cases operation with
  | none => exact .fault hmn
  | some p =>
      rw [callBuiltin, callBuiltin]
      cases hv : p.apply args with
      | error f => exact .fault hmn
      | ok v =>
          refine .value ?_ hmn
          obtain ⟨n, rfl⟩ | ⟨b, rfl⟩ := Primitive.apply_ok hv
          · exact C.number n
          · exact C.boolean b

lemma applyProcedure_agree (h : C.Agrees ev ev') {name : String} {params : List String}
    {body : Expr} {args : List Expr} (hp : C.value (.procedure name params body))
    (ha : ∀ a ∈ args, C.value a) {m n : Machine} (hmn : C.rel i m n) :
    Agree C.lax (C.rel i) C.value (applyProcedure ev name params body args m)
      (applyProcedure ev' name params body args n) := by
  rw [applyProcedure_eq, applyProcedure_eq]
  split
  · rename_i hlen
    -- the body runs under the relation that the call goes to, and its end leads back
    obtain ⟨j, hbody, henter, hleave⟩ := C.call hmn hp ha hlen
    exact (h hbody henter).withState (hleave _ _)
  · exact .fault hmn

lemma evalApplication_agree (h : C.Agrees ev ev') {operator : Expr} {operands : List Expr}
    (hoperator : C.code i operator) (hoperands : ∀ e ∈ operands, C.code i e) {m n : Machine}
    (hmn : C.rel i m n) :
    Agree C.lax (C.rel i) C.value (evalApplication ev operator operands m)
      (evalApplication ev' operator operands n) := by
  rw [evalApplication_eq, evalApplication_eq]
  refine (h hoperator hmn).andThen fun v m n hv hmn => ?_
  cases v with
  | builtin name operation =>
      exact (evalList_agree h hoperands hmn).andThen fun args m n _ hmn => callBuiltin_agree hmn
  | procedure name params body =>
      exact (evalList_agree h hoperands hmn).andThen fun args m n ha hmn =>
        applyProcedure_agree h hv ha hmn
  | _ => exact .fault hmn

lemma evalCombination_agree (h : C.Agrees ev ev') {elements : List Expr}
    (hc : C.code i (.combination elements)) {m n : Machine} (hmn : C.rel i m n) :
    Agree C.lax (C.rel i) C.value (evalCombination ev elements m)
      (evalCombination ev' elements n) := by
  cases elements with
  | nil => exact .fault hmn
  | cons operator operands =>
      cases operator with
      | identifier name =>
          rw [evalCombination, evalCombination]
          by_cases hd : name = "define"
          · subst hd
            exact evalDefine_agree h hc hmn
          by_cases hcond : name = "cond"
          · subst hcond
            refine evalCond_agree h (fun test body hb => ?_) hmn
            have hmem : ∀ p ∈ [test, body],
                p ∈ parts (.combination (.identifier "cond" :: operands)) := by
              intro p hp
              exact List.mem_flatMap.mpr ⟨_, hb, hp⟩
            exact ⟨C.code_part hc (hmem test (by simp)), C.code_part hc (hmem body (by simp))⟩
          · have hparts : parts (.combination (.identifier name :: operands)) =
                .identifier name :: operands := by
              simp [parts, hd, hcond]
            simp only [beq_iff_eq, hd, hcond, if_false]
            exact evalApplication_agree h (C.code_part hc (by simp [hparts]))
              (fun e he => C.code_part hc (by simp [hparts, he])) hmn
      | _ =>
          exact evalApplication_agree h (C.code_part hc (by simp [parts]))
            (fun e he => C.code_part hc (by simp [parts, he])) hmn

/-- One more level of depth on both sides keeps agreement. -/
lemma eval_succ_agree {d d' : Nat} (h : C.Agrees (eval d) (eval d')) :
    C.Agrees (eval (d + 1)) (eval (d' + 1)) := by
  intro i e m n hc hmn
  cases e with
  | identifier name =>
      simp only [eval]
      rw [← C.lookup_eq hmn hc]
      cases hv : m.env.lookup name with
      | none => exact .fault hmn
      | some v => exact .value (C.lookup_value hmn hc hv) hmn
  | combination elements => exact evalCombination_agree h hc hmn
  | _ => exact .value (C.literal hc (by simp [Expr.kind]) (by simp [Expr.kind])) hmn

/-- **Evaluations in step**: evaluations of one expression from related machines agree, with the
same bound on the depth, or, in a lax comparison, with a larger one for the second. -/
theorem eval_agree (C : Coupling ι) {d d' : Nat} (hd : d = d' ∨ C.lax ∧ d ≤ d') :
    C.Agrees (eval d) (eval d') := by
  induction d generalizing d' with
  | zero =>
      intro i e m n _ hmn
      rcases hd with rfl | ⟨hlax, _⟩
      · exact .exhausted hmn
      · exact .cut hlax
  | succ d ih =>
      cases d' with
      | zero => omega
      | succ d' =>
          exact eval_succ_agree (ih (hd.imp Nat.succ.inj (And.imp_right Nat.le_of_succ_le_succ)))

/-- A relation between machines with the same environment that is kept when both get another
environment and when both record an event. -/
def ofRel (lax : Prop) (R : Machine → Machine → Prop) (henv : ∀ m n, R m n → m.env = n.env)
    (hwith : ∀ m n env, R m n → R (m.withEnv env) (n.withEnv env))
    (hrecord : ∀ m n event, R m n → R (m.record event) (n.record event)) : Coupling Unit where
  lax := lax
  rel _ := R
  code _ _ := True
  value _ := True
  code_part _ _ := trivial
  lookup_eq h _ := by rw [henv _ _ h]
  lookup_value _ _ _ := trivial
  literal _ _ _ := trivial
  number _ := trivial
  boolean _ := trivial
  void := trivial
  procedure _ _ := trivial
  bind := by
    intro _ m n target body v name event h _ _ _
    unfold Eval.bind
    rw [henv m n h]
    split
    · exact .value trivial (hrecord _ _ _ (hwith _ _ _ h))
    · exact .fault h
  call := by
    intro _ m n name params body args h _ _ _
    refine ⟨(), trivial, ?_, fun m' n' h' => ?_⟩
    · unfold enter
      rw [henv m n h]
      exact hrecord _ _ _ (hwith _ _ _ h)
    · unfold leave
      rw [henv m' n' h']
      exact hwith _ _ _ h'

end Coupling

end Eval

end PocketScheme
