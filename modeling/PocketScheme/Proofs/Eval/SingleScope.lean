import PocketScheme.Proofs.Eval.Frames
import Mathlib.Logic.Function.Basic

/-!
Evaluation with one map in place of a stack of frames. A definition changes the map, the parts of a
combination see the map that the parts before them left, and a call works on the map with its
parameters bound and then gives back the map of its caller.

* `Scope`, `Scope.eval`: the map and the evaluator on it;
* `Environment.visible`: the map that a stack of frames shows, inner frames first;
* `eval_shows`, `scope_eval_visible`: both evaluators go through the same maps;
* `finishes_visible_iff`: what finishes on a stack of frames finishes alike on the map it shows.
-/

namespace PocketScheme

/-- The bindings that can be seen at one point of an evaluation. -/
abbrev Scope := String → Option Expr

namespace Scope

/-- The scope with a name bound. -/
def set (s : Scope) (name : String) (v : Expr) : Scope :=
  Function.update s name (some v)

/-- The scope with parameters bound to arguments, one after the other, so that of equal parameters
the last one counts. -/
def setAll (s : Scope) : List (String × Expr) → Scope
  | [] => s
  | (name, v) :: bs => (s.set name v).setAll bs

/-! ### The evaluator -/

/-- A computation on a scope, which a failure keeps. -/
def Run (α : Type) : Type := Eval.Action Scope α

instance : Monad Run where
  pure v := fun s => (.value v, s)
  bind := Eval.andThen

namespace Run

/-- Failure. -/
def fail {α : Type} (f : Fault) : Run α := fun s => (.fault f, s)

/-- The end of the depth. -/
def exhaust {α : Type} : Run α := fun s => (.exhausted, s)

/-- The value of a name. -/
def find (name : String) : Run Expr := fun s =>
  match s name with
  | some v => (.value v, s)
  | none => (.fault (.undefined name), s)

/-- The definition of a name. -/
def define (name : String) (v : Expr) : Run Expr := fun s => (.value .void, s.set name v)

/-- A computation on the scope with further bindings; afterwards the scope is what it was. -/
def inside {α : Type} (bs : List (String × Expr)) (body : Run α) : Run α := fun s =>
  ((body (s.setAll bs)).1, s)

/-- The result of a builtin. -/
def result {α : Type} : Except Fault α → Run α
  | .ok v => return v
  | .error f => fail f

end Run

open Run

/-- Evaluates expressions from left to right. -/
def evalList (ev : Expr → Run Expr) : List Expr → Run (List Expr)
  | [] => return []
  | e :: es => do
    let v ← ev e
    let vs ← evalList ev es
    return v :: vs

/-- A definition of a name, or of a procedure by its signature. -/
def evalDefine (ev : Expr → Run Expr) : List Expr → Run Expr
  | [.identifier name, body] =>
    if Eval.isSpecial name then fail (.reserved name)
    else do
      let v ← ev body
      define name v
  | [.combination elements, body] =>
    match Eval.signatureNames elements with
    | .ok (name :: params) => define name (.procedure name params body)
    | .ok [] => fail .unnamedProcedure
    | .error f => fail f
  | [_, _] => fail .definitionTarget
  | _ => fail .definitionParts

/-- The body of the first clause whose test is not false. -/
def evalCond (ev : Expr → Run Expr) : List Expr → Run Expr
  | [] => return .void
  | .combination [test, body] :: clauses => do
    let v ← ev test
    if v.isFalse then evalCond ev clauses else ev body
  | _ :: _ => fail .clause

/-- The call of a value on operands. -/
def call (ev : Expr → Run Expr) (operands : List Expr) : Expr → Run Expr
  | .builtin name none => do
    let _ ← evalList ev operands
    fail (.notProcedure (.builtin name none))
  | .builtin _ (some p) => do
    let args ← evalList ev operands
    result (p.apply args)
  | .procedure _ params body => do
    let args ← evalList ev operands
    if args.length = params.length then inside (params.zip args) (ev body)
    else fail (.argumentCount params.length args.length)
  | v => fail (.notProcedure v)

/-- Evaluates an expression on one scope, with at most `depth` nested evaluations. -/
def eval : Nat → Expr → Run Expr
  | 0, _ => exhaust
  | _ + 1, .identifier name => find name
  | _ + 1, .combination [] => fail .emptyApplication
  | depth + 1, .combination (.identifier "define" :: operands) => evalDefine (eval depth) operands
  | depth + 1, .combination (.identifier "cond" :: clauses) => evalCond (eval depth) clauses
  | depth + 1, .combination (operator :: operands) => do
    let v ← eval depth operator
    call (eval depth) operands v
  | _ + 1, e => return e

/-- The evaluation of `e` on `s` finishes with `r` and leaves `s'`. -/
def Finishes (e : Expr) (s : Scope) (r : Except Fault Expr) (s' : Scope) : Prop :=
  ∃ depth, eval depth e s = (.ofExcept r, s')

end Scope

/-! ### What a stack of frames shows -/

namespace Environment

/-- The scope that an environment shows: a name means its binding in the first frame that has one,
from the innermost frame on. -/
def visible : Environment → Scope
  | [], _ => none
  | f :: fs, name => (f.get? name).or (visible fs name)

lemma lookup_eq_visible (env : Environment) (name : String) :
    env.lookup name = env.visible name := by
  induction env with
  | nil => rfl
  | cons f fs ih =>
      rw [lookup, visible, List.findSome?_cons]
      cases f.get? name with
      | none => exact ih
      | some v => rfl

lemma visible_insert (f : Frame) (fs : Environment) (name : String) (v : Expr) :
    visible (f.insert name v :: fs) = (visible (f :: fs)).set name v := by
  funext other
  rw [visible, Frame.get?_insert, Scope.set, Function.update_apply]
  split
  · rfl
  · rfl

lemma visible_insertAll (f : Frame) (fs : Environment) (bs : List (String × Expr)) :
    visible (f.insertAll bs :: fs) = (visible (f :: fs)).setAll bs := by
  induction bs generalizing f with
  | nil => rfl
  | cons b bs ih =>
      calc visible (f.insertAll (b :: bs) :: fs)
          = (visible (f.insert b.1 b.2 :: fs)).setAll bs := ih (f.insert b.1 b.2)
        _ = ((visible (f :: fs)).set b.1 b.2).setAll bs := by rw [visible_insert]

/-- A new frame of parameters shows them on top of what was visible. -/
lemma visible_bindParams (params : List String) (args : List Expr) (env : Environment) :
    visible (Eval.bindParams params args :: env) = env.visible.setAll (params.zip args) :=
  visible_insertAll [] env (params.zip args)

end Environment

namespace Eval

/-! ### The two evaluators in step -/

/-- The machine has a frame, and its frames show the scope. -/
def Shows (m : Machine) (s : Scope) : Prop :=
  m.env ≠ [] ∧ m.env.visible = s

/-- Two evaluators come to the same, and to a machine and a scope that it shows. -/
def InStep (ev : Evaluator) (ev' : Expr → Scope.Run Expr) : Prop :=
  ∀ ⦃e : Expr⦄ ⦃m : Machine⦄ ⦃s : Scope⦄, Shows m s →
    Agree False Shows (fun _ => True) (ev e m) (ev' e s)

variable {ev : Evaluator} {ev' : Expr → Scope.Run Expr} {m : Machine} {s : Scope}

lemma bind_shows (name : String) (v : Expr) (event : Event) (hs : Shows m s) :
    Agree False Shows (fun _ => True) (bind name v event m) (Scope.Run.define name v s) := by
  obtain ⟨hne, rfl⟩ := hs
  obtain ⟨f, fs, henv⟩ := List.exists_cons_of_ne_nil hne
  simp only [bind, henv, Environment.insert?]
  refine .value trivial ⟨by simp, ?_⟩
  simp [Environment.visible_insert]

lemma evalList_shows (h : InStep ev ev') (es : List Expr) (hs : Shows m s) :
    Agree False Shows (fun _ => True) (evalList ev es m) (Scope.evalList ev' es s) := by
  induction es generalizing m s with
  | nil => exact .value trivial hs
  | cons e es ih =>
      rw [evalList_cons]
      refine (h hs).andThen fun v m s _ hs => ?_
      refine (ih hs).andThen fun vs m s _ hs => ?_
      exact .value trivial hs

lemma evalCond_shows (h : InStep ev ev') (clauses : List Expr) (hs : Shows m s) :
    Agree False Shows (fun _ => True) (evalCond ev clauses m) (Scope.evalCond ev' clauses s) := by
  induction clauses generalizing m s with
  | nil => exact .value trivial hs
  | cons clause clauses ih =>
      by_cases hpair : ∃ test body, clause = .combination [test, body]
      · obtain ⟨test, body, rfl⟩ := hpair
        rw [evalCond_cons]
        refine (h hs).andThen fun v m s _ hs => ?_
        split
        · exact ih hs
        · exact h hs
      · rw [evalCond_of_not_pair ev hpair, Scope.evalCond]
        · exact .fault hs
        · exact fun test body hb => hpair ⟨test, body, hb⟩

lemma evalDefine_shows (h : InStep ev ev') (operands : List Expr) (hs : Shows m s) :
    Agree False Shows (fun _ => True) (evalDefine ev operands m)
      (Scope.evalDefine ev' operands s) := by
  match operands with
  | [.identifier name, body] =>
      rw [evalDefine_value, Scope.evalDefine]
      split
      · exact .fault hs
      · exact (h hs).andThen fun v m s _ hs => bind_shows name v _ hs
  | [.combination elements, body] =>
      rw [evalDefine, Scope.evalDefine]
      cases signatureNames elements with
      | error f => exact .fault hs
      | ok names =>
          cases names with
          | nil => exact .fault hs
          | cons name params => exact bind_shows name _ _ hs
  | [.string _, _] | [.number _, _] | [.boolean _, _] | [.procedure _ _ _, _] | [.builtin _ _, _]
  | [.void, _] => exact .fault hs
  | [] => exact .fault hs
  | [e] | e :: _ :: _ :: _ => cases e <;> exact .fault hs

/-- A call works on the scope with its parameters, and both evaluators give back what the caller
had: the stack because the frames below a call are left alone, the scope by definition. -/
lemma applyProcedure_shows {depth : Nat} (h : InStep (eval depth) (Scope.eval depth))
    (name : String) (params : List String) (body : Expr) (args : List Expr) (hs : Shows m s)
    (hlen : args.length = params.length) :
    Agree False Shows (fun _ => True) (applyProcedure (eval depth) name params body args m)
      (Scope.Run.inside (params.zip args) (Scope.eval depth body) s) := by
  have henv := applyProcedure_env depth name params body args m
  rw [applyProcedure_eq, if_pos hlen] at henv ⊢
  have hbody : Shows (enter name params args m) (s.setAll (params.zip args)) :=
    ⟨by simp, by rw [enter_env, Environment.visible_bindParams, hs.2]⟩
  have hend : Shows (leave (eval depth body (enter name params args m)).2) s := by
    rw [Shows, henv]
    exact hs
  exact (h hbody).withState fun _ => hend

lemma applyTo_shows {depth : Nat} (h : InStep (eval depth) (Scope.eval depth))
    (operands : List Expr) (v : Expr) (hs : Shows m s) :
    Agree False Shows (fun _ => True) (applyTo (eval depth) operands v m)
      (Scope.call (Scope.eval depth) operands v s) := by
  cases v with
  | builtin name operation =>
      cases operation with
      | none => exact (evalList_shows h operands hs).andThen fun args m s _ hs => .fault hs
      | some p =>
          refine (evalList_shows h operands hs).andThen fun args m s _ hs => ?_
          rw [callBuiltin]
          cases p.apply args with
          | error f => exact .fault hs
          | ok v => exact .value trivial hs
  | procedure name params body =>
      refine (evalList_shows h operands hs).andThen fun args m s _ hs => ?_
      by_cases hlen : args.length = params.length
      · rw [if_pos hlen]
        exact applyProcedure_shows h name params body args hs hlen
      · rw [applyProcedure_eq, if_neg hlen, if_neg hlen]
        exact .fault hs
  | _ => exact .fault hs

lemma evalCombination_shows {depth : Nat} (h : InStep (eval depth) (Scope.eval depth))
    (elements : List Expr) (hs : Shows m s) :
    Agree False Shows (fun _ => True) (evalCombination (eval depth) elements m)
      (Scope.eval (depth + 1) (.combination elements) s) := by
  have happly : ∀ operator operands, Agree False Shows (fun _ => True)
      (evalApplication (eval depth) operator operands m)
      (andThen (Scope.eval depth operator) (Scope.call (Scope.eval depth) operands) s) := by
    intro operator operands
    rw [evalApplication_eq]
    exact (h hs).andThen fun v m s _ hs => applyTo_shows h operands v hs
  cases elements with
  | nil => exact .fault hs
  | cons operator operands =>
      cases operator with
      | identifier name =>
          rw [evalCombination]
          by_cases hd : name = "define"
          · subst hd
            exact evalDefine_shows h operands hs
          by_cases hc : name = "cond"
          · subst hc
            exact evalCond_shows h operands hs
          · simp only [beq_iff_eq, hd, hc, if_false]
            rw [Scope.eval]
            · exact happly (.identifier name) operands
            all_goals simpa using fun h => absurd h ‹_›
      | _ => exact happly _ operands

/-- **Evaluators in step**: on a scope that a machine shows, the evaluator with one map comes to the
same as the evaluator with frames, and the machine shows the scope at the end. -/
theorem eval_shows (depth : Nat) : InStep (eval depth) (Scope.eval depth) := by
  induction depth with
  | zero =>
      intro e m s hs
      exact .exhausted hs
  | succ depth ih =>
      intro e m s hs
      cases e with
      | identifier name =>
          rw [eval, Scope.eval, Scope.Run.find, Environment.lookup_eq_visible, hs.2]
          cases s name with
          | none => exact .fault hs
          | some v => exact .value trivial hs
      | combination elements => exact evalCombination_shows ih elements hs
      | _ => exact .value trivial hs

/-- On what a machine shows, the evaluator with one map does what the machine does. -/
lemma scope_eval_visible (depth : Nat) (e : Expr) {m : Machine} (hm : m.env ≠ []) :
    Scope.eval depth e m.env.visible =
      ((eval depth e m).1, (eval depth e m).2.env.visible) := by
  have hagree := eval_shows depth ⟨hm, rfl⟩ (e := e) (m := m)
  exact Prod.ext hagree.outcome_eq.symm hagree.state.2.symm

/-- The two evaluators finish on the same expressions, with the same value or fault. -/
lemma scope_finishes_iff {e : Expr} {m : Machine} (hm : m.env ≠ []) {r : Except Fault Expr}
    {s' : Scope} :
    Scope.Finishes e m.env.visible r s' ↔ ∃ m', Finishes e m r m' ∧ m'.env.visible = s' := by
  constructor
  · rintro ⟨depth, h⟩
    rw [scope_eval_visible depth e hm] at h
    obtain ⟨hout, hstate⟩ := Prod.mk.inj h
    exact ⟨_, ⟨depth, Prod.ext hout rfl⟩, hstate⟩
  · rintro ⟨m', ⟨depth, h⟩, rfl⟩
    refine ⟨depth, ?_⟩
    rw [scope_eval_visible depth e hm, h]

/-- **Frames refine one map with dynamic scope**: where an evaluation finishes on a stack of frames,
the evaluator with one map finishes on what the stack shows, with the same value or fault and with
what the stack shows at the end, and in no other way. -/
theorem finishes_visible_iff {e : Expr} {m m' : Machine} (hm : m.env ≠ [])
    {r : Except Fault Expr} (h : Finishes e m r m') (r' : Except Fault Expr) (s' : Scope) :
    Scope.Finishes e m.env.visible r' s' ↔ r' = r ∧ s' = m'.env.visible := by
  rw [scope_finishes_iff hm]
  constructor
  · rintro ⟨n, hn, rfl⟩
    obtain ⟨hr, hmn⟩ := hn.unique h
    exact ⟨hr, by rw [hmn]⟩
  · rintro ⟨rfl, rfl⟩
    exact ⟨m', h, rfl⟩

theorem finishes_visible_nestedCall :
    nestedCaller.env ≠ [] ∧ Finishes nestedCall nestedCaller (.ok (.string "b")) nestedCaller ∧
      ∀ r s, Scope.Finishes nestedCall nestedCaller.env.visible r s ↔
        r = .ok (.string "b") ∧ s = nestedCaller.env.visible :=
  ⟨by simp [nestedCaller], nestedCall_finishes,
    finishes_visible_iff (by simp [nestedCaller]) nestedCall_finishes⟩

end Eval

end PocketScheme
