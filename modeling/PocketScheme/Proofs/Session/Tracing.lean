import PocketScheme.Proofs.Eval.Finishes
import PocketScheme.Proofs.Eval.Trace
import PocketScheme.Proofs.Session

/-!
Tracing makes no difference to a session. What a session comes to depends on the environment that it
starts from, and whether events are recorded does not show there.

* `Alike`: the same answer, and the same environment left;
* `evalForm_alike` to `runSources_alike`: what each step of a session keeps;
* `converse`: the answers to requests, one after the other, each with the environment after it;
* `tracing_transparent`: answers and environments are those without tracing, and what is recorded
  is the log of the evaluation.
-/

namespace PocketScheme

namespace Session

open Eval Machine

variable {m n : Machine}

/-! ### The same answers -/

/-- The same answer, and the same environment left. -/
inductive Alike {α : Type} : α × Machine → α × Machine → Prop where
  | intro (a : α) {m n : Machine} (h : m.env = n.env) : Alike (a, m) (a, n)

lemma Alike.map {α β : Type} {x y : α × Machine} (h : Alike x y) (f : α → β) :
    Alike (x.map f id) (y.map f id) := by
  cases h with
  | intro a h => exact .intro (f a) h

lemma evalForm_alike (e : Expr) (h : m.env = n.env) : Alike (evalForm e m) (evalForm e n) := by
  obtain ⟨hr, henv⟩ := eval_env_congr (d := depthBound) (e := e) h
  unfold evalForm
  generalize eval depthBound e m = x at hr henv
  generalize eval depthBound e n = y at hr henv
  obtain ⟨r, m'⟩ := x
  obtain ⟨r', n'⟩ := y
  obtain rfl : r = r' := hr
  cases r <;> exact .intro _ henv

lemma runForms_alike (rs : List (Except SyntaxFault Expr)) (h : m.env = n.env) :
    Alike (runForms rs m) (runForms rs n) := by
  induction rs generalizing m n with
  | nil => exact .intro _ h
  | cons r rs ih =>
      cases r with
      | error fault => exact .intro _ h
      | ok e =>
          have hform := evalForm_alike e h
          rw [runForms, runForms]
          generalize evalForm e m = x at hform
          generalize evalForm e n = y at hform
          cases hform with
          | intro r henv =>
              cases r with
              | error fault => exact .intro _ henv
              | ok v => exact (ih henv).map fun r => (v :: r.1, r.2)

lemma runSource_alike (cs : List Char) (h : m.env = n.env) :
    Alike (runSource cs m) (runSource cs n) :=
  runForms_alike _ h

lemma runPrelude_alike (index : Nat) (texts : List (List Char)) (h : m.env = n.env) :
    Alike (runPrelude index texts m) (runPrelude index texts n) := by
  induction texts generalizing index m n with
  | nil => exact .intro _ h
  | cons cs texts ih =>
      have htext := runSource_alike cs h
      rw [runPrelude, runPrelude]
      generalize runSource cs m = x at htext
      generalize runSource cs n = y at htext
      cases htext with
      | intro r henv =>
          obtain ⟨vs, _ | fault⟩ := r
          · exact ih (index + 1) henv
          · exact .intro _ henv

lemma start_alike (prelude : List (List Char)) (tracing tracing' : Bool) :
    Alike (start tracing prelude) (start tracing' prelude) :=
  runPrelude_alike 0 prelude rfl

lemma runParsed_alike (path : Text) (es : List Expr) (h : m.env = n.env) :
    Alike (runParsed path es m) (runParsed path es n) := by
  induction es generalizing m n with
  | nil => exact .intro _ h
  | cons e es ih =>
      have hform := evalForm_alike e h
      rw [runParsed, runParsed]
      generalize evalForm e m = x at hform
      generalize evalForm e n = y at hform
      cases hform with
      | intro r henv =>
          cases r with
          | error fault => exact .intro _ henv
          | ok v => exact (ih henv).map fun r => (v :: r.1, r.2)

lemma runSources_alike (sources : List Source) (h : m.env = n.env) :
    Alike (runSources sources m) (runSources sources n) := by
  induction sources generalizing m n with
  | nil => exact .intro _ h
  | cons s sources ih =>
      have hfile := runParsed_alike s.path s.forms h
      rw [runSources, runSources]
      generalize runParsed s.path s.forms m = x at hfile
      generalize runParsed s.path s.forms n = y at hfile
      cases hfile with
      | intro r henv =>
          obtain ⟨vs, _ | fault⟩ := r
          · exact (ih henv).map fun r => (vs ++ r.1, r.2)
          · exact .intro _ henv

/-! ### Sessions as a whole -/

/-- What a session is asked to evaluate: a text, or the sources of a program. -/
inductive Request where
  | text (cs : List Char)
  | program (sources : List Source)

/-- The values that a request comes to, and what stopped it. -/
inductive Reply where
  | text (values : List Expr) (fault : Option SourceFault)
  | program (values : List Expr) (fault : Option Located)

/-- What a request comes to. -/
def answer : Request → Machine → Reply × Machine
  | .text cs, m => (runSource cs m).map (fun r => .text r.1 r.2) id
  | .program sources, m => (runSources sources m).map (fun r => .program r.1 r.2) id

/-- The replies to requests, one after the other, each with the environment that it leaves. A
request that fails does not end the session. -/
def converse : List Request → Machine → List (Reply × Environment)
  | [], _ => []
  | q :: qs, m => ((answer q m).1, (answer q m).2.env) :: converse qs (answer q m).2

lemma answer_alike (q : Request) (h : m.env = n.env) : Alike (answer q m) (answer q n) := by
  cases q with
  | text cs => exact (runSource_alike cs h).map fun r => Reply.text r.1 r.2
  | program sources => exact (runSources_alike sources h).map fun r => Reply.program r.1 r.2

lemma converse_congr (requests : List Request) (h : m.env = n.env) :
    converse requests m = converse requests n := by
  induction requests generalizing m n with
  | nil => rfl
  | cons q qs ih =>
      have hreply := answer_alike q h
      rw [converse, converse]
      generalize answer q m = x at hreply
      generalize answer q n = y at hreply
      cases hreply with
      | intro r henv => rw [henv, ih henv]

/-! ### What is recorded -/

/-- **Tracing is transparent**: with tracing on a session has the faults, the values and the
environments that it has without, from the prelude on. What the evaluation of a form records is its
log. A call is in the log for each point at which one starts, with its arguments in order and one
frame more than there are at that point, and a definition that fails adds nothing to what its body
logs. -/
theorem tracing_transparent :
    (∀ prelude requests,
      (start true prelude).1 = (start false prelude).1 ∧
      (start true prelude).2.env = (start false prelude).2.env ∧
      converse requests (start true prelude).2 = converse requests (start false prelude).2) ∧
    ∀ e m,
      Adds (log depthBound e m) m (evalForm e m).2 ∧
      (m.tracing = true →
        (evalForm e m).2.trace =
          String.join ((m.events.reverse ++ log depthBound e m).map Event.line)) ∧
      (∀ name args depth, .applied name args depth ∈ log depthBound e m ↔
        ∃ d operator operands m',
          Reaches depthBound e m (d + 1) (.combination (operator :: operands)) m' ∧
          Calls (eval d) m' operator operands name args ∧ depth = 1 + m'.env.depth) ∧
      ∀ d operands m',
        Reaches depthBound e m (d + 1) (.combination (.identifier "define" :: operands)) m' →
        (∀ v, (eval (d + 1) (.combination (.identifier "define" :: operands)) m').1 ≠ .value v) →
        log (d + 1) (.combination (.identifier "define" :: operands)) m' =
          logBody d operands m' := by
  refine ⟨fun prelude requests => ?_, fun e m => ?_⟩
  · have hstart := start_alike prelude true false
    generalize start true prelude = x at hstart
    generalize start false prelude = y at hstart
    cases hstart with
    | intro fault henv => exact ⟨rfl, henv, converse_congr requests henv⟩
  · have hadds : Adds (log depthBound e m) m (evalForm e m).2 := by
      rw [evalForm_machine]
      exact eval_adds depthBound e m
    exact ⟨hadds, hadds.trace_eq, fun _ _ _ => applied_mem_log_iff,
      fun _ _ _ _ => log_define_of_not_value⟩

/-- The two frames of `nestedCaller`, with tracing on. -/
def tracedCaller : Machine :=
  { nestedCaller with tracing := true }

/-- The form `(define z ((f "a" "b")))`, which fails after the call of `f`. -/
def failedDefinition : Expr :=
  .combination [.identifier "define", .identifier "z", .combination [nestedCall]]

/-- The calls of `f` and `g` and the definition inside `f` are shown, and the definition of `z` is
not. -/
theorem tracing_transparent_failedDefinition :
    tracedCaller.tracing = true ∧
    (eval depthBound failedDefinition tracedCaller).1 = .fault (.notProcedure (.string "b")) ∧
    log depthBound failedDefinition tracedCaller =
      log (depthBound - 1) (.combination [nestedCall]) tracedCaller ∧
    (evalForm failedDefinition tracedCaller).2.trace = String.join
      ["trace: apply f[\"a\" \"b\"] depth=3\n", "trace: define y = \"b\"\n",
        "trace: apply g[] depth=4\n"] := by
  have hfault : (eval depthBound failedDefinition tracedCaller).1 =
      .fault (.notProcedure (.string "b")) := rfl
  obtain ⟨-, htrace, -, hdefine⟩ := tracing_transparent.2 failedDefinition tracedCaller
  refine ⟨rfl, hfault, hdefine (depthBound - 1) _ _ .refl fun v hv => ?_, htrace rfl⟩
  cases hfault.symm.trans hv

end Session

end PocketScheme
