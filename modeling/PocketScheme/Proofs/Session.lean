import PocketScheme.Repl
import PocketScheme.Proofs.Eval.Frames
import PocketScheme.Proofs.Form.Printing

/-!
Sessions as courses of forms. Whatever a session is given, its machine only ever moves by the
evaluation of one form after the other, so what holds between forms holds of every session.

* `Session.machineAfter`: the machine after some forms, whatever they came to;
* `Session.runSource_machine`, `Session.start_machine`, `Session.runSources_machine`,
  `Repl.run_reads`: the machines of sessions are such machines;
* `Session.machineAfter_grown`, `Session.environmentAfter_grown`: between two points of a session
  the environment grows by names that the forms in between define;
* `Session.activation_records`: frames come and go with calls, and nothing leaks into the global
  one.
-/

namespace PocketScheme

namespace Session

/-- The machine after the forms were evaluated one by one, whatever each of them came to. -/
def machineAfter (forms : List Expr) (m : Machine) : Machine :=
  forms.foldl (fun m e => (evalForm e m).2) m

@[simp] lemma machineAfter_nil (m : Machine) : machineAfter [] m = m := rfl

@[simp] lemma machineAfter_cons (e : Expr) (forms : List Expr) (m : Machine) :
    machineAfter (e :: forms) m = machineAfter forms (evalForm e m).2 := rfl

lemma machineAfter_append (forms more : List Expr) (m : Machine) :
    machineAfter (forms ++ more) m = machineAfter more (machineAfter forms m) := by
  simp [machineAfter]

/-- A form moves the machine as its evaluation does. -/
lemma evalForm_machine (e : Expr) (m : Machine) : (evalForm e m).2 = (eval depthBound e m).2 := by
  unfold evalForm
  split <;> simp [*]

/-! ### Courses of sessions -/

/-- What is read is evaluated form by form, up to a fault. -/
lemma runForms_machine (rs : List (Except SyntaxFault Expr)) (m : Machine) :
    ∃ forms, forms.map .ok <+: rs ∧ (runForms rs m).2 = machineAfter forms m := by
  induction rs generalizing m with
  | nil => exact ⟨[], by simp, rfl⟩
  | cons r rs ih =>
      cases r with
      | error fault => exact ⟨[], by simp, rfl⟩
      | ok e =>
          rw [runForms]
          rcases hr : evalForm e m with ⟨_ | v, m'⟩
          · exact ⟨[e], by simp, by simp [hr]⟩
          · obtain ⟨forms, hforms, hm⟩ := ih m'
            exact ⟨e :: forms, by simpa using hforms, by simp [hr, hm]⟩

lemma runSource_machine (cs : List Char) (m : Machine) :
    ∃ forms, forms.map .ok <+: Form.readEach (Token.scan cs) ∧
      (runSource cs m).2 = machineAfter forms m :=
  runForms_machine _ m

lemma runPrelude_machine (index : Nat) (texts : List (List Char)) (m : Machine) :
    ∃ forms, (∀ e ∈ forms, ∃ cs ∈ texts, .ok e ∈ Form.readEach (Token.scan cs)) ∧
      (runPrelude index texts m).2 = machineAfter forms m := by
  induction texts generalizing index m with
  | nil => exact ⟨[], by simp, rfl⟩
  | cons cs texts ih =>
      obtain ⟨forms, hforms, hm⟩ := runSource_machine cs m
      have hread : ∀ e ∈ forms, .ok e ∈ Form.readEach (Token.scan cs) := fun e he =>
        hforms.subset (List.mem_map_of_mem he)
      rw [runPrelude]
      rcases hr : runSource cs m with ⟨⟨vs, _ | fault⟩, m'⟩
      · obtain ⟨more, hmore, hm'⟩ := ih (index + 1) m'
        refine ⟨forms ++ more, fun e he => ?_, ?_⟩
        · rcases List.mem_append.mp he with he | he
          · exact ⟨cs, by simp, hread e he⟩
          · obtain ⟨cs', hcs', h⟩ := hmore e he
            exact ⟨cs', by simp [hcs'], h⟩
        · rw [hr] at hm
          simp only [machineAfter_append, ← hm, hm']
      · refine ⟨forms, fun e he => ⟨cs, by simp, hread e he⟩, ?_⟩
        rw [hr] at hm
        exact hm

lemma start_machine (tracing : Bool) (prelude : List (List Char)) :
    ∃ forms, (∀ e ∈ forms, ∃ cs ∈ prelude, .ok e ∈ Form.readEach (Token.scan cs)) ∧
      (start tracing prelude).2 = machineAfter forms (.fresh tracing) :=
  runPrelude_machine 0 prelude _

lemma runParsed_machine (path : Text) (es : List Expr) (m : Machine) :
    ∃ forms, forms <+: es ∧ (runParsed path es m).2 = machineAfter forms m ∧
      ((runParsed path es m).1.2 = none → forms = es) := by
  induction es generalizing m with
  | nil => exact ⟨[], by simp, rfl, fun _ => rfl⟩
  | cons e es ih =>
      rw [runParsed]
      rcases hr : evalForm e m with ⟨_ | v, m'⟩
      · exact ⟨[e], by simp, by simp [hr], by simp⟩
      · obtain ⟨forms, hforms, hm, hall⟩ := ih m'
        exact ⟨e :: forms, by simpa using hforms, by simp [hr, hm], fun h => by rw [hall h]⟩

lemma runSources_machine (sources : List Source) (m : Machine) :
    ∃ forms, forms <+: sources.flatMap (·.forms) ∧
      (runSources sources m).2 = machineAfter forms m := by
  induction sources generalizing m with
  | nil => exact ⟨[], by simp, rfl⟩
  | cons s ss ih =>
      obtain ⟨forms, hforms, hm, hall⟩ := runParsed_machine s.path s.forms m
      rw [runSources]
      rcases hr : runParsed s.path s.forms m with ⟨⟨vs, _ | fault⟩, m'⟩
      · obtain ⟨more, hmore, hm'⟩ := ih m'
        rw [hr] at hm hall
        refine ⟨s.forms ++ more, by simpa using hmore, ?_⟩
        simp only at hm
        rw [machineAfter_append, ← hall rfl, ← hm, ← hm']
      · rw [hr] at hm
        exact ⟨forms, hforms.trans (by simp), hm⟩

end Session

namespace Repl

open Session

lemma evaluate_machine (s : State) (text : Text) :
    (evaluate s text).machine = (runSource text.chars s.machine).2 := by
  unfold evaluate
  rcases hr : runSource text.chars s.machine with ⟨⟨vs, _ | fault⟩, m⟩ <;> rfl

/-- The machine of the second state comes from that of the first by the evaluation of forms that are
read from texts. -/
def Reads (s s' : State) : Prop :=
  ∃ forms, (∀ e ∈ forms, Form.IsRead e) ∧ s'.machine = machineAfter forms s.machine

lemma Reads.of_eq {s s' : State} (h : s'.machine = s.machine) : Reads s s' :=
  ⟨[], by simp, h⟩

lemma Reads.trans {s s' s'' : State} (h : Reads s s') (h' : Reads s' s'') : Reads s s'' := by
  obtain ⟨forms, hforms, hm⟩ := h
  obtain ⟨more, hmore, hm'⟩ := h'
  exact ⟨forms ++ more, List.forall_mem_append.mpr ⟨hforms, hmore⟩,
    by rw [machineAfter_append, ← hm, hm']⟩

lemma evaluate_reads (s : State) (text : Text) : Reads s (evaluate s text) := by
  obtain ⟨forms, hforms, hm⟩ := runSource_machine text.chars s.machine
  refine ⟨forms, fun e he => ⟨text.chars, ?_⟩, (evaluate_machine s text).trans hm⟩
  exact hforms.subset (List.mem_map_of_mem he)

lemma command_reads (s : State) (text : Text) : Reads s (command s text).1 := by
  unfold command
  split
  · exact .of_eq rfl
  · split
    any_goals exact .of_eq rfl
    -- of the commands only `:load` evaluates anything
    unfold load
    split
    · exact .of_eq rfl
    · split
      · exact evaluate_reads _ _
      · exact .of_eq rfl

lemma submit_reads (s : State) (text : Text) : Reads s (submit s text).1 := by
  unfold submit
  split
  · exact .of_eq rfl
  · split
    · exact .trans (.of_eq rfl) (command_reads _ _)
    · exact .trans (.of_eq rfl) (evaluate_reads _ _)

lemma step_reads (s : State) (i : Input) : Reads s (step s i).1 := by
  cases i with
  | interrupt => exact .of_eq rfl
  | line line =>
      simp only [step]
      generalize (if s.pending.isEmpty then line else s.pending ++ "\n" ++ line) = text
      split
      · exact .trans (.of_eq rfl) (submit_reads _ _)
      · exact .of_eq rfl

/-- An interactive session evaluates forms that it reads one after the other, and does nothing else
to the machine. -/
lemma run_reads (s : State) (inputs : List Input) : Reads s (run s inputs).1 := by
  induction inputs generalizing s with
  | nil => exact .of_eq rfl
  | cons i inputs ih =>
      have hstep : Reads s (step s.ask i).1 :=
        (Reads.of_eq rfl : Reads s s.ask).trans (step_reads s.ask i)
      rw [run]
      rcases hs : step s.ask i with ⟨s', _ | _⟩
      · rw [hs] at hstep
        exact hstep.trans (ih s')
      · rw [hs] at hstep
        exact hstep

lemma run_continues (s : State) (inputs : List Input) :
    ∃ forms, (run s inputs).1.machine = machineAfter forms s.machine := by
  obtain ⟨forms, -, hm⟩ := run_reads s inputs
  exact ⟨forms, hm⟩

end Repl

namespace Session

open Eval

/-! ### The frames of a session -/

/-- Between two points of a session the environment grows by names that the forms in between
define. -/
lemma machineAfter_grown (forms : List Expr) {m : Machine} (hm : m.env ≠ []) :
    m.env.Grown {name | ∃ e ∈ forms, Defines name e} (machineAfter forms m).env := by
  induction forms generalizing m with
  | nil => exact .refl hm
  | cons e forms ih =>
      have hform : m.env.Grown {name | Defines name e} (evalForm e m).2.env := by
        rw [evalForm_machine]
        exact eval_grown depthBound e hm
      have hrest := ih hform.ne_nil
      refine Environment.Grown.trans (hform.mono ?_) (hrest.mono ?_)
      · exact fun name hd => ⟨e, by simp, hd⟩
      · rintro name ⟨e', he', hd⟩
        exact ⟨e', by simp [he'], hd⟩

/-- The environment of a session after the forms that it evaluated so far. -/
def environmentAfter (tracing : Bool) (forms : List Expr) : Environment :=
  (machineAfter forms (.fresh tracing)).env

/-- A session starts with the global frame, and goes on from any point by growing it. -/
lemma environmentAfter_grown (tracing : Bool) (forms more : List Expr) :
    (environmentAfter tracing forms).depth = 1 ∧
      (environmentAfter tracing forms).Grown {name | ∃ e ∈ more, Defines name e}
        (environmentAfter tracing (forms ++ more)) := by
  have hfresh : (Machine.fresh tracing).env ≠ [] := by simp [Machine.fresh]
  have h := machineAfter_grown forms hfresh
  refine ⟨h.depth_eq, ?_⟩
  rw [environmentAfter, environmentAfter, machineAfter_append]
  exact machineAfter_grown more h.ne_nil

/-- **Activation records**. An evaluation gives back as many frames as it met, those below the
innermost one as they were, and the innermost one with all its names. A call gives back every frame
as it was. So between two forms of a session there is the global frame alone; no name goes from it,
and a binding in it changes only if a form in between defines that name outside the bodies of
procedures. The sessions are all courses of forms: with a prelude, on a text, on the sources of a
program, or line by line. -/
theorem activation_records :
    (∀ (depth : Nat) (e : Expr) (m : Machine), m.env ≠ [] →
      (eval depth e m).2.env.depth = m.env.depth ∧ (eval depth e m).2.env.pop = m.env.pop ∧
        ∀ name, (m.env.top? name).isSome → ((eval depth e m).2.env.top? name).isSome) ∧
    (∀ (depth : Nat) (name : String) (params : List String) (body : Expr) (args : List Expr)
      (m : Machine), (applyProcedure (eval depth) name params body args m).2.env = m.env) ∧
    (∀ (tracing : Bool) (forms more : List Expr),
      (environmentAfter tracing forms).depth = 1 ∧
        (∀ name, ((environmentAfter tracing forms).top? name).isSome →
          ((environmentAfter tracing (forms ++ more)).top? name).isSome) ∧
        ∀ name, (environmentAfter tracing (forms ++ more)).top? name ≠
          (environmentAfter tracing forms).top? name → ∃ e ∈ more, Defines name e) ∧
    (∀ (tracing : Bool) (prelude : List (List Char)), ∃ forms,
      (∀ e ∈ forms, ∃ cs ∈ prelude, .ok e ∈ Form.readEach (Token.scan cs)) ∧
        (start tracing prelude).2 = machineAfter forms (.fresh tracing)) ∧
    (∀ (cs : List Char) (m : Machine), ∃ forms,
      forms.map .ok <+: Form.readEach (Token.scan cs) ∧
        (runSource cs m).2 = machineAfter forms m) ∧
    (∀ (sources : List Source) (m : Machine), ∃ forms,
      forms <+: sources.flatMap (·.forms) ∧ (runSources sources m).2 = machineAfter forms m) ∧
    ∀ (s : Repl.State) (inputs : List Repl.Input), ∃ forms,
      (Repl.run s inputs).1.machine = machineAfter forms s.machine := by
  refine ⟨fun depth e m hm => ?_, applyProcedure_env, fun tracing forms more => ?_, start_machine,
    runSource_machine, runSources_machine, Repl.run_continues⟩
  · have h := eval_grown depth e hm
    exact ⟨h.depth_eq, h.pop_eq, fun name hn => h.isSome_top? hn⟩
  · obtain ⟨hdepth, h⟩ := environmentAfter_grown tracing forms more
    refine ⟨hdepth, fun name hn => h.isSome_top? hn, fun name hn => ?_⟩
    by_contra hno
    exact hn (h.top?_eq hno)

/-- The call `(g)` fails in the frame of `g`, and that frame goes. -/
theorem activation_records_failed_call :
    nestedCaller.env ≠ [] ∧
      (eval 6 (.combination [.identifier "g"]) nestedCaller).1 = .fault (.undefined "y") ∧
      (eval 6 (.combination [.identifier "g"]) nestedCaller).2.env.depth = 2 ∧
      (eval 6 (.combination [.identifier "g"]) nestedCaller).2.env.pop = nestedCaller.env.pop := by
  have hne : nestedCaller.env ≠ [] := by simp [nestedCaller]
  have h := activation_records.1 6 (.combination [.identifier "g"]) nestedCaller hne
  exact ⟨hne, rfl, h.1, h.2.1⟩

end Session

end PocketScheme
