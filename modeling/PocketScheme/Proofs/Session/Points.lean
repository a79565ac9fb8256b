import PocketScheme.Proofs.Eval.Values
import PocketScheme.Proofs.Session

/-!
What holds at every point of every session, in the middle of calls included.

* `Reachable`, `Covers`: the machines between the forms of a session, however it is played;
* `Visits`: the evaluations in a session, at any depth;
* `Visits.sound`: they are evaluations of code with sound frames;
* `special_forms_unbindable`: the names of the special forms are never bound;
* `values_never_code`: values are never identifiers or combinations.
-/

namespace PocketScheme.Session

open Form (IsRead IsCode)
open Eval (IsValue Reaches isSpecial)

/-! ### Machines of sessions -/

/-- A machine between two forms of a session: it was fresh, and then forms were evaluated that are
read from texts. -/
def Reachable (tracing : Bool) (m : Machine) : Prop :=
  ∃ forms, (∀ e ∈ forms, IsRead e) ∧ m = machineAfter forms (.fresh tracing)

/-- The property holds of every machine that a session comes to: after its prelude, and whenever it
went on by a text, by a program of files that were read, or by lines at the prompt. -/
structure Covers (tracing : Bool) (P : Machine → Prop) : Prop where
  start : ∀ prelude, P (start tracing prelude).2
  source : ∀ m, P m → ∀ cs, P (runSource cs m).2
  program : ∀ m, P m → ∀ sources, (∀ s ∈ sources, ∃ cs, s.forms = (Form.readAll cs).1) →
    P (runSources sources m).2
  prompt : ∀ s, P s.machine → ∀ inputs, P (Repl.run s inputs).1.machine

lemma Reachable.after {tracing : Bool} {m : Machine} (h : Reachable tracing m) {forms : List Expr}
    (hforms : ∀ e ∈ forms, IsRead e) : Reachable tracing (machineAfter forms m) := by
  obtain ⟨before, hbefore, rfl⟩ := h
  exact ⟨before ++ forms, List.forall_mem_append.mpr ⟨hbefore, hforms⟩,
    (machineAfter_append _ _ _).symm⟩

/-- Whichever way a session is played, it goes from form to form. -/
lemma covers_reachable (tracing : Bool) : Covers tracing (Reachable tracing) where
  start prelude := by
    obtain ⟨forms, hforms, hm⟩ := start_machine tracing prelude
    refine ⟨forms, fun e he => ?_, hm⟩
    obtain ⟨cs, -, hread⟩ := hforms e he
    exact ⟨cs, hread⟩
  source m h cs := by
    obtain ⟨forms, hforms, hm⟩ := runSource_machine cs m
    rw [hm]
    exact h.after fun e he => ⟨cs, hforms.subset (List.mem_map_of_mem he)⟩
  program m h sources hsources := by
    obtain ⟨forms, hforms, hm⟩ := runSources_machine sources m
    rw [hm]
    refine h.after fun e he => ?_
    obtain ⟨s, hs, he⟩ := List.mem_flatMap.mp (hforms.subset he)
    obtain ⟨cs, hcs⟩ := hsources s hs
    rw [hcs] at he
    exact Form.isRead_of_mem_readAll he
  prompt s h inputs := by
    obtain ⟨forms, hforms, hm⟩ := Repl.run_reads s inputs
    rw [hm]
    exact h.after hforms

/-! ### Points of sessions -/

/-- The evaluation of `e` on `m` is part of a session: it is that of a form, or one inside that. The
bound on the depth may be any. -/
def Visits (tracing : Bool) (d : Nat) (e : Expr) (m : Machine) : Prop :=
  ∃ m₀ form depth, Reachable tracing m₀ ∧ IsRead form ∧ Reaches depth form m₀ d e m

lemma sound_fresh (tracing : Bool) : (Machine.fresh tracing).Sound := by
  have hbuiltins : ∀ (ps : List Primitive) (f : Frame), f.Sound →
      (ps.foldl (fun f p => f.insert p.name (.builtin p.name (some p))) f).Sound := by
    intro ps
    induction ps with
    | nil => exact fun f hf => hf
    | cons p ps ih =>
        intro f hf
        exact ih _ (hf.insert (by cases p <;> decide) (.builtin p))
  have hglobal : Machine.globalFrame.Sound :=
    ((hbuiltins Primitive.all [] (by simp [Frame.Sound])).insert (by decide) (.boolean true)).insert
      (by decide) (.boolean false)
  refine ⟨List.cons_ne_nil _ _, fun f hf => ?_⟩
  obtain rfl := List.mem_singleton.mp hf
  exact hglobal

lemma sound_machineAfter {forms : List Expr} (hforms : ∀ e ∈ forms, IsRead e) {m : Machine}
    (hm : m.Sound) : (machineAfter forms m).Sound := by
  induction forms generalizing m with
  | nil => exact hm
  | cons e forms ih =>
      obtain ⟨he, hrest⟩ := List.forall_mem_cons.mp hforms
      rw [machineAfter_cons, evalForm_machine]
      exact ih hrest (Eval.eval_sound he.isCode hm).1

lemma Reachable.sound {tracing : Bool} {m : Machine} (h : Reachable tracing m) : m.Sound := by
  obtain ⟨forms, hforms, rfl⟩ := h
  exact sound_machineAfter hforms (sound_fresh tracing)

/-- Everywhere in a session code is evaluated, with sound frames. -/
lemma Visits.sound {tracing : Bool} {d : Nat} {e : Expr} {m : Machine} (h : Visits tracing d e m) :
    IsCode e ∧ m.Sound := by
  obtain ⟨m₀, form, depth, hm₀, hform, hreach⟩ := h
  exact hreach.sound hform.isCode hm₀.sound

/-! ### Special forms -/

/-- A procedure has neither its name nor a parameter from a special form. -/
def HasPlainNames (v : Expr) : Prop :=
  ∀ name params body, v = .procedure name params body →
    isSpecial name = false ∧ ∀ p ∈ params, isSpecial p = false

lemma hasPlainNames_of_isValue {v : Expr} (h : IsValue v) : HasPlainNames v := by
  rintro name params body rfl
  cases h with
  | procedure hname hparams _ => exact ⟨hname, hparams⟩

/-- The names of the special forms cannot be had for anything else: no frame binds one, no procedure
in a frame is named by one or has one as a parameter, a reference to one fails, and a combination
that starts with one is the special form. -/
structure KeepsSpecialForms (m : Machine) : Prop where
  unbound : ∀ f ∈ m.env, ∀ b ∈ f, isSpecial b.1 = false
  procedures : ∀ f ∈ m.env, ∀ b ∈ f, HasPlainNames b.2
  reference : ∀ depth name, isSpecial name = true →
    eval (depth + 1) (.identifier name) m = (.fault (.undefined name), m)
  definition : ∀ depth operands,
    eval (depth + 1) (.combination (.identifier "define" :: operands)) m =
    Eval.evalDefine (eval depth) operands m
  conditional : ∀ depth clauses, eval (depth + 1) (.combination (.identifier "cond" :: clauses)) m =
    Eval.evalCond (eval depth) clauses m

lemma keepsSpecialForms_of_sound {m : Machine} (hm : m.Sound) : KeepsSpecialForms m where
  unbound f hf b hb := (hm.frames f hf b hb).1
  procedures f hf b hb := hasPlainNames_of_isValue (hm.frames f hf b hb).2
  reference depth name hname := by
    rw [eval, Eval.lookup_keyword hm.frames hname]
  definition _ _ := rfl
  conditional _ _ := rfl

/-- **Special forms can never be bound**. At every point of every session, whether it starts or ends
an evaluation there, and in the middle of calls as well, the names of the special forms are not
bound and belong to no procedure. So a reference to one fails, and a combination that starts with
one is always the special form. -/
theorem special_forms_unbindable (tracing : Bool) :
    (∀ d e m, Visits tracing d e m → KeepsSpecialForms m ∧ KeepsSpecialForms (eval d e m).2 ∧
      ∀ v, (eval d e m).1 = .value v → HasPlainNames v) ∧
    Covers tracing (Reachable tracing) := by
  refine ⟨fun d e m h => ?_, covers_reachable tracing⟩
  obtain ⟨he, hm⟩ := h.sound
  obtain ⟨hend, hvalue⟩ := Eval.eval_sound (d := d) he hm
  exact ⟨keepsSpecialForms_of_sound hm, keepsSpecialForms_of_sound hend,
    fun v hv => hasPlainNames_of_isValue (hvalue v hv)⟩

/-- The form `(define (f x) (cond (x x)))`. -/
def definitionOfF : Expr :=
  .combination [.identifier "define", .combination [.identifier "f", .identifier "x"],
    .combination [.identifier "cond", .combination [.identifier "x", .identifier "x"]]]

/-- The form `(f "a")`. -/
def callOfF : Expr :=
  .combination [.identifier "f", .string "a"]

lemma isRead_definitionOfF : IsRead definitionOfF := by
  refine Form.Legible.isRead ?_ ?_
  · simp only [definitionOfF, Form.legible_combination, Form.legible_identifier,
      List.forall_mem_cons, List.not_mem_nil, IsEmpty.forall_iff, implies_true, and_true]
    decide
  · simp [Form.FloatFree, definitionOfF, Form.flatten, Form.flattenList]

lemma isRead_callOfF : IsRead callOfF := by
  refine Form.Legible.isRead ?_ ?_
  · simp only [callOfF, Form.legible_combination, Form.legible_identifier, Form.legible_string,
      List.forall_mem_cons, List.not_mem_nil, IsEmpty.forall_iff, implies_true, and_true]
    decide
  · simp [Form.FloatFree, callOfF, Form.flatten, Form.flattenList]

/-- The machine after the definition. -/
def knowingF : Machine :=
  machineAfter [definitionOfF] (.fresh true)

lemma visits_bodyOfF : Visits true 3
    (.combination [.identifier "cond", .combination [.identifier "x", .identifier "x"]])
    (Eval.enter "f" ["x"] [.string "a"] knowingF) := by
  have hoperator : eval 3 (.identifier "f") knowingF = (.value (.procedure "f" ["x"]
      (.combination [.identifier "cond", .combination [.identifier "x", .identifier "x"]])),
      knowingF) :=
    rfl
  have hoperands : Eval.evalList (eval 3) [.string "a"] knowingF =
      (.value [.string "a"], knowingF) :=
    rfl
  refine ⟨knowingF, callOfF, 4, ?_, isRead_callOfF, .step (.body ?_ hoperator hoperands rfl) .refl⟩
  · exact ⟨[definitionOfF], List.forall_mem_singleton.mpr isRead_definitionOfF, rfl⟩
  · simp [Eval.IsKeyword]

/-- In the call `(f "a")` the frame of `f` keeps the special forms as all others do. -/
theorem special_forms_unbindable_in_call :
    Visits true 3
      (.combination [.identifier "cond", .combination [.identifier "x", .identifier "x"]])
      (Eval.enter "f" ["x"] [.string "a"] knowingF) ∧
    (Eval.enter "f" ["x"] [.string "a"] knowingF).env.top? "x" = some (.string "a") ∧
    KeepsSpecialForms (Eval.enter "f" ["x"] [.string "a"] knowingF) :=
  ⟨visits_bodyOfF, rfl, ((special_forms_unbindable true).1 _ _ _ visits_bodyOfF).1⟩

/-! ### Values -/

/-- What a session gives back: values, and a fault that is neither a definition without a frame nor
the call of a builtin without its operation. -/
structure GivesValues (vs : List Expr) (fault : Option SourceFault) : Prop where
  values : ∀ v ∈ vs, IsValue v
  frame : fault ≠ some (.eval .noFrame)
  operation : ∀ name, fault ≠ some (.eval (.notProcedure (.builtin name none)))

lemma GivesValues.cons {v : Expr} {vs : List Expr} {fault : Option SourceFault} (hv : IsValue v)
    (h : GivesValues vs fault) : GivesValues (v :: vs) fault :=
  ⟨List.forall_mem_cons.mpr ⟨hv, h.values⟩, h.frame, h.operation⟩

lemma GivesValues.append {us vs : List Expr} {fault : Option SourceFault}
    (hus : ∀ v ∈ us, IsValue v) (h : GivesValues vs fault) : GivesValues (us ++ vs) fault :=
  ⟨List.forall_mem_append.mpr ⟨hus, h.values⟩, h.frame, h.operation⟩

lemma givesValues_nil : GivesValues [] none :=
  ⟨by simp, by simp, by simp⟩

/-- A form that is read evaluates to a value, or fails for a reason of its own. -/
lemma evalForm_givesValues {e : Expr} (he : IsRead e) {m : Machine} (hm : m.Sound) :
    (∃ v m', evalForm e m = (.ok v, m') ∧ IsValue v ∧ m'.Sound) ∨
      ∃ fault m', evalForm e m = (.error fault, m') ∧ GivesValues [] (some fault) ∧ m'.Sound := by
  obtain ⟨hend, hvalue⟩ := Eval.eval_sound (d := depthBound) he.isCode hm
  obtain ⟨hframe, hoperation⟩ := Eval.eval_fault_ne (d := depthBound) he.isCode hm
  rw [evalForm]
  generalize eval depthBound e m = x at *
  obtain ⟨v | f | _, m'⟩ := x
  · exact .inl ⟨v, m', rfl, hvalue v rfl, hend⟩
  · exact .inr ⟨.eval f, m', rfl, ⟨by simp, by simpa using hframe, by simpa using hoperation⟩, hend⟩
  · exact .inr ⟨.exhausted, m', rfl, ⟨by simp, by simp, by simp⟩, hend⟩

lemma runForms_givesValues {rs : List (Except SyntaxFault Expr)} (hrs : ∀ e, .ok e ∈ rs → IsRead e)
    {m : Machine} (hm : m.Sound) : GivesValues (runForms rs m).1.1 (runForms rs m).1.2 := by
  induction rs generalizing m with
  | nil => exact givesValues_nil
  | cons r rs ih =>
      cases r with
      | error fault => exact ⟨by simp [runForms], by simp [runForms], by simp [runForms]⟩
      | ok e =>
          rw [runForms]
          rcases evalForm_givesValues (hrs e List.mem_cons_self) hm with
            ⟨v, m', hr, hv, hm'⟩ | ⟨fault, m', hr, hfault, -⟩
          · rw [hr]
            exact (ih (fun e he => hrs e (List.mem_cons_of_mem _ he)) hm').cons hv
          · rw [hr]
            exact hfault

lemma runParsed_givesValues (path : Text) {es : List Expr} (hes : ∀ e ∈ es, IsRead e) {m : Machine}
    (hm : m.Sound) :
    GivesValues (runParsed path es m).1.1 ((runParsed path es m).1.2.map Located.fault) ∧
      (runParsed path es m).2.Sound := by
  induction es generalizing m with
  | nil => exact ⟨givesValues_nil, hm⟩
  | cons e es ih =>
      obtain ⟨he, hes⟩ := List.forall_mem_cons.mp hes
      rw [runParsed]
      rcases evalForm_givesValues he hm with ⟨v, m', hr, hv, hm'⟩ | ⟨fault, m', hr, hfault, hm'⟩
      · rw [hr]
        exact ⟨(ih hes hm').1.cons hv, (ih hes hm').2⟩
      · rw [hr]
        exact ⟨hfault, hm'⟩

lemma runSources_givesValues {sources : List Source} (hs : ∀ s ∈ sources, ∀ e ∈ s.forms, IsRead e)
    {m : Machine} (hm : m.Sound) :
    GivesValues (runSources sources m).1.1 ((runSources sources m).1.2.map Located.fault) := by
  induction sources generalizing m with
  | nil => exact givesValues_nil
  | cons s sources ih =>
      obtain ⟨hforms, hrest⟩ := List.forall_mem_cons.mp hs
      obtain ⟨hvalues, hm'⟩ := runParsed_givesValues s.path hforms hm
      rw [runSources]
      rcases hr : runParsed s.path s.forms m with ⟨⟨vs, _ | fault⟩, m'⟩
      · rw [hr] at hvalues hm'
        exact (ih hrest hm').append hvalues.values
      · rw [hr] at hvalues
        exact hvalues

/-- **No syntax becomes a value**. At every point of every session there is a frame, all frames bind
values, and an evaluation gives back a value or fails for a reason of its own: it never meets a
definition without a frame or a builtin without its operation. So do sessions as a whole. A value is
no identifier and no combination, and evaluates to itself on every machine. -/
theorem values_never_code (tracing : Bool) :
    (∀ d e m, Visits tracing d e m →
      (∀ n, n = m ∨ n = (eval d e m).2 → n.env ≠ [] ∧ ∀ f ∈ n.env, ∀ b ∈ f, IsValue b.2) ∧
      (∀ v, (eval d e m).1 = .value v → IsValue v) ∧ (eval d e m).1 ≠ .fault .noFrame ∧
      ∀ name, (eval d e m).1 ≠ .fault (.notProcedure (.builtin name none))) ∧
    (∀ v, IsValue v → v.kind ≠ .identifier ∧ v.kind ≠ .combination ∧
      ∀ depth m, eval (depth + 1) v m = (.value v, m)) ∧
    (∀ m, Reachable tracing m →
      (∀ cs, GivesValues (runSource cs m).1.1 (runSource cs m).1.2) ∧
      ∀ sources, (∀ s ∈ sources, ∃ cs, s.forms = (Form.readAll cs).1) →
        GivesValues (runSources sources m).1.1 ((runSources sources m).1.2.map Located.fault)) ∧
    Covers tracing (Reachable tracing) := by
  refine ⟨fun d e m h => ?_, fun v hv => ⟨hv.kind_ne.1, hv.kind_ne.2, hv.eval_eq⟩,
    fun m hm => ⟨?_, ?_⟩,
    covers_reachable tracing⟩
  · obtain ⟨he, hm⟩ := h.sound
    obtain ⟨hend, hvalue⟩ := Eval.eval_sound (d := d) he hm
    refine ⟨?_, hvalue, Eval.eval_fault_ne he hm⟩
    rintro n (rfl | rfl)
    · exact ⟨hm.frame, fun f hf b hb => (hm.frames f hf b hb).2⟩
    · exact ⟨hend.frame, fun f hf b hb => (hend.frames f hf b hb).2⟩
  · exact fun cs => runForms_givesValues (fun e he => ⟨cs, he⟩) hm.sound
  · intro sources hsources
    refine runSources_givesValues (fun s hs e he => ?_) hm.sound
    obtain ⟨cs, hcs⟩ := hsources s hs
    rw [hcs] at he
    exact Form.isRead_of_mem_readAll he

/-- In the call `(f "a")` the parameter is bound to a value, which the body gives back. -/
theorem values_never_code_in_call :
    Visits true 3
      (.combination [.identifier "cond", .combination [.identifier "x", .identifier "x"]])
      (Eval.enter "f" ["x"] [.string "a"] knowingF) ∧
    (eval 3 (.combination [.identifier "cond", .combination [.identifier "x", .identifier "x"]])
      (Eval.enter "f" ["x"] [.string "a"] knowingF)).1 = .value (.string "a") ∧
    IsValue (.string "a") :=
  ⟨visits_bodyOfF, rfl, ((values_never_code true).1 _ _ _ visits_bodyOfF).2.1 _ rfl⟩

end PocketScheme.Session
