import PocketScheme.Proofs.Eval.Frames
import PocketScheme.Proofs.Eval.Points
import PocketScheme.Proofs.Form.Printing

/-!
Values and code. Expressions serve as both, but what is read from a text is code, what evaluation
gives back and binds is a value, and only the body of a procedure leads from one to the other.

* `Form.IsCode`: what is read from a text, and its parts;
* `Eval.IsValue`: the values;
* `Environment.Sound`: frames that bind values, and none to the name of a special form;
* `eval_sound`, `Reaches.sound`: evaluation of code keeps such frames at every point and gives back
  values;
* `eval_fault_ne`: it does not run into what only other code could run into.
-/

namespace PocketScheme

/-! ### Code -/

/-- The expression is part of another one, or that one itself. -/
inductive Expr.Within (e : Expr) : Expr → Prop where
  | self : Within e e
  | element {d : Expr} {es : List Expr} (h : Within e d) (hd : d ∈ es) : Within e (.combination es)

lemma Expr.Within.trans {e d c : Expr} (h : e.Within d) (h' : d.Within c) : e.Within c := by
  induction h' with
  | self => exact h
  | element _ hd ih => exact .element ih hd

namespace Form

/-- The expression is part of a form that is read from some text. -/
def IsCode (e : Expr) : Prop :=
  ∃ form, IsRead form ∧ e.Within form

lemma IsRead.isCode {e : Expr} (h : IsRead e) : IsCode e :=
  ⟨e, h, .self⟩

lemma IsCode.within {e d : Expr} (hd : IsCode d) (h : e.Within d) : IsCode e := by
  obtain ⟨form, hform, hwithin⟩ := hd
  exact ⟨form, hform, h.trans hwithin⟩

lemma Legible.within {e d : Expr} (hd : Legible d) (h : e.Within d) : Legible e := by
  induction h with
  | self => exact hd
  | element _ hmem ih => exact ih (hd.part hmem)

lemma IsCode.legible {e : Expr} (h : IsCode e) : Legible e := by
  obtain ⟨form, hread, hwithin⟩ := h
  exact hread.legible.within hwithin

/-- Code that stands for itself is a string or a number. -/
lemma IsCode.literal {e : Expr} (h : IsCode e) (hc : e.kind ≠ .combination)
    (hi : e.kind ≠ .identifier) : (∃ s, e = .string s) ∨ ∃ n, e = .number n := by
  have hleaf := h.legible
  cases e with
  | combination es => exact absurd rfl hc
  | identifier name => exact absurd rfl hi
  | string s => exact .inl ⟨s, rfl⟩
  | number n => exact .inr ⟨n, rfl⟩
  | boolean _ | procedure _ _ _ | builtin _ _ | void =>
      exact (hleaf _ (List.mem_singleton_self _)).elim

end Form

namespace Eval

open Form (IsCode)

/-- What is evaluated is part of the expression. -/
lemma within_of_mem_parts {e p : Expr} (h : p ∈ parts e) : p.Within e := by
  cases e with
  | combination elements =>
      cases elements with
      | nil => simp [parts] at h
      | cons operator operands =>
          by_cases hk : IsKeyword operator
          · rcases hk with rfl | rfl
            · simp only [parts, beq_self_eq_true, if_true] at h
              split at h
              · obtain rfl := List.mem_singleton.mp h
                exact .element .self (by simp)
              · simp at h
            · obtain ⟨clause, hclause, hp⟩ := List.mem_flatMap.mp h
              split at hp
              · exact .element (.element .self hp) (List.mem_cons_of_mem _ hclause)
              · simp at hp
          · rw [parts_application hk] at h
            exact .element .self h
  | _ => simp [parts] at h

/-! ### Values -/

/-- What evaluation gives back and binds: a number, a string, a boolean, void, a procedure whose
body is code, or one of the builtins. A procedure has neither its name nor a parameter from a
special form. -/
inductive IsValue : Expr → Prop where
  | number (n : Number) : IsValue (.number n)
  | string (s : String) : IsValue (.string s)
  | boolean (b : Bool) : IsValue (.boolean b)
  | void : IsValue .void
  | procedure {name : String} {params : List String} {body : Expr} (hname : isSpecial name = false)
      (hparams : ∀ p ∈ params, isSpecial p = false) (hbody : IsCode body) :
      IsValue (.procedure name params body)
  | builtin (p : Primitive) : IsValue (.builtin p.name (some p))

/-- A value evaluates to itself everywhere. -/
lemma IsValue.eval_eq {v : Expr} (h : IsValue v) (depth : Nat) (m : Machine) :
    eval (depth + 1) v m = (.value v, m) := by
  cases h <;> rfl

lemma IsValue.kind_ne {v : Expr} (h : IsValue v) :
    v.kind ≠ .identifier ∧ v.kind ≠ .combination := by
  cases h <;> simp [Expr.kind]

lemma signatureNames_ok {es : List Expr} {names : List String} (h : signatureNames es = .ok names) :
    ∀ name ∈ names, isSpecial name = false := by
  fun_induction signatureNames es generalizing names with
  | case1 =>
      cases h
      simp
  | case2 => cases h
  | case3 name es hname ih =>
      obtain ⟨rest, hrest, rfl⟩ := exists_of_map_eq_ok h
      exact List.forall_mem_cons.mpr ⟨by simpa using hname, ih hrest⟩
  | case4 => cases h

lemma isSpecial_of_boundName? {target : Expr} {name : String} (h : boundName? target = some name) :
    isSpecial name = false := by
  cases target with
  | identifier other =>
      rw [boundName?] at h
      split at h
      · cases h
      · rename_i hother
        obtain rfl := Option.some.inj h
        simpa using hother
  | combination elements =>
      rw [boundName?] at h
      split at h
      · rename_i other params hs
        obtain rfl := Option.some.inj h
        exact signatureNames_ok hs other List.mem_cons_self
      · cases h
  | _ => cases h

end Eval

/-! ### Sound frames -/

/-- A frame binds values, and none to the name of a special form. -/
def Frame.Sound (f : Frame) : Prop :=
  ∀ b ∈ f, Eval.isSpecial b.1 = false ∧ Eval.IsValue b.2

lemma Frame.Sound.insert {f : Frame} {name : String} {v : Expr} (hf : f.Sound)
    (hname : Eval.isSpecial name = false) (hv : Eval.IsValue v) : (f.insert name v).Sound := by
  intro b hb
  rcases List.mem_cons.mp hb with rfl | hb
  · exact ⟨hname, hv⟩
  · exact hf b (List.mem_of_mem_filter hb)

lemma Frame.Sound.insertAll {f : Frame} {bs : List (String × Expr)} (hf : f.Sound)
    (hbs : ∀ b ∈ bs, Eval.isSpecial b.1 = false ∧ Eval.IsValue b.2) : (f.insertAll bs).Sound := by
  induction bs generalizing f with
  | nil => exact hf
  | cons b bs ih =>
      obtain ⟨hname, hv⟩ := hbs b List.mem_cons_self
      exact ih (hf.insert hname hv) fun b hb => hbs b (List.mem_cons_of_mem _ hb)

lemma Frame.mem_of_get? {f : Frame} {name : String} {v : Expr} (h : f.get? name = some v) :
    (name, v) ∈ f := by
  induction f with
  | nil => cases h
  | cons b f ih =>
      rw [get?, List.lookup_cons] at h
      split at h
      · rename_i hname
        obtain rfl := beq_iff_eq.mp hname
        obtain rfl := Option.some.inj h
        exact List.mem_cons_self
      · exact List.mem_cons_of_mem _ (ih h)

/-- All frames are sound. -/
def Environment.Sound (env : Environment) : Prop :=
  ∀ f ∈ env, f.Sound

/-- There is a frame, and all frames are sound. -/
structure Machine.Sound (m : Machine) : Prop where
  frame : m.env ≠ []
  frames : m.env.Sound

lemma Environment.Sound.lookup {env : Environment} (henv : env.Sound) {name : String} {v : Expr}
    (h : env.lookup name = some v) : Eval.isSpecial name = false ∧ Eval.IsValue v := by
  obtain ⟨f, hf, hget⟩ := List.exists_of_findSome?_eq_some h
  exact henv f hf _ (Frame.mem_of_get? hget)

namespace Eval

open Form (IsCode)

/-- The names of the special forms mean nothing. -/
lemma lookup_keyword {env : Environment} (henv : env.Sound) {name : String}
    (hname : isSpecial name = true) : env.lookup name = none := by
  cases h : env.lookup name with
  | none => rfl
  | some v =>
      rw [(henv.lookup h).1] at hname
      cases hname

lemma sound_bindParams {params : List String} {args : List Expr}
    (hparams : ∀ p ∈ params, isSpecial p = false) (hargs : ∀ a ∈ args, IsValue a) :
    (bindParams params args).Sound := by
  have hnil : Frame.Sound [] := by simp [Frame.Sound]
  have hzip : ∀ b ∈ params.zip args, isSpecial b.1 = false ∧ IsValue b.2 := by
    intro b hb
    obtain ⟨hp, ha⟩ := List.of_mem_zip hb
    exact ⟨hparams _ hp, hargs _ ha⟩
  exact hnil.insertAll hzip

/-- One evaluation of code, for a number of frames below the innermost one: the frames are sound. -/
def sound : Coupling Nat where
  lax := False
  rel below m n := m = n ∧ m.env.depth = below + 1 ∧ m.env.Sound
  code _ e := IsCode e
  value := IsValue
  code_part h hp := h.within (within_of_mem_parts hp)
  lookup_eq h _ := by rw [h.1]
  lookup_value h _ hv := (h.2.2.lookup hv).2
  literal h hc hi := by
    obtain ⟨s, rfl⟩ | ⟨n, rfl⟩ := h.literal hc hi
    · exact .string s
    · exact .number n
  number := .number
  boolean := .boolean
  void := .void
  procedure := by
    intro _ name params elements body hcode hs
    obtain ⟨hname, hparams⟩ := List.forall_mem_cons.mp (signatureNames_ok hs)
    exact .procedure hname hparams (hcode.within (.element .self (by simp)))
  bind := by
    rintro below m _ target body v name event ⟨rfl, hdepth, hm⟩ - htarget hv
    obtain ⟨f, fs, henv⟩ := List.exists_cons_of_length_eq_add_one hdepth
    rw [henv] at hdepth hm
    simp only [Eval.bind, henv, Environment.insert?]
    refine .value .void ⟨rfl, ?_⟩
    rw [Machine.record_env, Machine.withEnv_env]
    refine ⟨hdepth, ?_⟩
    obtain ⟨hf, hfs⟩ := List.forall_mem_cons.mp hm
    exact List.forall_mem_cons.mpr ⟨hf.insert (isSpecial_of_boundName? htarget) hv, hfs⟩
  call := by
    rintro below m _ name params body args ⟨rfl, hdepth, hm⟩ hproc hargs -
    cases hproc with
    | procedure hname hparams hbody =>
        refine ⟨below + 1, hbody, ⟨rfl, ?_, ?_⟩, ?_⟩
        · rw [enter_env]
          exact congrArg (· + 1) hdepth
        · rw [enter_env]
          exact List.forall_mem_cons.mpr ⟨sound_bindParams hparams hargs, hm⟩
        · rintro m' _ ⟨rfl, hdepth', hm'⟩
          refine ⟨rfl, ?_, fun f hf => hm' f (List.mem_of_mem_tail hf)⟩
          rw [leave_env, Environment.pop, Environment.depth, List.length_tail]
          exact congrArg (· - 1) hdepth'

variable {d d' : Nat} {e e' : Expr} {m m' : Machine}

lemma sound_rel (hm : m.Sound) : ∃ below, sound.rel below m m := by
  obtain ⟨f, fs, henv⟩ := List.exists_cons_of_ne_nil hm.frame
  exact ⟨fs.length, rfl, by rw [henv]; rfl, hm.frames⟩

lemma of_sound_rel {below : Nat} {n : Machine} (h : sound.rel below m n) : m.Sound := by
  obtain ⟨rfl, hdepth, hm⟩ := h
  refine ⟨fun hnil => ?_, hm⟩
  rw [hnil] at hdepth
  cases hdepth

/-- Evaluating code leaves sound frames and gives back a value, if any. -/
lemma eval_sound (he : IsCode e) (hm : m.Sound) :
    (eval d e m).2.Sound ∧ ∀ v, (eval d e m).1 = .value v → IsValue v := by
  obtain ⟨below, hrel⟩ := sound_rel hm
  have hagree := sound.eval_agree (.inl rfl) (d := d) he hrel
  refine ⟨of_sound_rel hagree.state, fun v hv => ?_⟩
  generalize eval d e m = x at hagree hv
  cases hagree with
  | value hvalue _ =>
      cases hv
      exact hvalue
  | _ => cases hv

/-- At every point of its evaluation code is evaluated, with sound frames. -/
lemma Reaches.sound (h : Reaches d e m d' e' m') (he : IsCode e) (hm : m.Sound) :
    IsCode e' ∧ m'.Sound := by
  obtain ⟨below, hrel⟩ := sound_rel hm
  obtain ⟨below', n', -, he', hrel'⟩ := Eval.sound.reaches h he hrel
  exact ⟨he', of_sound_rel hrel'⟩

/-- Evaluating code never meets a definition without a frame, nor a builtin without its
operation. -/
lemma eval_fault_ne (he : IsCode e) (hm : m.Sound) :
    (eval d e m).1 ≠ .fault .noFrame ∧
      ∀ name, (eval d e m).1 ≠ .fault (.notProcedure (.builtin name none)) := by
  have hraises : ∀ {f}, (eval d e m).1 = .fault f → ∃ d' e' m', IsCode e' ∧ m'.Sound ∧
      Raises (eval d') m' e' f := fun h =>
    have ⟨d', e', m', hreach, hraises⟩ := exists_raises h
    have ⟨he', hm'⟩ := hreach.sound he hm
    ⟨d', e', m', he', hm', hraises⟩
  refine ⟨fun h => ?_, fun name h => ?_⟩
  · obtain ⟨d', e', m', he', hm', hr⟩ := hraises h
    cases hr with
    | noFrame henv hstart =>
        rcases hstart with rfl | ⟨e₁, m₁, v, hs, hv⟩
        · exact hm'.frame henv
        · obtain ⟨he₁, hm₁⟩ := (Reaches.step hs .refl).sound he' hm'
          have hend := (eval_sound (d := d') he₁ hm₁).1
          rw [hv] at hend
          exact hend.frame henv
    | other hframe _ => exact hframe rfl
  · obtain ⟨d', e', m', he', hm', hr⟩ := hraises h
    cases hr with
    | notProcedure hs hv hno =>
        obtain ⟨he₁, hm₁⟩ := (Reaches.step hs .refl).sound he' hm'
        cases (eval_sound (d := d') he₁ hm₁).2 _ (congrArg Prod.fst hv)
    | other _ hproc => exact hproc _ rfl

end Eval

end PocketScheme
