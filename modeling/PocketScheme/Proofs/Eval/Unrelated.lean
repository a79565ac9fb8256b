import PocketScheme.Proofs.Eval.Values
import Mathlib.Data.List.Forall2

/-!
Bindings that do not matter. Scope is dynamic, so any procedure may see any name of its callers; but
it can only ask for names that stand in its code. What a name is bound to makes no difference to an
expression that does not mention it, as long as no value that the expression could get at does.

* `Expr.mentions`: a name stands in an expression, bodies of procedures included;
* `Environment.AgreesOff`: environments that differ in the bindings of one name only;
* `Environment.Without`: a name that no value mentions, except those that are its own;
* `eval_agreesOff`: evaluations on such environments are in step;
* `unrelated_bindings`: they finish alike, or not at all.
-/

namespace PocketScheme

/-! ### Names in expressions -/

namespace Expr

mutual

/-- The name stands in the expression: as an identifier, or as the name or a parameter of a
procedure. The bodies of procedures count. -/
def mentions (x : String) : Expr → Bool
  | combination elements => mentionsList x elements
  | identifier name => name == x
  | procedure name params body => name == x || params.contains x || mentions x body
  | _ => false

/-- The name stands in one of the expressions. -/
def mentionsList (x : String) : List Expr → Bool
  | [] => false
  | e :: es => mentions x e || mentionsList x es

end

variable {x : String}

lemma mentionsList_eq_false_iff {es : List Expr} :
    mentionsList x es = false ↔ ∀ e ∈ es, e.mentions x = false := by
  induction es with
  | nil => simp [mentionsList]
  | cons e es ih => simp [mentionsList, ih]

/-- A name that does not stand in an expression does not stand in its parts. -/
lemma Within.mentions_eq_false {d e : Expr} (h : d.Within e) (he : e.mentions x = false) :
    d.mentions x = false := by
  induction h with
  | self => exact he
  | element _ hd ih => exact ih (mentionsList_eq_false_iff.mp he _ hd)

end Expr

namespace Eval

variable {x : String}

/-- The names of a signature stand in it. -/
lemma mem_of_signatureNames {es : List Expr} {names : List String}
    (h : signatureNames es = .ok names) :
    ∀ name ∈ names, .identifier name ∈ es := by
  fun_induction signatureNames es generalizing names with
  | case1 =>
      cases h
      simp
  | case2 => cases h
  | case3 name es hname ih =>
      obtain ⟨rest, hrest, rfl⟩ := exists_of_map_eq_ok h
      refine List.forall_mem_cons.mpr ⟨List.mem_cons_self, fun other hother => ?_⟩
      exact List.mem_cons_of_mem _ (ih hrest other hother)
  | case4 => cases h

lemma ne_of_signatureNames {es : List Expr} {names : List String}
    (h : signatureNames es = .ok names)
    (hes : (Expr.combination es).mentions x = false) : ∀ name ∈ names, name ≠ x := by
  intro name hname
  have hmem := mem_of_signatureNames h name hname
  simpa [Expr.mentions] using Expr.mentionsList_eq_false_iff.mp hes _ hmem

/-- A definition binds a name that stands in its target. -/
lemma ne_of_boundName? {target : Expr} {name : String} (h : boundName? target = some name)
    (htarget : target.mentions x = false) : name ≠ x := by
  cases target with
  | identifier other =>
      rw [boundName?] at h
      split at h
      · cases h
      · obtain rfl := Option.some.inj h
        simpa [Expr.mentions] using htarget
  | combination elements =>
      rw [boundName?] at h
      split at h
      · rename_i other params hs
        obtain rfl := Option.some.inj h
        exact ne_of_signatureNames hs htarget other List.mem_cons_self
      · cases h
  | _ => cases h

end Eval

/-! ### Environments -/

namespace Frame

variable {x : String} {f : Frame}

/-- The frames bind all names alike, except perhaps `x`. -/
def AgreesOff (x : String) (f g : Frame) : Prop :=
  ∀ name, name ≠ x → f.get? name = g.get? name

/-- No value that the frame binds to another name mentions `x`. -/
def Without (x : String) (f : Frame) : Prop :=
  ∀ name v, name ≠ x → f.get? name = some v → v.mentions x = false

lemma AgreesOff.insert {g : Frame} (h : AgreesOff x f g) (name : String) (v : Expr) :
    AgreesOff x (f.insert name v) (g.insert name v) := by
  intro other hother
  rw [get?_insert, get?_insert, h other hother]

/-- A binding of the name itself does not matter. -/
lemma agreesOff_insert_self (f : Frame) (v : Expr) : AgreesOff x (f.insert x v) f :=
  fun _ hname => get?_insert_of_ne f v hname

lemma Without.insert {name : String} {v : Expr} (hf : f.Without x) (hv : v.mentions x = false) :
    (f.insert name v).Without x := by
  intro other u hother hget
  rw [get?_insert] at hget
  split at hget
  · obtain rfl := Option.some.inj hget
    exact hv
  · exact hf other u hother hget

lemma Without.insertAll {bs : List (String × Expr)} (hf : f.Without x)
    (hbs : ∀ b ∈ bs, b.2.mentions x = false) : (f.insertAll bs).Without x := by
  induction bs generalizing f with
  | nil => exact hf
  | cons b bs ih =>
      obtain ⟨hb, hbs⟩ := List.forall_mem_cons.mp hbs
      exact ih (hf.insert hb) hbs

lemma without_of_forall_mem (h : ∀ b ∈ f, b.1 = x ∨ b.2.mentions x = false) : f.Without x :=
  fun _ _ hname hget => (h _ (mem_of_get? hget)).resolve_left hname

end Frame

namespace Environment

variable {x : String} {env env' : Environment}

/-- As many frames on both sides, which bind all names alike, except perhaps `x`. -/
def AgreesOff (x : String) (env env' : Environment) : Prop :=
  List.Forall₂ (Frame.AgreesOff x) env env'

/-- No value that is bound to another name mentions `x`. -/
def Without (x : String) (env : Environment) : Prop :=
  ∀ f ∈ env, f.Without x

lemma AgreesOff.lookup_eq (h : env.AgreesOff x env') {name : String} (hname : name ≠ x) :
    env.lookup name = env'.lookup name := by
  induction h with
  | nil => rfl
  | cons hf _ ih =>
      rw [lookup, lookup, List.findSome?_cons, List.findSome?_cons, hf name hname]
      split
      · rfl
      · exact ih

lemma AgreesOff.pop (h : env.AgreesOff x env') : env.pop.AgreesOff x env'.pop := by
  cases h with
  | nil => exact .nil
  | cons _ h => exact h

lemma Without.lookup {name : String} {v : Expr} (henv : env.Without x) (hname : name ≠ x)
    (h : env.lookup name = some v) : v.mentions x = false := by
  obtain ⟨f, hf, hget⟩ := List.exists_of_findSome?_eq_some h
  exact henv f hf name v hname hget

end Environment

namespace Eval

/-! ### Two runs -/

lemma without_bindParams {x : String} {params : List String} {args : List Expr}
    (hargs : ∀ a ∈ args, a.mentions x = false) : (bindParams params args).Without x := by
  have hnil : Frame.Without x [] := by simp [Frame.Without]
  exact hnil.insertAll fun b hb => hargs _ (List.of_mem_zip hb).2

/-- Evaluations of expressions that do not mention `x`, on environments that differ in its bindings
only. Whatever they look up, call or bind does not mention it either. -/
def unaware (x : String) : Coupling Unit where
  lax := False
  rel _ m n := m.env.AgreesOff x n.env ∧ m.env.Without x
  code _ e := e.mentions x = false
  value v := v.mentions x = false
  code_part h hp := (within_of_mem_parts hp).mentions_eq_false h
  lookup_eq h hc := h.1.lookup_eq (by simpa [Expr.mentions] using hc)
  lookup_value h hc hv := h.2.lookup (by simpa [Expr.mentions] using hc) hv
  literal h _ _ := h
  number _ := rfl
  boolean _ := rfl
  void := rfl
  procedure := by
    intro _ name params elements body hcode hs
    have hpart : ∀ d ∈ [.identifier "define", .combination elements, body], d.mentions x = false :=
      Expr.mentionsList_eq_false_iff.mp hcode
    obtain ⟨hname, hparams⟩ :=
      List.forall_mem_cons.mp (ne_of_signatureNames hs (hpart (.combination elements) (by simp)))
    have hx : x ∉ params := fun hmem => hparams x hmem rfl
    simp [Expr.mentions, hname, hx, hpart body (by simp)]
  bind := by
    rintro _ m n target body v name event ⟨hagree, hfree⟩ hcode htarget hv
    have hname : name ≠ x :=
      ne_of_boundName? htarget (Expr.mentionsList_eq_false_iff.mp hcode target (by simp))
    unfold Eval.bind
    generalize hm : m.env = env at hagree hfree
    generalize hn : n.env = env' at hagree
    cases hagree with
    | nil => exact .fault ⟨by rw [hm, hn]; exact .nil, by rw [hm]; exact hfree⟩
    | cons hf hfs =>
        obtain ⟨hfree, hrest⟩ := List.forall_mem_cons.mp hfree
        refine .value rfl ?_
        simp only [Machine.record_env, Machine.withEnv_env]
        exact ⟨.cons (hf.insert name v) hfs, List.forall_mem_cons.mpr ⟨hfree.insert hv, hrest⟩⟩
  call := by
    rintro _ m n name params body args ⟨hagree, hfree⟩ hproc hargs _
    have hbody : body.mentions x = false := by
      simp only [Expr.mentions, Bool.or_eq_false_iff] at hproc
      exact hproc.2
    refine ⟨(), hbody, ?_, fun m' n' h => ?_⟩
    · rw [enter_env, enter_env]
      exact ⟨.cons (fun _ _ => rfl) hagree,
        List.forall_mem_cons.mpr ⟨without_bindParams hargs, hfree⟩⟩
    · rw [leave_env, leave_env]
      exact ⟨h.1.pop, fun f hf => h.2 f (List.mem_of_mem_tail hf)⟩

variable {x : String} {e : Expr} {m n : Machine}

/-- With the same bound on the depth both evaluations come to the same. -/
lemma eval_agreesOff (d : Nat) (hagree : m.env.AgreesOff x n.env) (hfree : m.env.Without x)
    (he : e.mentions x = false) :
    (eval d e m).1 = (eval d e n).1 ∧ (eval d e m).2.env.AgreesOff x (eval d e n).2.env ∧
      (eval d e m).2.env.Without x ∧ ∀ v, (eval d e m).1 = .value v → v.mentions x = false := by
  have h := (unaware x).eval_agree (.inl rfl) (d := d) (i := ()) (m := m) (n := n) he
    ⟨hagree, hfree⟩
  refine ⟨h.outcome_eq, h.state.1, h.state.2, fun v hv => ?_⟩
  generalize eval d e m = a at h hv
  generalize eval d e n = b at h
  cases h with
  | value hvalue _ =>
      cases hv
      exact hvalue
  | _ => cases hv

/-- **Unrelated bindings do not interfere**. Two environments with as many frames bind all names
alike, frame by frame, except perhaps `x`; and `x` stands neither in the expression nor in a value
that is bound to another name. Then the expression finishes on both or on neither, with the same
value or fault, and leaves environments that again bind all names alike except perhaps `x`. That `x`
stands nowhere is kept too, so that this goes on from expression to expression. -/
theorem unrelated_bindings (hagree : m.env.AgreesOff x n.env) (hfree : m.env.Without x)
    (he : e.mentions x = false) :
    ((∃ r m', Finishes e m r m') ↔ ∃ r n', Finishes e n r n') ∧
    ∀ r r' m' n', Finishes e m r m' → Finishes e n r' n' →
      r = r' ∧ m'.env.AgreesOff x n'.env ∧ m'.env.Without x ∧
        ∀ v, r = .ok v → v.mentions x = false := by
  have hsame := fun d => eval_agreesOff d hagree hfree he
  refine ⟨⟨?_, ?_⟩, ?_⟩
  · rintro ⟨r, m', d, hd⟩
    refine ⟨r, (eval d e n).2, d, Prod.ext ?_ rfl⟩
    rw [← (hsame d).1, hd]
  · rintro ⟨r, n', d, hd⟩
    refine ⟨r, (eval d e m).2, d, Prod.ext ?_ rfl⟩
    rw [(hsame d).1, hd]
  · rintro r r' m' n' ⟨d, hd⟩ hn
    obtain ⟨hout, henv, hfree', hvalue⟩ := hsame d
    rw [hd] at hout henv hfree' hvalue
    -- the other evaluation finishes with this bound too, and in one way only
    have hn' : Finishes e n r (eval d e n).2 := ⟨d, Prod.ext hout.symm rfl⟩
    obtain ⟨rfl, rfl⟩ := hn'.unique hn
    refine ⟨rfl, henv, hfree', ?_⟩
    rintro v rfl
    exact hvalue v rfl

/-- The frames of `nestedCaller`, both of which also bind `z`. -/
def nestedCallerBinding (v : Expr) : Machine :=
  nestedCaller.withEnv (nestedCaller.env.map fun f => f.insert "z" v)

lemma agreesOff_nestedCallerBinding (v : Expr) :
    (nestedCallerBinding v).env.AgreesOff "z" nestedCaller.env := by
  rw [Environment.AgreesOff, nestedCallerBinding, Machine.withEnv_env, List.forall₂_map_left_iff,
    List.forall₂_same]
  exact fun f _ => f.agreesOff_insert_self v

lemma without_nestedCallerBinding (v : Expr) : (nestedCallerBinding v).env.Without "z" := by
  refine fun f hf => Frame.without_of_forall_mem ?_
  simp only [nestedCallerBinding, Machine.withEnv_env, nestedCaller, List.map_cons, List.map_nil,
    List.mem_cons, List.not_mem_nil, or_false] at hf
  rcases hf with rfl | rfl
  · simp [Frame.insert, Expr.mentions]
  · simp [Frame.insert, Expr.mentions, Expr.mentionsList]

/-- The call `(f "a" "b")` gives back `"b"` whatever `z` is bound to, even if that mentions `z`. -/
theorem unrelated_bindings_nestedCall :
    (nestedCallerBinding (.identifier "z")).env.AgreesOff "z" nestedCaller.env ∧
    (nestedCallerBinding (.identifier "z")).env.Without "z" ∧ nestedCall.mentions "z" = false ∧
    ∃ m', Finishes nestedCall (nestedCallerBinding (.identifier "z")) (.ok (.string "b")) m' ∧
      m'.env.AgreesOff "z" nestedCaller.env := by
  have hagree := agreesOff_nestedCallerBinding (.identifier "z")
  have hfree := without_nestedCallerBinding (.identifier "z")
  obtain ⟨hfinish, hsame⟩ := unrelated_bindings (e := nestedCall) hagree hfree (by decide)
  obtain ⟨r, m', hm'⟩ := hfinish.mpr ⟨_, _, nestedCall_finishes⟩
  obtain ⟨rfl, henv, -⟩ := hsame _ _ _ _ hm' nestedCall_finishes
  exact ⟨hagree, hfree, by decide, m', hm', henv⟩

end Eval

end PocketScheme
