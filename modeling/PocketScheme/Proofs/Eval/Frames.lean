import PocketScheme.Proofs.Eval.Finishes
import Mathlib.Data.Set.Basic

/-!
What evaluation does to the frames: it binds names in the innermost one, and only those that the
expression itself defines. A call works in a frame of its own and gives back the frames it met.

* `Environment.Grown`: the innermost frame after some bindings, all others as they were;
* `Defines`: a name that an expression defines outside the bodies of procedures;
* `eval_grown`: evaluation binds names that the expression defines, and does nothing else;
* `applyProcedure_env`: a call leaves the environment as it was;
* `eval_defineFree`: without a definition an expression leaves the environment as it was, and
  evaluates to the same again.
-/

namespace PocketScheme

/-! ### Frames that grow -/

namespace Frame

/-- The frame after several bindings, the first one first. -/
def insertAll (f : Frame) (bs : List (String × Expr)) : Frame :=
  bs.foldl (fun f b => f.insert b.1 b.2) f

@[simp] lemma insertAll_nil (f : Frame) : f.insertAll [] = f := rfl

lemma get?_insert (f : Frame) (name other : String) (v : Expr) :
    (f.insert name v).get? other = if other = name then some v else f.get? other := by
  by_cases h : other = name
  · subst h
    simp
  · rw [get?_insert_of_ne f v h, if_neg h]

/-- Bindings remove no name. -/
lemma isSome_get?_insertAll {f : Frame} {name : String} (h : (f.get? name).isSome)
    (bs : List (String × Expr)) : ((f.insertAll bs).get? name).isSome := by
  induction bs generalizing f with
  | nil => exact h
  | cons b bs ih =>
      refine ih (f := f.insert b.1 b.2) ?_
      rw [get?_insert]
      split
      · rfl
      · exact h

/-- Bindings of other names do not matter to a name. -/
lemma get?_insertAll_of_ne {f : Frame} {name : String} {bs : List (String × Expr)}
    (h : ∀ b ∈ bs, b.1 ≠ name) : (f.insertAll bs).get? name = f.get? name := by
  induction bs generalizing f with
  | nil => rfl
  | cons b bs ih =>
      have hb : name ≠ b.1 := (h b (by simp)).symm
      calc (f.insertAll (b :: bs)).get? name
          = (f.insert b.1 b.2).get? name := ih (fun b hb => h b (by simp [hb]))
        _ = f.get? name := get?_insert_of_ne f b.2 hb

end Frame

namespace Environment

/-- The binding of a name in the innermost frame. -/
def top? (env : Environment) (name : String) : Option Expr :=
  env.head?.bind (·.get? name)

@[simp] lemma top?_cons (f : Frame) (fs : Environment) (name : String) :
    top? (f :: fs) name = f.get? name := rfl

/-- The second environment is the first one after bindings of names in `names` in its innermost
frame. -/
def Grown (names : Set String) (env env' : Environment) : Prop :=
  ∃ f fs bs, env = f :: fs ∧ env' = f.insertAll bs :: fs ∧ ∀ b ∈ bs, b.1 ∈ names

namespace Grown

variable {names : Set String} {env env' : Environment}

lemma refl (h : env ≠ []) : Grown names env env := by
  obtain ⟨f, fs, rfl⟩ := List.exists_cons_of_ne_nil h
  exact ⟨f, fs, [], rfl, rfl, by simp⟩

lemma trans {env'' : Environment} (h : Grown names env env') (h' : Grown names env' env'') :
    Grown names env env'' := by
  obtain ⟨f, fs, bs, rfl, rfl, hbs⟩ := h
  obtain ⟨_, _, cs, heq, rfl, hcs⟩ := h'
  obtain ⟨rfl, rfl⟩ := List.cons.inj heq
  refine ⟨f, fs, bs ++ cs, rfl, by simp [Frame.insertAll], fun b hb => ?_⟩
  exact (List.mem_append.mp hb).elim (hbs b) (hcs b)

lemma mono {names' : Set String} (h : Grown names env env') (hsub : names ⊆ names') :
    Grown names' env env' := by
  obtain ⟨f, fs, bs, rfl, rfl, hbs⟩ := h
  exact ⟨f, fs, bs, rfl, rfl, fun b hb => hsub (hbs b hb)⟩

/-- A binding of one of the names grows the environment further. -/
lemma insert {f : Frame} {fs : Environment} {name : String} (v : Expr)
    (h : Grown names env (f :: fs)) (hname : name ∈ names) :
    Grown names env (f.insert name v :: fs) :=
  h.trans ⟨f, fs, [(name, v)], rfl, rfl, by simpa using hname⟩

lemma ne_nil (h : Grown names env env') : env' ≠ [] := by
  obtain ⟨f, fs, bs, rfl, rfl, hbs⟩ := h
  simp

lemma depth_eq (h : Grown names env env') : env'.depth = env.depth := by
  obtain ⟨f, fs, bs, rfl, rfl, hbs⟩ := h
  rfl

/-- The frames below the innermost one are as they were. -/
lemma pop_eq (h : Grown names env env') : env'.pop = env.pop := by
  obtain ⟨f, fs, bs, rfl, rfl, hbs⟩ := h
  rfl

lemma isSome_top? (h : Grown names env env') {name : String} (hn : (env.top? name).isSome) :
    (env'.top? name).isSome := by
  obtain ⟨f, fs, bs, rfl, rfl, hbs⟩ := h
  exact Frame.isSome_get?_insertAll hn bs

lemma top?_eq (h : Grown names env env') {name : String} (hn : name ∉ names) :
    env'.top? name = env.top? name := by
  obtain ⟨f, fs, bs, rfl, rfl, hbs⟩ := h
  exact Frame.get?_insertAll_of_ne fun b hb heq => hn (heq ▸ hbs b hb)

/-- Nothing changes where no name may be bound. -/
lemma eq_of_empty (h : Grown ∅ env env') : env' = env := by
  obtain ⟨f, fs, bs, rfl, rfl, hbs⟩ := h
  rw [List.eq_nil_iff_forall_not_mem.mpr hbs, Frame.insertAll_nil]

end Grown

end Environment

namespace Eval

/-! ### What an expression defines -/

/-- Evaluating the expression in a frame may bind the name in that frame. Definitions in the bodies
of procedures do not count. -/
inductive Defines (name : String) : Expr → Prop where
  | here {target body : Expr} (h : boundName? target = some name) :
      Defines name (.combination [.identifier "define", target, body])
  | part {e p : Expr} (hp : p ∈ parts e) (h : Defines name p) : Defines name e

/-- One evaluation, for a set of names and an environment at the start: the expressions define those
names only, and the environment grows by them. The body of a procedure may define any name. -/
def growing : Coupling (Set String × Environment) where
  lax := False
  rel i m n := m = n ∧ i.2.Grown i.1 m.env
  code i e := ∀ name, Defines name e → name ∈ i.1
  value _ := True
  code_part h hp name hd := h name (.part hp hd)
  lookup_eq h _ := by rw [h.1]
  lookup_value _ _ _ := trivial
  literal _ _ _ := trivial
  number _ := trivial
  boolean _ := trivial
  void := trivial
  procedure _ _ := trivial
  bind := by
    rintro i m _ target body v name event ⟨rfl, hm⟩ hcode htarget _
    obtain ⟨f, fs, henv⟩ := List.exists_cons_of_ne_nil hm.ne_nil
    simp only [Eval.bind, henv, Environment.insert?]
    refine .value trivial ⟨rfl, ?_⟩
    rw [henv] at hm
    simpa using hm.insert v (hcode name (.here htarget))
  call := by
    rintro i m _ name params body args ⟨rfl, hm⟩ _ _ _
    -- the frame of the parameters may grow by anything, and goes as a whole
    refine ⟨(Set.univ, (enter name params args m).env), fun _ _ => trivial, ⟨rfl, .refl ?_⟩, ?_⟩
    · simp
    · rintro m' _ ⟨rfl, hm'⟩
      refine ⟨rfl, ?_⟩
      rw [leave_env, hm'.pop_eq, enter_env]
      exact hm

/-- Evaluation binds names that the expression defines in the innermost frame, and changes nothing
else, whatever it comes to. -/
lemma eval_grown (depth : Nat) (e : Expr) {m : Machine} (hm : m.env ≠ []) :
    m.env.Grown {name | Defines name e} (eval depth e m).2.env := by
  have h := growing.eval_agree (.inl rfl) (d := depth) (i := ({name | Defines name e}, m.env))
    (e := e) (m := m) (n := m) (fun _ hd => hd) ⟨rfl, .refl hm⟩
  exact h.state.2

/-- A call leaves the environment as it was. -/
lemma applyProcedure_env (depth : Nat) (name : String) (params : List String) (body : Expr)
    (args : List Expr) (m : Machine) :
    (applyProcedure (eval depth) name params body args m).2.env = m.env := by
  rw [applyProcedure_eq]
  split
  · have h := eval_grown depth body (m := enter name params args m) (by simp)
    rw [leave_env, h.pop_eq, enter_env]
    rfl
  · rfl

/-! ### Expressions without definitions -/

/-- The list starts with the name of the special form `define`. -/
def isDefinition : List Expr → Bool
  | .identifier name :: _ => name == "define"
  | _ => false

mutual

/-- No combination in the expression is headed by `define`. The bodies of procedures may hold such
combinations. -/
def defineFree : Expr → Bool
  | .combination elements => !isDefinition elements && defineFreeList elements
  | _ => true

/-- No combination in one of the expressions is headed by `define`. -/
def defineFreeList : List Expr → Bool
  | [] => true
  | e :: es => defineFree e && defineFreeList es

end

lemma defineFreeList_iff (es : List Expr) :
    defineFreeList es = true ↔ ∀ e ∈ es, defineFree e = true := by
  induction es with
  | nil => simp [defineFreeList]
  | cons e es ih => simp [defineFreeList, ih]

lemma defineFree_combination {elements : List Expr}
    (h : defineFree (.combination elements) = true) :
    isDefinition elements = false ∧ ∀ e ∈ elements, defineFree e = true := by
  rw [defineFree] at h
  simpa [defineFreeList_iff] using h

/-- What an expression without definitions evaluates has none. -/
lemma defineFree_part {e p : Expr} (h : defineFree e = true) (hp : p ∈ parts e) :
    defineFree p = true := by
  cases e with
  | combination elements =>
      obtain ⟨hhead, helements⟩ := defineFree_combination h
      cases elements with
      | nil => simp [parts] at hp
      | cons operator operands =>
          cases operator with
          | identifier name =>
              have hd : name ≠ "define" := by simpa [isDefinition] using hhead
              by_cases hc : name = "cond"
              · subst hc
                simp only [parts, beq_iff_eq, hd, if_false, if_true] at hp
                obtain ⟨clause, hclause, hp⟩ := List.mem_flatMap.mp hp
                split at hp
                · exact (defineFree_combination (helements _ (by simp [hclause]))).2 p hp
                · simp at hp
              · simp only [parts, beq_iff_eq, hd, hc, if_false] at hp
                exact helements p hp
          | _ => exact helements p hp
  | _ => simp [parts] at hp

lemma not_defines_of_defineFree {e : Expr} (h : defineFree e = true) (name : String) :
    ¬ Defines name e := by
  intro hd
  induction hd with
  | here _ => simp [defineFree, isDefinition] at h
  | part hp _ ih => exact ih (defineFree_part h hp)

/-- An expression without definitions leaves the environment as it was. -/
lemma eval_env_of_defineFree (depth : Nat) {e : Expr} (he : defineFree e = true) {m : Machine}
    (hm : m.env ≠ []) : (eval depth e m).2.env = m.env := by
  have hempty : {name | Defines name e} = ∅ :=
    Set.eq_empty_of_forall_notMem (not_defines_of_defineFree he)
  have h := eval_grown depth e hm
  rw [hempty] at h
  exact h.eq_of_empty

/-- **Calls cannot change the caller's bindings**: an expression without definitions leaves every
frame as it was, whatever the procedures that it calls define, and evaluating it again comes to the
same value or fault. -/
theorem eval_defineFree {e : Expr} (he : defineFree e = true) {m m' : Machine} (hm : m.env ≠ [])
    {r : Except Fault Expr} (h : Finishes e m r m') :
    m'.env = m.env ∧ ∀ r', (∃ m'', Finishes e m' r' m'') ↔ r' = r := by
  obtain ⟨depth, hdepth⟩ := h
  have henv : m'.env = m.env := by
    have h := eval_env_of_defineFree depth he hm
    rwa [hdepth] at h
  refine ⟨henv, fun r' => ⟨?_, ?_⟩⟩
  · rintro ⟨m'', h'⟩
    -- the second evaluation is one on the first environment, where there is only one result
    obtain ⟨n, hn, -⟩ := h'.of_env_eq henv
    exact (hn.unique ⟨depth, hdepth⟩).1
  · rintro rfl
    obtain ⟨n, hn, -⟩ := Finishes.of_env_eq ⟨depth, hdepth⟩ henv.symm
    exact ⟨n, hn⟩

/-- Two frames. The procedure `f` of the outer one has one parameter twice, binds `y` in its own
frame and calls `g`, which sees that binding. -/
def nestedCaller : Machine where
  env :=
    [[("x", .boolean true)],
      [("f", .procedure "f" ["x", "x"] (.combination [.identifier "cond",
          .combination [.combination [.identifier "define", .identifier "y", .identifier "x"],
            .combination [.identifier "g"]]])),
        ("g", .procedure "g" [] (.identifier "y"))]]
  tracing := false
  events := []

/-- The call `(f "a" "b")`. -/
def nestedCall : Expr :=
  .combination [.identifier "f", .string "a", .string "b"]

lemma nestedCall_finishes : Finishes nestedCall nestedCaller (.ok (.string "b")) nestedCaller :=
  ⟨6, rfl⟩

theorem eval_defineFree_nestedCall :
    defineFree nestedCall = true ∧ nestedCaller.env ≠ [] ∧
      Finishes nestedCall nestedCaller (.ok (.string "b")) nestedCaller ∧
      ∀ r, (∃ m, Finishes nestedCall nestedCaller r m) ↔ r = .ok (.string "b") :=
  ⟨by decide, by simp [nestedCaller], nestedCall_finishes,
    (eval_defineFree (by decide) (by simp [nestedCaller]) nestedCall_finishes).2⟩

end Eval

end PocketScheme
