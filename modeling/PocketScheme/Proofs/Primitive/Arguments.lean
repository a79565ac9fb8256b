import PocketScheme.Proofs.Primitive.Arithmetic
import Mathlib

/-!
The arguments that a builtin refuses. Sums, products and differences look at one argument after the
other while they go on calculating; quotients and comparisons look at all of them first. The fault
is the same: it names the first argument that is no number.

* `Primitive.toNumbers_numbers`, `Primitive.compareChain_numbers`, `Primitive.apply_div`: numbers
  are taken as they are;
* `Primitive.toNumbers_refused`, `Primitive.fold_refused`: the first argument that is no number;
* `Primitive.apply_refused`, `Primitive.apply_numbers`: every builtin on arguments of either kind;
* `Primitive.argument_faults`: the faults follow from the kinds of the arguments.
-/

namespace PocketScheme.Primitive

/-! ### Numbers -/

/-- Arguments of the kind of numbers are numbers. -/
lemma exists_numbers {args : List Expr} (h : ∀ e ∈ args, e.kind = .number) :
    ∃ ns : List Number, args = ns.map .number := by
  induction args with
  | nil => exact ⟨[], rfl⟩
  | cons e es ih =>
      obtain ⟨ns, rfl⟩ := ih fun e' he' => h e' (by simp [he'])
      have he := h e (by simp)
      cases e with
      | number n => exact ⟨n :: ns, rfl⟩
      | _ => cases he

lemma toNumbers_numbers (ns : List Number) : toNumbers (ns.map .number) = .ok ns := by
  induction ns with
  | nil => rfl
  | cons n ns ih =>
      rw [List.map_cons, toNumbers, ih]
      rfl

lemma compareChain_numbers (rel : Number → Number → Bool) (ns : List Number) :
    compareChain rel (ns.map .number) = .ok (.boolean (chain rel ns)) := by
  rw [compareChain, toNumbers_numbers]
  rfl

lemma apply_div (n : Number) (ns : List Number) :
    div.apply ((n :: ns).map .number) = quotient n ns := by
  show quotients ((n :: ns).map .number) = quotient n ns
  rw [quotients, toNumbers_numbers]
  rfl

/-! ### The first argument that is no number -/

lemma toNumber_refused {e : Expr} (he : e.kind ≠ .number) :
    toNumber e = .error (.notNumber e.kind) := by
  cases e with
  | number n => exact absurd rfl he
  | _ => rfl

lemma toNumbers_refused (ns : List Number) {e : Expr} (he : e.kind ≠ .number) (rest : List Expr) :
    toNumbers (ns.map .number ++ e :: rest) = .error (.notNumber e.kind) := by
  induction ns with
  | nil =>
      rw [List.map_nil, List.nil_append, toNumbers, toNumber_refused he]
      rfl
  | cons n ns ih =>
      rw [List.map_cons, List.cons_append, toNumbers, ih]
      rfl

/-- What was calculated so far is of no account. -/
lemma fold_refused (op : Number → Number → Number) (acc : Number) (ns : List Number) {e : Expr}
    (he : e.kind ≠ .number) (rest : List Expr) :
    fold op acc (ns.map .number ++ e :: rest) = .error (.notNumber e.kind) := by
  induction ns generalizing acc with
  | nil =>
      rw [List.map_nil, List.nil_append, fold, toNumber_refused he]
      rfl
  | cons n ns ih => exact ih (op acc n)

lemma difference_refused (ns : List Number) {e : Expr} (he : e.kind ≠ .number) (rest : List Expr) :
    difference (ns.map .number ++ e :: rest) = .error (.notNumber e.kind) := by
  cases ns with
  | nil =>
      -- the first argument is looked at apart, whether it stands alone or not
      have hfirst := toNumber_refused he
      cases rest with
      | nil =>
          rw [List.map_nil, List.nil_append, difference, hfirst]
          rfl
      | cons e' rest =>
          rw [List.map_nil, List.nil_append, difference, hfirst]
          · rfl
          · simp
  | cons n ns =>
      have hne : ns.map Expr.number ++ e :: rest ≠ [] := by simp
      rw [List.map_cons, List.cons_append, difference]
      · exact fold_refused Number.sub n ns he rest
      · exact hne

/-- Every builtin names the first argument that is no number. -/
lemma apply_refused (p : Primitive) (ns : List Number) {e : Expr} (he : e.kind ≠ .number)
    (rest : List Expr) : p.apply (ns.map .number ++ e :: rest) = .error (.notNumber e.kind) := by
  cases p with
  | add => exact fold_refused Number.add _ ns he rest
  | mul => exact fold_refused Number.mul _ ns he rest
  | sub => exact difference_refused ns he rest
  | div =>
      show quotients (ns.map .number ++ e :: rest) = .error (.notNumber e.kind)
      rw [quotients, if_neg (by simp), toNumbers_refused ns he rest]
      rfl
  | gt | lt | eq =>
      rw [apply, compareChain, toNumbers_refused ns he rest]
      rfl

/-! ### All arguments -/

/-- On numbers only a division fails. -/
lemma apply_numbers (p : Primitive) (ns : List Number) (h : ¬ (ns = [] ∧ (p = sub ∨ p = div))) :
    (∃ v, p.apply (ns.map .number) = .ok v) ∨
      p = div ∧ p.apply (ns.map .number) = .error .divisionByZero := by
  cases p with
  | add => exact .inl ⟨_, apply_add ns⟩
  | mul => exact .inl ⟨_, apply_mul ns⟩
  | sub =>
      cases ns with
      | nil => exact absurd ⟨rfl, .inl rfl⟩ h
      | cons n ns => exact .inl ⟨_, apply_sub n ns⟩
  | div =>
      cases ns with
      | nil => exact absurd ⟨rfl, .inr rfl⟩ h
      | cons n ns =>
          rw [apply_div]
          cases hq : quotient n ns with
          | ok v => exact .inl ⟨v, rfl⟩
          | error f => exact .inr ⟨rfl, by rw [quotient_error hq]⟩
  | gt => exact .inl ⟨_, compareChain_numbers Number.gt ns⟩
  | lt => exact .inl ⟨_, compareChain_numbers Number.lt ns⟩
  | eq => exact .inl ⟨_, compareChain_numbers Number.eq ns⟩

/-- The fault that follows from the kinds of the arguments: a difference or a quotient of nothing,
or the first kind that is not that of numbers. -/
def Refuses (p : Primitive) (kinds : List Expr.Kind) (f : Fault) : Prop :=
  kinds = [] ∧ (p = sub ∨ p = div) ∧ f = .noArguments p.name ∨
    ∃ k, kinds.find? (· != .number) = some k ∧ f = .notNumber k

lemma apply_of_refuses {p : Primitive} {args : List Expr} {f : Fault}
    (h : Refuses p (args.map Expr.kind) f) : p.apply args = .error f := by
  rcases h with ⟨hnil, hp, rfl⟩ | ⟨k, hk, rfl⟩
  · obtain rfl := List.map_eq_nil_iff.mp hnil
    rcases hp with rfl | rfl <;> rfl
  · rw [List.find?_map, Option.map_eq_some_iff] at hk
    obtain ⟨e, he, rfl⟩ := hk
    obtain ⟨hkind, front, rest, rfl, hfront⟩ := List.find?_eq_some_iff_append.mp he
    have hnumbers : ∀ e ∈ front, e.kind = .number := by simpa using hfront
    obtain ⟨ns, rfl⟩ := exists_numbers hnumbers
    exact apply_refused p ns (by simpa using hkind) rest

/-- Apart from the division by zero, a builtin fails exactly where its arguments are refused. -/
lemma apply_eq_error_iff {p : Primitive} {args : List Expr} {f : Fault} (hf : f ≠ .divisionByZero) :
    p.apply args = .error f ↔ Refuses p (args.map Expr.kind) f := by
  refine ⟨fun h => ?_, apply_of_refuses⟩
  cases hfind : (args.map Expr.kind).find? (· != .number) with
  | some k =>
      have hk : Refuses p (args.map Expr.kind) (.notNumber k) := .inr ⟨k, hfind, rfl⟩
      obtain rfl : Fault.notNumber k = f := Except.error.inj ((apply_of_refuses hk).symm.trans h)
      exact hk
  | none =>
      have hnumbers : ∀ e ∈ args, e.kind = .number := by simpa using hfind
      obtain ⟨ns, rfl⟩ := exists_numbers hnumbers
      by_cases hnil : ns = [] ∧ (p = sub ∨ p = div)
      · have hempty : Refuses p ((ns.map Expr.number).map Expr.kind) (.noArguments p.name) :=
          .inl ⟨by rw [hnil.1]; rfl, hnil.2, rfl⟩
        obtain rfl : Fault.noArguments p.name = f :=
          Except.error.inj ((apply_of_refuses hempty).symm.trans h)
        exact hempty
      · rcases apply_numbers p ns hnil with ⟨v, hv⟩ | ⟨-, hzero⟩
        · cases hv.symm.trans h
        · exact absurd (Except.error.inj (h.symm.trans hzero)) hf

/-- **Arguments are refused for their kinds**. A difference or a quotient of no arguments fails for
their number. Otherwise a builtin fails at the first argument that is no number and names its kind,
whatever the numbers around it are. Otherwise it has a value, unless it divides by zero. So for the
faults other than the last one the numbers do not matter. -/
theorem argument_faults (p : Primitive) (args : List Expr) :
    (args = [] ∧ (p = sub ∨ p = div) →
      ∃ f, p.apply args = .error f ∧ f.kind? = some .wrongArgumentCount) ∧
    (∀ e, args.find? (·.kind != .number) = some e →
      ∃ f, p.apply args = .error f ∧ f.kind? = some .typeMismatch ∧
        f.message = "expecting number, got " ++ e.kind.name) ∧
    (¬ (args = [] ∧ (p = sub ∨ p = div)) → (∀ e ∈ args, e.kind = .number) →
      (∃ v, p.apply args = .ok v) ∨ p = div ∧ p.apply args = .error .divisionByZero) ∧
    (∀ args', args'.map Expr.kind = args.map Expr.kind → ∀ f, f ≠ .divisionByZero →
      (p.apply args' = .error f ↔ p.apply args = .error f)) := by
  refine ⟨?_, fun e he => ?_, fun hnil hkind => ?_, fun args' hkinds f hf => ?_⟩
  · rintro ⟨rfl, hp⟩
    exact ⟨.noArguments p.name, apply_of_refuses (.inl ⟨rfl, hp, rfl⟩), rfl⟩
  · refine ⟨.notNumber e.kind, apply_of_refuses (.inr ⟨e.kind, ?_, rfl⟩), rfl, rfl⟩
    rw [List.find?_map, Option.map_eq_some_iff]
    exact ⟨e, he, rfl⟩
  · obtain ⟨ns, rfl⟩ := exists_numbers hkind
    exact apply_numbers p ns (by simpa using hnil)
  · rw [apply_eq_error_iff hf, apply_eq_error_iff hf, hkinds]

/-- A division by zero and a comparison that is already false do not hide the string after them. -/
theorem argument_faults_after_zero :
    (∃ f, sub.apply [] = .error f ∧ f.kind? = some .wrongArgumentCount) ∧
    (∃ f, div.apply [integer 1, integer 0, .string "0", .void] = .error f ∧
      f.kind? = some .typeMismatch ∧ f.message = "expecting number, got string") ∧
    (∃ f, lt.apply [integer 2, integer 1, .string "0"] = .error f ∧
      f.kind? = some .typeMismatch ∧ f.message = "expecting number, got string") ∧
    (∃ v, lt.apply [integer 2, integer 1] = .ok v) ∧
    ∀ f, f ≠ .divisionByZero →
      (div.apply [integer 1, integer 0, .void] = .error f ↔
        div.apply [.number (.float 0.5), integer 2, .void] = .error f) := by
  refine ⟨(argument_faults sub []).1 ⟨rfl, .inl rfl⟩, (argument_faults div _).2.1 (.string "0") rfl,
    (argument_faults lt _).2.1 (.string "0") rfl, ?_, (argument_faults div _).2.2.2 _ rfl⟩
  rcases (argument_faults lt [integer 2, integer 1]).2.2.1 (by simp)
    (by simp [integer, Expr.kind]) with
    hv | ⟨hp, -⟩
  · exact hv
  · cases hp

end PocketScheme.Primitive
