import PocketScheme.Proofs.Session

/-!
Two ways through a text. One reads a form, evaluates it and only then reads on; the other reads
everything first and evaluates the forms afterwards. They come to the same values, the same machine
and the same fault.

* `Session.Yields`: forms that all have a value, one after the other;
* `Session.FailsAt`: forms of which one fails, after the values of those before it;
* `Session.runTexts`: texts, one after the other until something fails;
* `Session.pipelines_agree`: the main statement.
-/

namespace PocketScheme.Session

/-- The forms, one after the other, come to these values and this machine. -/
inductive Yields : List Expr → Machine → List Expr → Machine → Prop
  | nil (m : Machine) : Yields [] m [] m
  | cons {e v : Expr} {es vs : List Expr} {m m₁ m₂ : Machine} :
      evalForm e m = (.ok v, m₁) → Yields es m₁ vs m₂ → Yields (e :: es) m (v :: vs) m₂

/-- The forms come to these values up to the form `e`, which fails and leaves the machine `m'`. -/
def FailsAt (forms : List Expr) (m : Machine) (vs : List Expr) (e : Expr) (fault : SourceFault)
    (m' : Machine) : Prop :=
  ∃ before after m₁, forms = before ++ e :: after ∧ Yields before m vs m₁ ∧
    evalForm e m₁ = (.error fault, m')

lemma Yields.append {es fs us vs : List Expr} {m m₁ m₂ : Machine} (h : Yields es m us m₁)
    (h' : Yields fs m₁ vs m₂) : Yields (es ++ fs) m (us ++ vs) m₂ := by
  induction h with
  | nil => exact h'
  | cons he _ ih => exact .cons he (ih h')

lemma Yields.of_append {es fs vs : List Expr} {m m' : Machine} (h : Yields (es ++ fs) m vs m') :
    ∃ us ws m₁, vs = us ++ ws ∧ Yields es m us m₁ ∧ Yields fs m₁ ws m' := by
  induction es generalizing m vs with
  | nil => exact ⟨[], vs, m, rfl, .nil m, h⟩
  | cons e es ih =>
      cases h with
      | cons he h =>
          obtain ⟨us, ws, m₁, rfl, hes, hfs⟩ := ih h
          exact ⟨_ :: us, ws, m₁, rfl, .cons he hes, hfs⟩

lemma FailsAt.cons {e v e' : Expr} {es vs : List Expr} {m m₁ m' : Machine} {fault : SourceFault}
    (he : evalForm e m = (.ok v, m₁)) (h : FailsAt es m₁ vs e' fault m') :
    FailsAt (e :: es) m (v :: vs) e' fault m' := by
  obtain ⟨before, after, m₂, rfl, hbefore, hfault⟩ := h
  exact ⟨e :: before, after, m₂, rfl, .cons he hbefore, hfault⟩

/-- Either all forms have values, or there is a first one that fails. -/
lemma yields_or_failsAt (es : List Expr) (m : Machine) :
    (∃ vs m', Yields es m vs m') ∨ ∃ vs e fault m', FailsAt es m vs e fault m' := by
  induction es generalizing m with
  | nil => exact .inl ⟨[], m, .nil m⟩
  | cons e es ih =>
      rcases he : evalForm e m with ⟨fault | v, m₁⟩
      · exact .inr ⟨[], e, fault, m₁, [], es, m, rfl, .nil m, he⟩
      · rcases ih m₁ with ⟨vs, m', h⟩ | ⟨vs, e', fault, m', h⟩
        · exact .inl ⟨v :: vs, m', .cons he h⟩
        · exact .inr ⟨v :: vs, e', fault, m', h.cons he⟩

/-! ### Reading a form at a time -/

/-- Where all forms have values, the reading goes on to the first thing that is no form. -/
lemma runForms_of_yields {rs : List (Except SyntaxFault Expr)} {vs : List Expr} {m m' : Machine}
    (h : Yields (Form.untilFault rs).1 m vs m') :
    runForms rs m = ((vs, (Form.untilFault rs).2.map .parse), m') := by
  induction rs generalizing m vs with
  | nil => cases h; rfl
  | cons r rs ih =>
      cases r with
      | error fault => cases h; rfl
      | ok e =>
          cases h with
          | cons he h =>
              rw [runForms, he]
              simp only [ih h]
              rfl

/-- Where a form fails, nothing after it is looked at. -/
lemma runForms_of_failsAt {rs : List (Except SyntaxFault Expr)} {vs : List Expr} {e : Expr}
    {fault : SourceFault} {m m' : Machine}
    (h : FailsAt (Form.untilFault rs).1 m vs e fault m') :
    runForms rs m = ((vs, some fault), m') := by
  induction rs generalizing m vs with
  | nil =>
      obtain ⟨before, after, _, hforms, -, -⟩ := h
      simp [Form.untilFault] at hforms
  | cons r rs ih =>
      obtain ⟨before, after, m₁, hforms, hbefore, hfault⟩ := h
      cases r with
      | error fault => simp [Form.untilFault] at hforms
      | ok e' =>
          rw [runForms]
          cases hbefore with
          | nil =>
              obtain ⟨rfl, -⟩ := List.cons.inj hforms
              rw [hfault]
          | cons he hbefore =>
              obtain ⟨rfl, hrest⟩ := List.cons.inj hforms
              rw [he]
              simp only [ih ⟨_, after, m₁, hrest, hbefore, hfault⟩]

/-- A text comes to an end without a fault exactly where it can be read to its end and all its forms
have values. -/
lemma runSource_eq_none_iff {cs : List Char} {vs : List Expr} {m m' : Machine} :
    runSource cs m = ((vs, none), m') ↔
      (Form.readAll cs).2 = none ∧ Yields (Form.readAll cs).1 m vs m' := by
  refine ⟨fun h => ?_, fun ⟨hread, h⟩ => ?_⟩
  · rcases yields_or_failsAt (Form.readAll cs).1 m with ⟨us, m₁, hus⟩ | ⟨us, e, fault, m₁, hus⟩
    · have heq := (runForms_of_yields hus).symm.trans h
      simp only [Prod.mk.injEq, Option.map_eq_none_iff] at heq
      obtain ⟨⟨rfl, hread⟩, rfl⟩ := heq
      exact ⟨hread, hus⟩
    · have heq := (runForms_of_failsAt hus).symm.trans h
      simp at heq
  · rw [runSource, runForms_of_yields h]
    exact congrArg (fun fault => ((vs, Option.map SourceFault.parse fault), m')) hread

/-! ### Reading everything first -/

/-- Parsed forms go the course of their text. -/
lemma runForms_eq_runParsed (path : Text) {rs : List (Except SyntaxFault Expr)} {es : List Expr}
    (h : Form.untilFault rs = (es, none)) (m : Machine) :
    runForms rs m =
      (((runParsed path es m).1.1, (runParsed path es m).1.2.map Located.fault),
        (runParsed path es m).2) := by
  induction rs generalizing es m with
  | nil =>
      cases h
      rfl
  | cons r rs ih =>
      cases r with
      | error fault => simp [Form.untilFault] at h
      | ok e =>
          rcases hrs : Form.untilFault rs with ⟨es', fault⟩
          simp only [Form.untilFault, hrs, Prod.mk.injEq] at h
          obtain ⟨rfl, rfl⟩ := h
          rw [runForms, runParsed]
          rcases evalForm e m with ⟨_ | v, m₁⟩
          · rfl
          · simp only [ih hrs]

/-- Parsed forms stop where one of them fails, and nowhere else. -/
lemma runParsed_spec (path : Text) (es : List Expr) (m : Machine) :
    match runParsed path es m with
    | ((vs, none), m') => Yields es m vs m'
    | ((vs, some l), m') => l.path = path ∧ FailsAt es m vs l.form l.fault m' := by
  induction es generalizing m with
  | nil => exact .nil m
  | cons e es ih =>
      rw [runParsed]
      rcases he : evalForm e m with ⟨fault | v, m₁⟩
      · exact ⟨rfl, [], es, m, rfl, .nil m, he⟩
      · have hrest := ih m₁
        rcases hr : runParsed path es m₁ with ⟨⟨vs, _ | l⟩, m'⟩
        · simp only [hr] at hrest ⊢
          exact .cons he hrest
        · simp only [hr] at hrest ⊢
          exact ⟨hrest.1, hrest.2.cons he⟩

/-- The fault of a program is the failure of one form, at the path of its source, when everything
before it had a value. -/
lemma runSources_located {sources : List Source} {m m' : Machine} {vs : List Expr} {l : Located}
    (h : runSources sources m = ((vs, some l), m')) :
    ∃ before s after us ws m₁, sources = before ++ s :: after ∧ s.path = l.path ∧ vs = us ++ ws ∧
      Yields (before.flatMap (·.forms)) m us m₁ ∧ FailsAt s.forms m₁ ws l.form l.fault m' := by
  induction sources generalizing m vs with
  | nil => simp [runSources] at h
  | cons s ss ih =>
      rw [runSources] at h
      have hs := runParsed_spec s.path s.forms m
      rcases hr : runParsed s.path s.forms m with ⟨⟨us, _ | l'⟩, m₁⟩
      · simp only [hr] at h hs
        rcases hrest : runSources ss m₁ with ⟨⟨ws, fault⟩, m₂⟩
        simp only [hrest, Prod.mk.injEq] at h
        obtain ⟨⟨rfl, rfl⟩, rfl⟩ := h
        obtain ⟨before, s', after, us', ws', m₃, rfl, hpath, rfl, hbefore, hfails⟩ := ih hrest
        exact ⟨s :: before, s', after, us ++ us', ws', m₃, rfl, hpath, by simp,
          hs.append hbefore, hfails⟩
      · simp only [hr, Prod.mk.injEq, Option.some.injEq] at h hs
        obtain ⟨⟨rfl, rfl⟩, rfl⟩ := h
        exact ⟨[], s, ss, [], us, m, rfl, hs.1.symm, rfl, .nil m, hs.2⟩

/-! ### Several texts -/

/-- Evaluates texts form by form, one text after the other, until something fails. -/
def runTexts : List (List Char) → Machine → (List Expr × Option SourceFault) × Machine
  | [], m => (([], none), m)
  | cs :: rest, m =>
    match runSource cs m with
    | ((vs, some fault), m) => ((vs, some fault), m)
    | ((vs, none), m) =>
      let ((ws, fault), m) := runTexts rest m
      ((vs ++ ws, fault), m)

/-- Each source holds the forms of its text, which can be read to its end. -/
def ParsedFrom : List Source → List (List Char) → Prop :=
  List.Forall₂ fun s cs => Form.readAll cs = (s.forms, none)

/-- Parsed sources go the course of their texts. -/
lemma runTexts_eq_runSources {sources : List Source} {texts : List (List Char)}
    (h : ParsedFrom sources texts) (m : Machine) :
    runTexts texts m =
      (((runSources sources m).1.1, (runSources sources m).1.2.map Located.fault),
        (runSources sources m).2) := by
  induction h generalizing m with
  | nil => rfl
  | @cons s cs ss rest hs _ ih =>
      rw [runTexts, runSources, runSource, runForms_eq_runParsed s.path hs m]
      rcases runParsed s.path s.forms m with ⟨⟨vs, _ | l⟩, m₁⟩
      · simp only [Option.map_none, ih m₁]
      · rfl

/-- **Lazy and eager pipelines agree**. A text gives the values of its forms up to the first one
that fails, with that failure; if none fails it gives all the values, with what stopped the reading.
And sources that hold the forms of their texts give what the texts give one after the other until
something fails: the same values, the same machine, and the last value, void without any. If
something fails, it is the same fault, with the form that failed and the path of its source. -/
theorem pipelines_agree :
    (∀ (cs : List Char) (m : Machine),
      (∃ vs m', Yields (Form.readAll cs).1 m vs m' ∧
        runSource cs m = ((vs, (Form.readAll cs).2.map .parse), m')) ∨
      ∃ vs e fault m', FailsAt (Form.readAll cs).1 m vs e fault m' ∧
        runSource cs m = ((vs, some fault), m')) ∧
    ∀ (sources : List Source) (texts : List (List Char)) (m : Machine), ParsedFrom sources texts →
      (runSources sources m).1.1 = (runTexts texts m).1.1 ∧
      (runSources sources m).2 = (runTexts texts m).2 ∧
      (runSources sources m).1.2.map Located.fault = (runTexts texts m).1.2 ∧
      ((runTexts texts m).1.1 = [] → lastValue (runSources sources m).1.1 = .void) ∧
      (∀ vs v, (runTexts texts m).1.1 = vs ++ [v] → lastValue (runSources sources m).1.1 = v) ∧
      ∀ l, (runSources sources m).1.2 = some l →
        ∃ before s after us ws m₁, sources = before ++ s :: after ∧ s.path = l.path ∧
          (runTexts texts m).1.1 = us ++ ws ∧ Yields (before.flatMap (·.forms)) m us m₁ ∧
          FailsAt s.forms m₁ ws l.form l.fault (runTexts texts m).2 := by
  refine ⟨fun cs m => ?_, fun sources texts m h => ?_⟩
  · rcases yields_or_failsAt (Form.readAll cs).1 m with ⟨vs, m', h⟩ | ⟨vs, e, fault, m', h⟩
    · exact .inl ⟨vs, m', h, runForms_of_yields h⟩
    · exact .inr ⟨vs, e, fault, m', h, runForms_of_failsAt h⟩
  · rw [runTexts_eq_runSources h m]
    refine ⟨rfl, rfl, rfl, fun hvs => ?_, fun vs v hvs => ?_, fun l hl => ?_⟩
    · simp only at hvs
      simp [hvs, lastValue]
    · simp only at hvs
      simp [hvs, lastValue]
    · exact runSources_located (by rw [← hl])

/-- Two sources: one defines `x`, the other asks for it and then for `y`. -/
def askingSources : List Source :=
  [⟨"a.scm", "app", [.combination [.identifier "define", .identifier "x", .string "a"]]⟩,
    ⟨"b.scm", "app", [.identifier "x", .identifier "y"]⟩]

/-- The texts of these sources. -/
def askingTexts : List (List Char) :=
  ["(define x \"a\")".toList, "x\ny".toList]

lemma parsedFrom_askingTexts : ParsedFrom askingSources askingTexts := by
  refine .cons (Form.readAll_of_spaced (.single _) ?_) (.cons (Form.readAll_of_spaced ?_ ?_) .nil)
  · simp only [List.forall_mem_cons, List.not_mem_nil, IsEmpty.forall_iff, implies_true, and_true,
      Form.legible_combination, Form.legible_identifier, Form.legible_string]
    exact ⟨by decide, by simp [Form.FloatFree, Form.flatten, Form.flattenList]⟩
  · have hgap : ∀ c ∈ ['\n'], Text.isBlank c = true := by simp [Text.isBlank]
    exact .cons (List.cons_ne_nil _ _) hgap (.single _)
  · simp only [List.forall_mem_cons, List.not_mem_nil, IsEmpty.forall_iff, implies_true, and_true,
      Form.legible_identifier]
    exact ⟨⟨by decide, by simp [Form.FloatFree, Form.flatten]⟩,
      by decide, by simp [Form.FloatFree, Form.flatten]⟩

/-- The second source fails at `y`, in both ways after two values. -/
theorem pipelines_agree_askingSources :
    ParsedFrom askingSources askingTexts ∧
      (runTexts askingTexts (.fresh false)).1 =
        ([.void, .string "a"], some (.eval (.undefined "y"))) ∧
      (runSources askingSources (.fresh false)).1 =
        ([.void, .string "a"], some ⟨"b.scm", .identifier "y", .eval (.undefined "y")⟩) := by
  have hrun : (runSources askingSources (.fresh false)).1 =
      ([.void, .string "a"], some ⟨"b.scm", .identifier "y", .eval (.undefined "y")⟩) := rfl
  obtain ⟨hvalues, -, hfault, -⟩ :=
    pipelines_agree.2 askingSources askingTexts (.fresh false) parsedFrom_askingTexts
  rw [hrun] at hvalues hfault
  exact ⟨parsedFrom_askingTexts, Prod.ext hvalues.symm hfault.symm, hrun⟩

end PocketScheme.Session
