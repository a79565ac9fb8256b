import PocketScheme.Proofs.Form.Joined
import PocketScheme.Proofs.Session.Pipelines
import PocketScheme.Proofs.Text.Utf8

/-!
Sources that are put together. Two texts with a line break between them are read and evaluated like
one after the other.

* `SourceFault.down`: the same fault, some lines further down;
* `Session.runForms_append`, `Session.runForms_lowered`: evaluating forms in two parts, and further
  down;
* `Session.runSource_joined`, `Session.runSource_joined_of_fault`: evaluating both texts;
* `Session.sources_compose`: the main statement.
-/

namespace PocketScheme

/-- The same fault. What could not be read is some lines further down. -/
def SourceFault.down (lines : Nat) : SourceFault → SourceFault
  | parse fault => parse (fault.down lines)
  | eval fault => eval fault
  | exhausted => exhausted

namespace Session

/-- A fault of an evaluation has no place. -/
lemma down_of_evalForm {e : Expr} {m m' : Machine} {fault : SourceFault}
    (h : evalForm e m = (.error fault, m')) (lines : Nat) : fault.down lines = fault := by
  rw [evalForm] at h
  split at h
  · simp at h
  · simp only [Prod.mk.injEq, Except.error.injEq] at h
    rw [← h.1, SourceFault.down]
  · simp only [Prod.mk.injEq, Except.error.injEq] at h
    rw [← h.1, SourceFault.down]

/-- What is read further down has the same values and the same faults, further down. -/
lemma runForms_lowered (lines : Nat) (rs : List (Except SyntaxFault Expr)) {vs : List Expr}
    {fault : Option SourceFault} {m m' : Machine} (h : runForms rs m = ((vs, fault), m')) :
    runForms (rs.map (Form.lowered lines)) m = ((vs, fault.map (SourceFault.down lines)), m') := by
  induction rs generalizing m vs with
  | nil =>
      cases h
      rfl
  | cons r rs ih =>
      cases r with
      | error f =>
          cases h
          rfl
      | ok e =>
          have hok : Form.lowered lines (.ok e) = .ok e := rfl
          rw [runForms] at h
          rw [List.map_cons, hok, runForms]
          rcases he : evalForm e m with ⟨f | v, m₁⟩
          · simp only [he] at h ⊢
            cases h
            rw [Option.map_some, down_of_evalForm he]
          · rcases hrest : runForms rs m₁ with ⟨⟨ws, f⟩, m₂⟩
            simp only [he, hrest] at h ⊢
            cases h
            simp only [ih hrest]

/-- Where all forms have values, the evaluation goes on behind them. -/
lemma runForms_append {es vs : List Expr} {m m₁ : Machine} (h : Yields es m vs m₁)
    {rs : List (Except SyntaxFault Expr)} {ws : List Expr} {fault : Option SourceFault}
    {m₂ : Machine} (hrs : runForms rs m₁ = ((ws, fault), m₂)) :
    runForms (es.map .ok ++ rs) m = ((vs ++ ws, fault), m₂) := by
  induction h with
  | nil => exact hrs
  | cons he _ ih =>
      rw [List.map_cons, List.cons_append, runForms, he]
      simp only [ih hrs]
      rfl

/-- A form that fails hides what is behind it. -/
lemma FailsAt.append {es vs : List Expr} {e : Expr} {fault : SourceFault} {m m' : Machine}
    (h : FailsAt es m vs e fault m') (fs : List Expr) : FailsAt (es ++ fs) m vs e fault m' := by
  obtain ⟨before, after, m₁, rfl, hbefore, he⟩ := h
  exact ⟨before, after ++ fs, m₁, by rw [List.append_assoc, List.cons_append], hbefore, he⟩

section

variable {cs : List Char} (hread : (Form.readAll cs).2 = none) (hcs : ¬ Token.EndsInString cs)

include hread hcs

/-- What fails in the first text fails in both. -/
lemma runSource_joined_of_fault {m m₁ : Machine} {vs : List Expr} {fault : SourceFault}
    (h : runSource cs m = ((vs, some fault), m₁)) (ds : List Char) :
    runSource (cs ++ '\n' :: ds) m = ((vs, some fault), m₁) := by
  rcases yields_or_failsAt (Form.readAll cs).1 m with ⟨us, m', hyields⟩ | ⟨us, e, f, m', hfails⟩
  · rw [runSource_eq_none_iff.mpr ⟨hread, hyields⟩] at h
    simp at h
  · have hfirst : runSource cs m = ((us, some f), m') := runForms_of_failsAt hfails
    rw [← h, hfirst]
    refine runForms_of_failsAt (e := e) ?_
    rw [← Form.readAll, Form.readAll_joined hread hcs]
    exact hfails.append _

/-- Behind the first text, the second one is evaluated. -/
lemma runSource_joined {m m₁ m₂ : Machine} {vs ws : List Expr} {fault : Option SourceFault}
    {ds : List Char} (h : runSource cs m = ((vs, none), m₁))
    (hds : runSource ds m₁ = ((ws, fault), m₂)) :
    runSource (cs ++ '\n' :: ds) m =
      ((vs ++ ws, fault.map (SourceFault.down (lineCount cs))), m₂) := by
  obtain ⟨-, hyields⟩ := runSource_eq_none_iff.mp h
  rw [runSource, Form.readEach_joined hread hcs]
  exact runForms_append hyields (runForms_lowered _ _ hds)

end

/-- **Sources compose**. Take a text that can be read and does not end inside a string, and any
other text, with a line break between them. The forms are those of the first text and then those of
the second one, and what is wrong with the second text is wrong with both, in the same column and
as many lines further down as the first text has. So both together are evaluated like the first
text and then, if nothing failed, the second one: the same values, the same machine and the same
fault. -/
theorem sources_compose (a b : Text.Bytes) (hread : (Form.readAll (Text.decode a)).2 = none)
    (hended : ¬ Token.EndsInString (Text.decode a)) :
    let both := Text.decode (a ++ Text.bytes "\n" ++ b)
    let lines := lineCount (Text.decode a)
    (Form.readAll both).1 = (Form.readAll (Text.decode a)).1 ++ (Form.readAll (Text.decode b)).1 ∧
    (Form.readAll both).2 = (Form.readAll (Text.decode b)).2.map (SyntaxFault.down lines) ∧
    ∀ (m m₁ : Machine) (vs : List Expr),
      (∀ fault, runSource (Text.decode a) m = ((vs, some fault), m₁) →
        runSource both m = ((vs, some fault), m₁)) ∧
      ∀ (ws : List Expr) (fault : Option SourceFault) (m₂ : Machine),
        runSource (Text.decode a) m = ((vs, none), m₁) →
        runSource (Text.decode b) m₁ = ((ws, fault), m₂) →
        runSource both m = ((vs ++ ws, fault.map (SourceFault.down lines)), m₂) := by
  intro both lines
  have hboth : both = Text.decode a ++ '\n' :: Text.decode b := Text.decode_newline a b
  rw [hboth, Form.readAll_joined hread hended]
  refine ⟨rfl, rfl, fun m m₁ vs => ⟨fun fault h => ?_, fun ws fault m₂ h hrest => ?_⟩⟩
  · exact runSource_joined_of_fault hread hended h (Text.decode b)
  · exact runSource_joined hread hended h hrest

/-- The form `(define (f) f)`. -/
def definitionAlone : Expr :=
  .combination [.identifier "define", .combination [.identifier "f"], .identifier "f"]

/-- The text of this form. -/
def definitionText : String := "(define (f) f)"

/-- A string and, on the second line, a parenthesis that closes nothing. -/
def strayText : String := "\"a\"\n  )"

lemma readAll_definitionText : Form.readAll definitionText.toList = ([definitionAlone], none) := by
  refine Form.readAll_of_spaced (.single _) (List.forall_mem_singleton.mpr ⟨?_, ?_⟩)
  · simp only [definitionAlone, Form.legible_combination, Form.legible_identifier,
      List.forall_mem_cons, List.not_mem_nil, IsEmpty.forall_iff, implies_true, and_true]
    decide
  · simp [Form.FloatFree, definitionAlone, Form.flatten, Form.flattenList]

lemma readEach_strayText : Form.readEach (Token.scan strayText.toList) =
    [.ok (.string "a"), .error (.unexpectedClose ⟨2, 3⟩)] := by
  have hbody : '"' ∉ ['a'] := by decide
  have hgap : ∀ c ∈ "\n  ".toList, Text.isBlank c = true := List.all_eq_true.mp (by decide)
  have htext : strayText.toList = '"' :: (['a'] ++ '"' :: ("\n  ".toList ++ [')'])) := rfl
  have hscan : Token.scan strayText.toList = [⟨.string "a", ⟨1, 1⟩⟩, ⟨.closeParen, ⟨2, 3⟩⟩] := by
    rw [Token.scan, htext, Token.scanFrom_string hbody, Token.scanFrom_blanks hgap,
      Token.scanFrom_close, Token.scanFrom]
    rfl
  rw [hscan, Form.readEach_of_next? rfl, Form.readEach_of_next? rfl, Form.readEach_nil]
  rfl

/-- The parenthesis of the second text is found on its second line, which is the third one of
both. -/
theorem sources_compose_stray :
    let both := Text.decode (Text.bytes definitionText ++ Text.bytes "\n" ++ Text.bytes strayText)
    (Form.readAll both).1 = [definitionAlone, .string "a"] ∧
    (Form.readAll both).2 = some (.unexpectedClose ⟨3, 3⟩) ∧
    (runSource both (.fresh false)).1 =
      ([.void, .string "a"], some (.parse (.unexpectedClose ⟨3, 3⟩))) := by
  intro both
  have hdefinition : Text.decode (Text.bytes definitionText) = definitionText.toList := by
    decide +kernel
  have hstray : Text.decode (Text.bytes strayText) = strayText.toList := by
    decide +kernel
  have hended : ¬ Token.EndsInString definitionText.toList := by
    intro h
    exact absurd h.mem_quote (by decide)
  obtain ⟨hforms, hfault, hrun⟩ := sources_compose (Text.bytes definitionText)
    (Text.bytes strayText) (by rw [hdefinition, readAll_definitionText]) (by rwa [hdefinition])
  rw [hdefinition, hstray] at hforms hfault hrun
  have hread : Form.readAll strayText.toList = ([.string "a"], some (.unexpectedClose ⟨2, 3⟩)) := by
    rw [Form.readAll, readEach_strayText]
    rfl
  rw [readAll_definitionText, hread] at hforms
  rw [hread] at hfault
  have hfirst : runSource definitionText.toList (.fresh false) =
      (([.void], none), machineAfter [definitionAlone] (.fresh false)) := by
    rw [runSource_eq_none_iff, readAll_definitionText]
    exact ⟨rfl, .cons rfl (.nil _)⟩
  have hsecond (m : Machine) : runSource strayText.toList m =
      (([.string "a"], some (.parse (.unexpectedClose ⟨2, 3⟩))),
        (eval depthBound (.string "a") m).2) := by
    rw [runSource, readEach_strayText]
    rfl
  have hboth := (hrun _ _ _).2 _ _ _ hfirst (hsecond _)
  exact ⟨hforms, hfault, congrArg Prod.fst hboth⟩

end Session

end PocketScheme
