import PocketScheme.Proofs.Form.Parts
import PocketScheme.Proofs.Session.Pipelines
import PocketScheme.Proofs.Text.Blank
import PocketScheme.Remotes

/-!
An interactive session against the evaluation of one text. Lines are gathered and tried again with
every further line; what is evaluated in the end is the text that they make up, form by form.

* `Repl.textOf`: the text of some lines;
* `Repl.Enterable`: lines that are neither commands nor break a string outside all parentheses;
* `Repl.Enterable.cut`: gathered lines that do not stop too early can be cut off;
* `Repl.lines_agree_with_text`: the main statement.
-/

namespace PocketScheme.Repl

open Session Form Token

/-! ### Lines and their text -/

/-- The text that the lines make up. -/
def textOf (lines : List Text) : Text :=
  Text.intercalate "\n" lines

lemma textOf_single (line : Text) : textOf [line] = line := by
  simp [textOf, Text.intercalate]

lemma textOf_cons {lines : List Text} (hne : lines ≠ []) (line : Text) :
    textOf (line :: lines) = line ++ "\n" ++ textOf lines := by
  obtain ⟨l, ls, rfl⟩ := List.exists_cons_of_ne_nil hne
  simp only [textOf, Text.intercalate, List.map_cons, List.intercalate_cons_cons]
  rfl

lemma chars_newline : (Text.ofString "\n").chars = ['\n'] := rfl

lemma chars_textOf_cons {lines : List Text} (hne : lines ≠ []) (line : Text) :
    (textOf (line :: lines)).chars = line.chars ++ '\n' :: (textOf lines).chars := by
  rw [textOf_cons hne, Text.chars_append, Text.chars_append, List.append_assoc, chars_newline,
    List.singleton_append]

lemma textOf_merge (p line : Text) (rest : List Text) :
    textOf ((p ++ "\n" ++ line) :: rest) = textOf (p :: line :: rest) := by
  rw [textOf_cons (List.cons_ne_nil _ _) p]
  rcases rest with _ | ⟨r, rest⟩
  · rw [textOf_single, textOf_single]
  · rw [textOf_cons (List.cons_ne_nil _ _), textOf_cons (List.cons_ne_nil _ _)]
    simp only [Text.append_assoc]

/-- The characters of lines, each with its line break. -/
def ended (lines : List Text) : List Char :=
  lines.flatMap fun line => line.chars ++ ['\n']

/-- No string outside all parentheses has a line break, and no line outside all parentheses and
strings has a colon as its first glyph that is not blank. -/
structure Enterable (lines : List Text) : Prop where
  strings : KeepsStrings (textOf lines).chars
  commands : ∀ front line back, lines = front ++ line :: back → Outside (ended front) →
    line.firstGlyph? ≠ some (.char ':')

/-- A text of blanks has no forms. -/
lemma readAll_of_isAllBlank {text : Text} (h : text.isAllBlank = true) :
    readAll text.chars = ([], none) := by
  have hblank : ∀ c ∈ text.chars, Text.isBlank c = true := by
    intro c hc
    obtain ⟨g, hg, rfl⟩ := List.mem_map.mp hc
    have hg := List.all_eq_true.mp h g hg
    cases g with
    | char c => exact hg
    | byte b => exact Bool.noConfusion hg
  have hspells := spells_nil.blank_append hblank
  rw [List.append_nil] at hspells
  exact readAll_of_spells hspells

lemma isIncomplete_eq (text : Text) :
    isIncomplete text = (readAll text.chars).2.any SyntaxFault.isEnd := by
  rw [isIncomplete]
  rcases readAll text.chars with ⟨es, _ | fault⟩ <;> rfl

lemma isAllBlank_of_isIncomplete {text : Text} (h : isIncomplete text = true) :
    text.isAllBlank = false := by
  by_contra hblank
  rw [isIncomplete_eq, readAll_of_isAllBlank (by simpa using hblank)] at h
  exact Bool.noConfusion h

lemma isCommand_iff (text : Text) :
    isCommand text = true ↔ text.firstGlyph? = some (.char ':') := by
  rw [← Text.head?_trim_eq, isCommand, Text.startsWith, List.isPrefixOf_iff_prefix]
  rcases text.trim.toList with _ | ⟨g, gs⟩
  · simp [Text.ofString, Text.ofChars]
  · simp [Text.ofString, Text.ofChars, eq_comm]

/-- A gathered text takes in a further line. -/
lemma Enterable.merge {p line : Text} {rest : List Text} (h : Enterable (p :: line :: rest))
    (hp : p.isAllBlank = false) : Enterable ((p ++ "\n" ++ line) :: rest) := by
  refine ⟨by rw [textOf_merge]; exact h.strings, fun front line' back heq hout => ?_⟩
  cases front with
  | nil =>
      obtain ⟨rfl, -⟩ := List.cons.inj heq
      rw [Text.append_assoc, Text.firstGlyph?_append hp]
      exact h.commands [] p (line :: rest) rfl hout
  | cons f front =>
      obtain ⟨rfl, rfl⟩ := List.cons.inj heq
      refine h.commands (p :: line :: front) line' back rfl ?_
      simpa [ended, chars_newline] using hout

/-- Where the text of some lines has values, so has the first of them if it does not stop too early,
and the others after it. -/
lemma Enterable.cut {x : Text} {rest : List Text} (h : Enterable (x :: rest))
    (hx : isIncomplete x = false) {m m' : Machine} {vs : List Expr}
    (hrun : runSource (textOf (x :: rest)).chars m = ((vs, none), m')) :
    ∃ us ws m₁, vs = us ++ ws ∧ runSource x.chars m = ((us, none), m₁) ∧
      runSource (textOf rest).chars m₁ = ((ws, none), m') ∧ Enterable rest := by
  rcases eq_or_ne rest [] with rfl | hne
  · rw [textOf_single] at hrun
    have hempty : runSource (textOf []).chars m' = (([], none), m') :=
      runSource_eq_none_iff.mpr (by rw [readAll_of_isAllBlank rfl]; exact ⟨rfl, .nil m'⟩)
    refine ⟨vs, [], m', by simp, hrun, hempty, ⟨fun front v back heq => ?_, by simp⟩⟩
    exact absurd (lexemes_nil.symm.trans heq) (by simp)
  · obtain ⟨hread, hyields⟩ := runSource_eq_none_iff.mp hrun
    have hwhole := isWhole_of_readAll hread
    have hstrings := h.strings
    rw [chars_textOf_cons hne] at hwhole hstrings hyields
    have hend : ∀ fault, (readAll x.chars).2 = some fault → fault.isEnd = false := by
      intro fault hfault
      simpa [isIncomplete_eq, hfault] using hx
    obtain ⟨hout, hfirst, hrest, hsplit⟩ := cut_newline hwhole hstrings hend
    rw [readAll_append hfirst hrest hsplit] at hyields
    obtain ⟨us, ws, m₁, rfl, hus, hws⟩ := hyields.of_append
    obtain ⟨es, hes, -⟩ := readAll_of_isWhole hfirst
    obtain ⟨fs, hfs, -⟩ := readAll_of_isWhole hrest
    refine ⟨us, ws, m₁, rfl, runSource_eq_none_iff.mpr ⟨by rw [hes], hus⟩,
      runSource_eq_none_iff.mpr ⟨by rw [hfs], hws⟩, ?_, ?_⟩
    · intro front v back heq hfront
      refine hstrings (lexemes x.chars ++ front) v back ?_ (hfirst.append hfront)
      rw [hsplit, heq, List.append_assoc]
    · rintro front line back rfl hfront
      exact h.commands (x :: front) line back rfl (hout.append hfront)

/-! ### What comes out -/

lemma output_emit (s : State) (text : Text) : (s.emit text).output = s.output ++ text := by
  simp [State.emit, State.output, Text.join, List.filterMap_append]
  rfl

lemma output_ask (s : State) : s.ask.output = s.output := by
  simp [State.ask, State.output]

lemma valueLines_append (us vs : List Expr) :
    valueLines (us ++ vs) = valueLines us ++ valueLines vs := by
  simp [valueLines]

/-- The second state has evaluated something that came to these values and this machine. -/
structure Answers (s s' : State) (vs : List Expr) (m : Machine) : Prop where
  machine : s'.machine = m
  output : s'.output = s.output ++ valueLines vs

/-! ### One line -/

/-- The lines that are gathered, as one. -/
def gathered (s : State) : List Text :=
  if s.pending.isEmpty then [] else [s.pending]

/-- A complete text that is no command is evaluated. -/
lemma submit_answers (s : State) {text : Text} (hcommand : isCommand text = false)
    {us : List Expr} {m : Machine} (hrun : runSource text.chars s.machine = ((us, none), m)) :
    ∃ s', submit s text = (s', false) ∧ s'.pending = s.pending ∧ Answers s s' us m := by
  rw [submit]
  split
  · rename_i hblank
    -- nothing is evaluated, and nothing is there to be evaluated
    rw [runSource_eq_none_iff, readAll_of_isAllBlank hblank] at hrun
    obtain ⟨-, hyields⟩ := hrun
    cases hyields
    exact ⟨s, rfl, rfl, rfl, (Text.append_empty _).symm⟩
  · rw [if_neg (by simp [hcommand]), evaluate]
    simp only [hrun]
    exact ⟨_, rfl, rfl, rfl, output_emit _ _⟩

/-- A further line is taken together with those that are gathered. -/
lemma step_line (s : State) (line : Text) :
    step s (.line line) =
      let text := textOf (gathered s ++ [line])
      if isCommand text || !isIncomplete text then submit { s with pending := "" } text
      else ({ s with pending := text }, false) := by
  have htext : (if s.pending.isEmpty then line else s.pending ++ "\n" ++ line) =
      textOf (gathered s ++ [line]) := by
    rw [gathered]
    split
    · exact (textOf_single line).symm
    · exact (textOf_single _).symm.trans (textOf_merge s.pending line [])
  rw [step, htext]

/-- What is gathered stops inside a form. -/
def Gathers (s : State) : Prop :=
  ∀ text ∈ gathered s, isIncomplete text = true

lemma gathered_of_isEmpty {s : State} (h : s.pending.isEmpty = true) : gathered s = [] :=
  if_pos h

lemma gathered_of_isIncomplete {s : State} (h : isIncomplete s.pending = true) :
    gathered s = [s.pending] := by
  have hblank := isAllBlank_of_isIncomplete h
  refine if_neg fun hempty => ?_
  rw [Text.isEmpty, List.isEmpty_iff] at hempty
  rw [Text.isAllBlank, hempty] at hblank
  exact Bool.noConfusion hblank

/-- With the further line, the lines are still the same text. -/
lemma Enterable.gather {s : State} (hs : Gathers s) {line : Text} {rest : List Text}
    (h : Enterable (gathered s ++ line :: rest)) :
    Enterable (textOf (gathered s ++ [line]) :: rest) ∧
      textOf (textOf (gathered s ++ [line]) :: rest) = textOf (gathered s ++ line :: rest) := by
  by_cases hempty : s.pending.isEmpty = true
  · rw [gathered_of_isEmpty hempty] at h ⊢
    rw [List.nil_append, textOf_single]
    exact ⟨h, rfl⟩
  · have hgathered : gathered s = [s.pending] := if_neg hempty
    have hpending := hs s.pending (by rw [hgathered]; exact List.mem_singleton_self _)
    have htext : textOf [s.pending, line] = s.pending ++ "\n" ++ line :=
      (textOf_merge s.pending line []).symm.trans (textOf_single _)
    rw [hgathered] at h ⊢
    rw [List.singleton_append, htext]
    exact ⟨h.merge (isAllBlank_of_isIncomplete hpending), textOf_merge _ _ _⟩

/-- A line that leaves the text incomplete is gathered. -/
lemma step_gathers {s : State} {line : Text}
    (hcommand : isCommand (textOf (gathered s ++ [line])) = false)
    (hincomplete : isIncomplete (textOf (gathered s ++ [line])) = true) :
    step s (.line line) = ({ s with pending := textOf (gathered s ++ [line]) }, false) := by
  rw [step_line]
  simp [hcommand, hincomplete]

/-- A line that completes the text has it evaluated. -/
lemma step_answers {s : State} {line : Text}
    (hcommand : isCommand (textOf (gathered s ++ [line])) = false)
    (hcomplete : isIncomplete (textOf (gathered s ++ [line])) = false) {us : List Expr}
    {m : Machine}
    (hrun : runSource (textOf (gathered s ++ [line])).chars s.machine = ((us, none), m)) :
    ∃ s', step s (.line line) = (s', false) ∧ s'.pending = "" ∧ Answers s s' us m := by
  rw [step_line]
  simp only [hcommand, hcomplete, Bool.not_false, Bool.or_true, if_true]
  obtain ⟨s', hsubmit, hpending, hmachine, houtput⟩ :=
    submit_answers { s with pending := "" } hcommand hrun
  exact ⟨s', hsubmit, hpending, hmachine, houtput⟩

/-! ### All lines -/

/-- Lines that are entered come to the values of their text. -/
lemma run_lines (lines : List Text) {s : State} (hs : Gathers s)
    (h : Enterable (gathered s ++ lines)) {vs : List Expr} {m : Machine}
    (hrun : runSource (textOf (gathered s ++ lines)).chars s.machine = ((vs, none), m)) :
    ∃ s', run s (lines.map .line) = (s'.ask.emit "\n", []) ∧ Answers s s' vs m := by
  induction lines generalizing s vs with
  | nil =>
      refine ⟨s, rfl, ?_⟩
      rw [List.append_nil] at hrun
      by_cases hempty : s.pending.isEmpty = true
      · rw [gathered_of_isEmpty hempty, runSource_eq_none_iff, readAll_of_isAllBlank rfl] at hrun
        obtain ⟨-, hyields⟩ := hrun
        cases hyields
        exact ⟨rfl, (Text.append_empty _).symm⟩
      · -- a text that can be read does not stop inside a form
        have hgathered : gathered s = [s.pending] := if_neg hempty
        have hpending := hs s.pending (by rw [hgathered]; exact List.mem_singleton_self _)
        rw [hgathered, textOf_single, runSource_eq_none_iff] at hrun
        rw [isIncomplete_eq, hrun.1] at hpending
        exact Bool.noConfusion hpending
  | cons line rest ih =>
      obtain ⟨hrest, htext⟩ := h.gather hs
      rw [← htext] at hrun
      have hcommand : isCommand (textOf (gathered s ++ [line])) = false := by
        rw [Bool.eq_false_iff, ne_eq, isCommand_iff]
        exact hrest.commands [] _ rest rfl outside_nil
      rw [List.map_cons, run]
      rcases hincomplete : isIncomplete (textOf (gathered s ++ [line])) with _ | _
      · obtain ⟨us, ws, m₁, rfl, hfirst, hlast, hrest⟩ := hrest.cut hincomplete hrun
        obtain ⟨s₁, hstep, hpending, hs₁⟩ := step_answers (s := s.ask) hcommand hincomplete hfirst
        have hgathered : gathered s₁ = [] := gathered_of_isEmpty (by rw [hpending]; rfl)
        have hs₁' : Gathers s₁ := by simp [Gathers, hgathered]
        rw [← hs₁.machine] at hlast
        obtain ⟨s', hrun', hs'⟩ := ih hs₁' (by rwa [hgathered]) (by rwa [hgathered])
        rw [hstep]
        refine ⟨s', hrun', hs'.machine, ?_⟩
        rw [hs'.output, hs₁.output, output_ask, valueLines_append, Text.ofString_append,
          Text.append_assoc]
      · have hstep : step s.ask (.line line) =
            ({ s.ask with pending := textOf (gathered s ++ [line]) }, false) :=
          step_gathers (s := s.ask) hcommand hincomplete
        have hgathered : gathered { s.ask with pending := textOf (gathered s ++ [line]) } =
            [textOf (gathered s ++ [line])] := gathered_of_isIncomplete hincomplete
        have hs₁ : Gathers { s.ask with pending := textOf (gathered s ++ [line]) } := by
          simpa [Gathers, hgathered] using hincomplete
        obtain ⟨s', hrun', hs'⟩ := ih hs₁ (by rwa [hgathered]) (by rwa [hgathered])
        rw [hstep]
        exact ⟨s', hrun', hs'.machine, hs'.output.trans (congrArg (· ++ _) (output_ask s))⟩

/-- **Lines agree with their text**. Take lines whose text can be evaluated without a fault, so that
it can be read to its end. No string outside all parentheses has a line break, and no line outside
all parentheses and strings looks like a command. Then a session that is given these lines takes
them all and evaluates the forms of the text, each once and in order: it ends with the machine that
the text leaves, and puts out the values of the text that are not void, one on each line, and a last
line break. -/
theorem lines_agree_with_text (s : State) (lines : List Text) (vs : List Expr) (m : Machine)
    (hs : s.pending = "") (h : Enterable lines)
    (hrun : runSource (textOf lines).chars s.machine = ((vs, none), m)) :
    (∃ forms, readAll (textOf lines).chars = (forms, none) ∧ Yields forms s.machine vs m) ∧
      (run s (lines.map .line)).2 = [] ∧ (run s (lines.map .line)).1.machine = m ∧
      (run s (lines.map .line)).1.output =
        s.output ++ String.join ((vs.filter (fun v => !v.isVoid)).map fun v => v.render ++ "\n") ++
          "\n" := by
  have hgathered : gathered s = [] := gathered_of_isEmpty (by rw [hs]; rfl)
  have hgathers : Gathers s := by simp [Gathers, hgathered]
  obtain ⟨s', hrun', hs'⟩ := run_lines lines hgathers (by rwa [hgathered]) (by rwa [hgathered])
  obtain ⟨hread, hyields⟩ := runSource_eq_none_iff.mp hrun
  rw [hrun']
  refine ⟨⟨_, Prod.ext rfl hread, hyields⟩, rfl, hs'.machine, ?_⟩
  rw [output_emit, output_ask, hs'.output]
  rfl

/-- Four lines: a definition whose string has a line break and then a colon, a line without
anything, and a line of two forms. -/
def coloned : List Text :=
  ["(define x \"a", ":b\")", "", "x x"]

/-- The forms of these lines. -/
def colonedForms : List Expr :=
  [.combination [.identifier "define", .identifier "x", .string "a\n:b"], .identifier "x",
    .identifier "x"]

lemma word_name (name : String) (h : (Number.ofChars? name.toList).isNone = true) :
    word name.toList = .identifier name := by
  rw [word, Option.isNone_iff_eq_none.mp h, String.ofList_toList]

lemma lexes_definition {cs : List Char} {ls : List Lexeme} (h : Lexes cs ls) :
    Lexes ("(define x ".toList ++ cs)
      (.openParen :: .identifier "define" :: .identifier "x" :: ls) := by
  have hname : Lexes ("x".toList ++ ' ' :: cs) (.identifier "x" :: ls) := by
    rw [← word_name "x" (by decide)]
    exact .word (by decide) (stops_blank _ (by decide)) (.blank (by decide) h)
  have hdefine : Lexes ("define".toList ++ ' ' :: ("x".toList ++ ' ' :: cs))
      (.identifier "define" :: .identifier "x" :: ls) := by
    rw [← word_name "define" (by decide)]
    exact .word (by decide) (stops_blank _ (by decide)) (.blank (by decide) hname)
  exact .opening hdefine

lemma lexemes_coloned : lexemes (textOf coloned).chars =
    [.openParen, .identifier "define", .identifier "x", .string "a\n:b", .closeParen,
      .identifier "x", .identifier "x"] := by
  have hlast : Lexes ("x".toList ++ ' ' :: ("x".toList ++ []))
      [.identifier "x", .identifier "x"] := by
    rw [← word_name "x" (by decide)]
    exact .word (by decide) (stops_blank _ (by decide))
      (.blank (by decide) (.word (by decide) stops_nil .nil))
  have hstring : Lexes ('"' :: ("a\n:b".toList ++ '"' :: ')' :: '\n' :: '\n' ::
      ("x".toList ++ ' ' :: ("x".toList ++ []))))
      [.string "a\n:b", .closeParen, .identifier "x", .identifier "x"] :=
    .string (by decide) (.closing (.blank (by decide) (.blank (by decide) hlast)))
  exact (lexes_iff.mp (lexes_definition hstring)).symm

lemma enterable_coloned : Enterable coloned := by
  refine ⟨fun front v back heq hfront => ?_, fun front line back heq hout => ?_⟩
  · rw [lexemes_coloned] at heq
    obtain ⟨rfl, -, -⟩ : front = [.openParen, .identifier "define", .identifier "x"] ∧
        v = "a\n:b" ∧ back = [.closeParen, .identifier "x", .identifier "x"] := by
      simpa [List.cons_eq_append_iff] using heq
    exact absurd hfront.1 (by decide)
  · -- only the second line starts with a colon, and the parenthesis is open in front of it
    have hcases : (front = [Text.ofString "(define x \"a"] ∧ line = ":b\")") ∨
        line = "(define x \"a" ∨
        line = "" ∨ line = "x x" := by
      simp only [coloned, List.cons_eq_append_iff, List.nil_eq_append_iff] at heq
      grind
    rcases hcases with ⟨rfl, rfl⟩ | rfl | rfl | rfl
    · have hstring : Lexes ('"' :: "a\n".toList) [.string "a\n"] := .unended (by decide)
      have hlexemes : lexemes (ended ["(define x \"a"]) =
          [.openParen, .identifier "define", .identifier "x", .string "a\n"] :=
        (lexes_iff.mp (lexes_definition hstring)).symm
      have hwhole := hout.1
      rw [hlexemes] at hwhole
      exact absurd hwhole.1 (by decide)
    · decide
    · decide
    · decide

lemma readAll_coloned : readAll (textOf coloned).chars = (colonedForms, none) := by
  have hgaps : (∀ c ∈ ['\n', '\n'], Text.isBlank c = true) ∧
      ∀ c ∈ [' '], Text.isBlank c = true := by
    simp [Text.isBlank]
  have hspaced : Spaced colonedForms (textOf coloned).chars :=
    .cons (List.cons_ne_nil _ _) hgaps.1 (.cons (List.cons_ne_nil _ _) hgaps.2 (.single _))
  refine readAll_of_spaced hspaced fun e he => ⟨?_, ?_⟩
  · revert e
    simp only [colonedForms, List.forall_mem_cons, List.not_mem_nil, IsEmpty.forall_iff,
      implies_true, and_true, legible_combination, legible_identifier, legible_string]
    decide
  · revert e
    simp [colonedForms, FloatFree, flatten, flattenList]

/-- The session takes the second line as part of the string, and gives the string twice. -/
theorem lines_agree_with_coloned :
    Enterable coloned ∧
      (run (.start (Remotes.world [] [] "/") (.fresh false)) (coloned.map .line)).1.output =
        Text.ofString "\"a\n:b\"\n\"a\n:b\"\n\n" ∧
      (run (.start (Remotes.world [] [] "/") (.fresh false)) (coloned.map .line)).1.machine =
        machineAfter colonedForms (.fresh false) := by
  have hrun : runSource (textOf coloned).chars (.fresh false) =
      (([.void, .string "a\n:b", .string "a\n:b"], none),
        machineAfter colonedForms (.fresh false)) := by
    rw [runSource_eq_none_iff, readAll_coloned]
    exact ⟨rfl, .cons rfl (.cons rfl (.cons rfl (.nil _)))⟩
  obtain ⟨-, -, hmachine, houtput⟩ := lines_agree_with_text
    (.start (Remotes.world [] [] "/") (.fresh false)) coloned _ _ rfl enterable_coloned hrun
  exact ⟨enterable_coloned, houtput, hmachine⟩

end PocketScheme.Repl
