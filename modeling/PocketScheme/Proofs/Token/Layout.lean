import PocketScheme.Proofs.Token.Lexer
import Mathlib.Data.List.DropRight

/-!
Where the tokens of a text stand. A text is made of lexemes with blanks between them, and scanning
gives these lexemes, each with the line and column of its first character.

* `Position.behind`: the place behind some characters, by counting lines and columns;
* `Spelled`: how a lexeme is written;
* `Piece`, `Layout`: lexemes and the blanks in front of them;
* `exists_layout`, `Layout.scanFrom`: every text has a layout, and scanning gives its tokens;
* `scan_exact`: the main statement;
* `EndsInString`, `scan_newline`: a line break behind a text that does not end inside a string.
-/

namespace PocketScheme

/-! ### Places -/

namespace Position

/-- The place behind characters at the start of a text: the line counts the newlines among them, and
the column the characters behind the last newline. -/
def behind (front : List Char) : Position :=
  ⟨1 + front.count '\n', 1 + (front.rtakeWhile (· != '\n')).length⟩

lemma behind_concat (front : List Char) (c : Char) :
    behind (front ++ [c]) = (behind front).next c := by
  by_cases hc : c = '\n'
  · subst hc
    rw [behind, next, if_pos (by decide), List.rtakeWhile_concat_neg _ _ _ (by decide),
      List.count_append, List.count_singleton_self]
    rfl
  · rw [behind, next, if_neg (by simpa using hc),
      List.rtakeWhile_concat_pos _ _ _ (by simpa using hc), List.count_append,
      List.count_singleton, if_neg (by simpa using hc), List.length_append]
    rfl

/-- Counting agrees with going on character by character. -/
lemma behind_append (front cs : List Char) : behind (front ++ cs) = (behind front).after cs := by
  induction cs generalizing front with
  | nil => rw [List.append_nil]; rfl
  | cons c cs ih => rw [after_cons, ← behind_concat, ← ih, List.append_assoc, List.singleton_append]

lemma after_append (p : Position) (cs ds : List Char) :
    p.after (cs ++ ds) = (p.after cs).after ds :=
  List.foldl_append

end Position

namespace Token

/-! ### How lexemes are written -/

/-- The lexeme is written in this way in front of the characters `rest`. A string has no quote
inside, and one that is not ended runs to the end of the text; a word ends where no character
follows that it could go on with, and it is a number if it spells one. -/
inductive Spelled : Lexeme → List Char → List Char → Prop
  | opening (rest : List Char) : Spelled .openParen ['('] rest
  | closing (rest : List Char) : Spelled .closeParen [')'] rest
  | string {body : List Char} (hbody : '"' ∉ body) (rest : List Char) :
      Spelled (.string (String.ofList body)) ('"' :: (body ++ ['"'])) rest
  | unended {body : List Char} (hbody : '"' ∉ body) :
      Spelled (.string (String.ofList body)) ('"' :: body) []
  | number {run rest : List Char} {value : Number} (hrun : IsWord run) (hrest : Stops rest)
      (hvalue : Number.ofChars? run = some value) :
      Spelled (.number (String.ofList run) value) run rest
  | identifier {run rest : List Char} (hrun : IsWord run) (hrest : Stops rest)
      (hvalue : Number.ofChars? run = none) : Spelled (.identifier (String.ofList run)) run rest

lemma spelled_word {run rest : List Char} (hrun : IsWord run) (hrest : Stops rest) :
    Spelled (word run) run rest := by
  rw [word]
  cases hvalue : Number.ofChars? run with
  | none => exact .identifier hrun hrest hvalue
  | some value => exact .number hrun hrest hvalue

/-- A lexeme is scanned from its spelling. -/
lemma Spelled.scanFrom {l : Lexeme} {cs rest : List Char} (h : Spelled l cs rest) (p : Position) :
    scanFrom p (cs ++ rest) = ⟨l, p⟩ :: Token.scanFrom (p.after cs) rest := by
  cases h with
  | opening => exact scanFrom_open p rest
  | closing => exact scanFrom_close p rest
  | string hbody =>
      rw [List.cons_append, List.append_assoc, List.singleton_append, scanFrom_string hbody]
      rfl
  | unended hbody => rw [List.append_nil, scanFrom_unended hbody, Token.scanFrom]
  | number hrun hrest hvalue => rw [scanFrom_word hrun hrest, word, hvalue]
  | identifier hrun hrest hvalue => rw [scanFrom_word hrun hrest, word, hvalue]

/-- Blanks only move the place. -/
lemma scanFrom_blanks {gap : List Char} (hgap : ∀ c ∈ gap, Text.isBlank c = true) (p : Position)
    (cs : List Char) : scanFrom p (gap ++ cs) = scanFrom (p.after gap) cs := by
  induction gap generalizing p with
  | nil => rfl
  | cons c gap ih =>
      obtain ⟨hc, hgap⟩ := List.forall_mem_cons.mp hgap
      rw [List.cons_append, scanFrom_blank hc, ih hgap, Position.after_cons]

/-! ### Layouts -/

/-- A token as it stands in a text: the blanks in front of it, and its spelling. -/
structure Piece where
  gap : List Char
  token : Token
  spelling : List Char

/-- The characters of a piece. -/
def Piece.chars (p : Piece) : List Char :=
  p.gap ++ p.spelling

/-- Behind `front`, the text consists of these pieces and of blanks at its end. -/
inductive Layout : List Char → List Char → List Piece → List Char → Prop
  | blanks {front last : List Char} (hlast : ∀ c ∈ last, Text.isBlank c = true) :
      Layout front last [] last
  | piece {front gap cs rest last : List Char} {l : Lexeme} {ps : List Piece}
      (hgap : ∀ c ∈ gap, Text.isBlank c = true) (hspelled : Spelled l cs rest)
      (hrest : Layout (front ++ (gap ++ cs)) rest ps last) :
      Layout front (gap ++ cs ++ rest) (⟨gap, ⟨l, .behind (front ++ gap)⟩, cs⟩ :: ps) last

namespace Layout

variable {front cs last : List Char} {ps : List Piece}

/-- A further blank goes to the blanks in front. -/
lemma blank_cons {c : Char} (hc : Text.isBlank c = true) (h : Layout (front ++ [c]) cs ps last) :
    ∃ ps' last', Layout front (c :: cs) ps' last' := by
  cases h with
  | blanks hlast => exact ⟨[], c :: cs, .blanks (List.forall_mem_cons.mpr ⟨hc, hlast⟩)⟩
  | @piece _ gap ds rest _ l ps hgap hspelled hrest =>
      have hrest' : Layout (front ++ (c :: gap ++ ds)) rest ps last := by simpa using hrest
      exact ⟨_, last, .piece (List.forall_mem_cons.mpr ⟨hc, hgap⟩) hspelled hrest'⟩

/-- A lexeme without blanks in front of it. -/
lemma spelled_append {l : Lexeme} {rest : List Char} (hspelled : Spelled l cs rest)
    (h : Layout (front ++ cs) rest ps last) : ∃ ps' last', Layout front (cs ++ rest) ps' last' :=
  have hgap : ∀ c ∈ ([] : List Char), Text.isBlank c = true := List.forall_mem_nil _
  ⟨_, last, .piece hgap hspelled h⟩

end Layout

/-- Every text has a layout. -/
lemma exists_layout (front cs : List Char) : ∃ ps last, Layout front cs ps last := by
  obtain ⟨ls, hls⟩ := exists_lexes cs
  induction hls generalizing front with
  | nil => exact ⟨[], [], .blanks (by simp)⟩
  | @blank c _ _ hc _ ih =>
      obtain ⟨ps, last, h⟩ := ih (front ++ [c])
      exact h.blank_cons hc
  | opening _ ih =>
      obtain ⟨ps, last, h⟩ := ih (front ++ ['('])
      exact Layout.spelled_append (.opening _) h
  | closing _ ih =>
      obtain ⟨ps, last, h⟩ := ih (front ++ [')'])
      exact Layout.spelled_append (.closing _) h
  | @string body cs _ hbody _ ih =>
      obtain ⟨ps, last, h⟩ := ih (front ++ '"' :: (body ++ ['"']))
      have h' := Layout.spelled_append (.string hbody cs) h
      rwa [List.cons_append, List.append_assoc, List.singleton_append] at h'
  | @unended body hbody =>
      have hend : Layout (front ++ '"' :: body) [] [] [] := .blanks (List.forall_mem_nil _)
      have h' := Layout.spelled_append (.unended hbody) hend
      rwa [List.append_nil] at h'
  | @word run _ _ hrun hcs _ ih =>
      obtain ⟨ps, last, h⟩ := ih (front ++ run)
      exact Layout.spelled_append (spelled_word hrun hcs) h

namespace Layout

variable {front cs last : List Char} {ps : List Piece}

/-- Scanning gives the tokens of a layout. -/
lemma scanFrom (h : Layout front cs ps last) :
    scanFrom (.behind front) cs = ps.map Piece.token := by
  induction h with
  | @blanks front last hlast =>
      have hend := scanFrom_blanks hlast (.behind front) []
      rw [List.append_nil] at hend
      rw [hend, Token.scanFrom]
      rfl
  | piece hgap hspelled _ ih =>
      rw [List.append_assoc, scanFrom_blanks hgap, hspelled.scanFrom, List.map_cons, ← ih,
        Position.behind_append, Position.behind_append, Position.after_append]

/-- Nothing is lost. -/
lemma chars (h : Layout front cs ps last) : cs = ps.flatMap Piece.chars ++ last := by
  induction h with
  | blanks => rfl
  | piece _ _ _ ih =>
      rw [List.flatMap_cons, List.append_assoc (Piece.chars _), ← ih]
      rfl

lemma isBlank_last (h : Layout front cs ps last) : ∀ c ∈ last, Text.isBlank c = true := by
  induction h with
  | blanks hlast => exact hlast
  | piece _ _ _ ih => exact ih

lemma eq_nil (h : Layout front [] ps last) : ps = [] ∧ last = [] := by
  have htokens := h.scanFrom
  rw [Token.scanFrom] at htokens
  obtain rfl := List.map_eq_nil_iff.mp htokens.symm
  exact ⟨rfl, h.chars.symm⟩

/-- What is said of each piece. -/
lemma of_split (h : Layout front cs ps last) {before after : List Piece} {p : Piece}
    (hps : ps = before ++ p :: after) :
    (∀ c ∈ p.gap, Text.isBlank c = true) ∧
      Spelled p.token.lexeme p.spelling (after.flatMap Piece.chars ++ last) ∧
      p.token.position = .behind (front ++ before.flatMap Piece.chars ++ p.gap) := by
  induction h generalizing before with
  | blanks => simp at hps
  | @piece front gap ds rest last l ps hgap hspelled hrest ih =>
      cases before with
      | nil =>
          obtain ⟨rfl, rfl⟩ := List.cons.inj hps
          rw [← hrest.chars, List.flatMap_nil, List.append_nil]
          exact ⟨hgap, hspelled, rfl⟩
      | cons q before =>
          obtain ⟨rfl, hrest⟩ := List.cons.inj hps
          obtain ⟨hp, hspelled, hplace⟩ := ih hrest
          refine ⟨hp, hspelled, ?_⟩
          rw [hplace, List.flatMap_cons, Piece.chars]
          simp only [List.append_assoc]

end Layout

/-- **Scanning loses nothing, and its places are exact**. The characters of a text are blanks and
the spellings of its tokens by turns: a parenthesis; a string in quotes, of which the second one may
only be missing at the end of the text; or a word that runs as far as it can, and is a number
exactly if it spells one. The place of each token is counted from the characters in front of it. -/
theorem scan_exact (cs : List Char) :
    ∃ (ps : List Piece) (last : List Char),
      cs = ps.flatMap Piece.chars ++ last ∧ (∀ c ∈ last, Text.isBlank c = true) ∧
      scan cs = ps.map Piece.token ∧
      ∀ before p after, ps = before ++ p :: after →
        (∀ c ∈ p.gap, Text.isBlank c = true) ∧
        Spelled p.token.lexeme p.spelling (after.flatMap Piece.chars ++ last) ∧
        p.token.position = .behind (before.flatMap Piece.chars ++ p.gap) := by
  obtain ⟨ps, last, h⟩ := exists_layout [] cs
  refine ⟨ps, last, h.chars, h.isBlank_last, h.scanFrom, fun before p after hps => ?_⟩
  exact h.of_split hps

/-! ### Line breaks -/

/-- The text ends inside a string: a quote opens the last lexeme, and there is no second one. -/
def EndsInString (cs : List Char) : Prop :=
  ∃ ps p body, Layout [] cs (ps ++ [p]) [] ∧ p.spelling = '"' :: body ∧ '"' ∉ body

lemma EndsInString.mem_quote {cs : List Char} (h : EndsInString cs) : '"' ∈ cs := by
  obtain ⟨ps, p, body, hlayout, hspelling, -⟩ := h
  rw [hlayout.chars, List.flatMap_append, List.flatMap_singleton, Piece.chars, hspelling]
  simp

/-- A line break behind a lexeme is not part of it, unless the lexeme is a string without an end. -/
lemma Spelled.newline {l : Lexeme} {cs rest : List Char} (h : Spelled l cs rest)
    (hended : rest = [] → ∀ body, cs = '"' :: body → '"' ∈ body) (ds : List Char) :
    Spelled l cs (rest ++ '\n' :: ds) := by
  have hstops : Stops rest → Stops (rest ++ '\n' :: ds) := by
    intro hrest
    cases rest with
    | nil => exact stops_blank ds (by decide)
    | cons c rest => simpa [Stops] using hrest
  cases h with
  | opening => exact .opening _
  | closing => exact .closing _
  | string hbody => exact .string hbody _
  | unended hbody => exact absurd (hended rfl _ rfl) hbody
  | number hrun hrest hvalue => exact .number hrun (hstops hrest) hvalue
  | identifier hrun hrest hvalue => exact .identifier hrun (hstops hrest) hvalue

/-- Where no string is left open, a text goes on behind a line break as if it started there. -/
lemma Layout.scanFrom_newline {front cs last : List Char} {ps : List Piece}
    (h : Layout front cs ps last)
    (hended : ∀ before p body, ps = before ++ [p] → last = [] → p.spelling = '"' :: body →
      '"' ∈ body)
    (p : Position) (ds : List Char) :
    Token.scanFrom p (cs ++ '\n' :: ds) =
      Token.scanFrom p cs ++ Token.scanFrom ((p.after cs).next '\n') ds := by
  induction h generalizing p with
  | @blanks front last hlast =>
      have hend := scanFrom_blanks hlast p []
      rw [List.append_nil, Token.scanFrom] at hend
      rw [hend, scanFrom_blanks hlast, scanFrom_blank (by decide), List.nil_append]
  | @piece front gap cs rest last l ps hgap hspelled hrest ih =>
      have hspelled' : Spelled l cs (rest ++ '\n' :: ds) := by
        refine hspelled.newline (fun hnil body hbody => ?_) ds
        subst hnil
        obtain ⟨rfl, rfl⟩ := hrest.eq_nil
        exact hended [] _ body rfl rfl hbody
      have hrest' := ih fun before q body hps => hended (_ :: before) q body (by rw [hps]; rfl)
      rw [List.append_assoc, List.append_assoc, List.append_assoc, scanFrom_blanks hgap,
        hspelled'.scanFrom, scanFrom_blanks hgap, hspelled.scanFrom, hrest', Position.after_append,
        Position.after_append]
      rfl

/-- The tokens of a text that goes on behind a line break. -/
lemma scan_newline {cs : List Char} (hcs : ¬ EndsInString cs) (ds : List Char) :
    scan (cs ++ '\n' :: ds) = scan cs ++ scanFrom (.behind (cs ++ ['\n'])) ds := by
  obtain ⟨ps, last, h⟩ := exists_layout [] cs
  rw [scan, scan, Position.behind_concat, ← List.nil_append cs, Position.behind_append,
    List.nil_append]
  refine h.scanFrom_newline (fun before p body hps hlast hspelling => ?_) .start ds
  by_contra hbody
  subst hps hlast
  exact hcs ⟨before, p, body, h, hspelling, hbody⟩

end Token

end PocketScheme
