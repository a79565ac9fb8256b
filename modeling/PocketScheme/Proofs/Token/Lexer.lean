import PocketScheme.Proofs.Number.Spelling
import Mathlib.Data.List.TakeWhile

/-!
The lexical grammar, and texts that are cut at a line break.

* `Stops`: what ends a word;
* `Lexes`: which lexemes a text is made of;
* `lexemes`, `lexes_iff`: scanning finds these and no others;
* `Breaks`, `Lexes.breaks`: a line break keeps the lexemes on both sides apart, unless it stands in
  a string.
-/

namespace PocketScheme

lemma Position.after_cons (p : Position) (c : Char) (cs : List Char) :
    p.after (c :: cs) = (p.next c).after cs := rfl

namespace Token

/-! ### Scanning one lexeme -/

/-- A word in front of these characters ends there. -/
def Stops (cs : List Char) : Prop :=
  ∀ c ∈ cs.head?, isPlain c = false

lemma stops_nil : Stops [] := by simp [Stops]

lemma stops_blank {c : Char} (cs : List Char) (hc : Text.isBlank c = true) : Stops (c :: cs) := by
  simp [Stops, isPlain, hc]

lemma stops_close (cs : List Char) : Stops (')' :: cs) := by
  intro c hc
  obtain rfl : ')' = c := by simpa using hc
  decide

lemma scanFrom_blank {c : Char} (hc : Text.isBlank c = true) (p : Position) (cs : List Char) :
    scanFrom p (c :: cs) = scanFrom (p.next c) cs := by
  rw [scanFrom, if_pos hc]

lemma scanFrom_open (p : Position) (cs : List Char) :
    scanFrom p ('(' :: cs) = ⟨.openParen, p⟩ :: scanFrom (p.next '(') cs := by
  rw [scanFrom, if_neg (by decide), if_pos (by decide)]

lemma scanFrom_close (p : Position) (cs : List Char) :
    scanFrom p (')' :: cs) = ⟨.closeParen, p⟩ :: scanFrom (p.next ')') cs := by
  rw [scanFrom, if_neg (by decide), if_neg (by decide), if_pos (by decide)]

/-- No character of the body ends the string. -/
lemma ne_quote_of_not_mem {body : List Char} (hbody : '"' ∉ body) : ∀ c ∈ body, (c != '"') = true :=
  fun _ hc => bne_iff_ne.mpr fun h => hbody (h ▸ hc)

/-- A string runs to the next quote. -/
lemma scanFrom_string {body : List Char} (hbody : '"' ∉ body) (p : Position) (cs : List Char) :
    scanFrom p ('"' :: (body ++ '"' :: cs)) =
      ⟨.string (String.ofList body), p⟩ :: scanFrom ((p.next '"').after (body ++ ['"'])) cs := by
  rw [scanFrom, if_neg (by decide), if_neg (by decide), if_neg (by decide), if_pos (by decide),
    List.takeWhile_append_of_pos (ne_quote_of_not_mem hbody),
    List.dropWhile_append_of_pos (ne_quote_of_not_mem hbody)]
  simp

/-- A string without a second quote runs to the end. -/
lemma scanFrom_unended {body : List Char} (hbody : '"' ∉ body) (p : Position) :
    scanFrom p ('"' :: body) = [⟨.string (String.ofList body), p⟩] := by
  rw [scanFrom, if_neg (by decide), if_neg (by decide), if_neg (by decide), if_pos (by decide),
    List.takeWhile_eq_self_iff.mpr (ne_quote_of_not_mem hbody),
    List.dropWhile_eq_nil_iff.mpr (ne_quote_of_not_mem hbody)]
  simp [scanFrom]

/-- A word runs to whatever stops it. -/
lemma scanFrom_word {run : List Char} (hrun : IsWord run) {cs : List Char} (hcs : Stops cs)
    (p : Position) : scanFrom p (run ++ cs) = ⟨word run, p⟩ :: scanFrom (p.after run) cs := by
  obtain ⟨hne, hquote, hplain⟩ := hrun
  obtain ⟨c, run, rfl⟩ := List.exists_cons_of_ne_nil hne
  have hrun : ∀ d ∈ run, isPlain d = true := fun d hd => hplain d (by simp [hd])
  have hc := hplain c (by simp)
  simp only [isPlain, Bool.not_eq_true', Bool.or_eq_false_iff] at hc
  have hc' : (c == '"') = false := by simpa using hquote
  have htake : cs.takeWhile isPlain = [] := by
    cases cs with
    | nil => rfl
    | cons d cs => rw [List.takeWhile_cons_of_neg]; simpa using hcs d (by simp)
  have hdrop : cs.dropWhile isPlain = cs := by
    cases cs with
    | nil => rfl
    | cons d cs => rw [List.dropWhile_cons_of_neg]; simpa using hcs d (by simp)
  rw [List.cons_append, scanFrom, Position.after_cons]
  simp only [hc.1.1, hc.1.2, hc.2, hc', Bool.false_eq_true, if_false,
    List.takeWhile_append_of_pos hrun, List.dropWhile_append_of_pos hrun, htake, hdrop,
    List.append_nil]

/-! ### The lexical grammar -/

/-- The text is made of these lexemes. -/
inductive Lexes : List Char → List Lexeme → Prop
  | nil : Lexes [] []
  | blank {c : Char} {cs : List Char} {ls : List Lexeme} (hc : Text.isBlank c = true)
      (h : Lexes cs ls) : Lexes (c :: cs) ls
  | opening {cs : List Char} {ls : List Lexeme} (h : Lexes cs ls) :
      Lexes ('(' :: cs) (.openParen :: ls)
  | closing {cs : List Char} {ls : List Lexeme} (h : Lexes cs ls) :
      Lexes (')' :: cs) (.closeParen :: ls)
  | string {body cs : List Char} {ls : List Lexeme} (hbody : '"' ∉ body) (h : Lexes cs ls) :
      Lexes ('"' :: (body ++ '"' :: cs)) (.string (String.ofList body) :: ls)
  | unended {body : List Char} (hbody : '"' ∉ body) :
      Lexes ('"' :: body) [.string (String.ofList body)]
  | word {run cs : List Char} {ls : List Lexeme} (hrun : IsWord run) (hcs : Stops cs)
      (h : Lexes cs ls) : Lexes (run ++ cs) (Token.word run :: ls)

/-- Scanning finds the lexemes, wherever the text starts. -/
lemma Lexes.lexeme_scanFrom {cs : List Char} {ls : List Lexeme} (h : Lexes cs ls) (p : Position) :
    (scanFrom p cs).map lexeme = ls := by
  induction h generalizing p with
  | nil => rw [scanFrom]; rfl
  | blank hc _ ih => rw [scanFrom_blank hc, ih]
  | opening _ ih => rw [scanFrom_open, List.map_cons, ih]
  | closing _ ih => rw [scanFrom_close, List.map_cons, ih]
  | string hbody _ ih => rw [scanFrom_string hbody, List.map_cons, ih]
  | unended hbody => rw [scanFrom_unended hbody]; rfl
  | word hrun hcs _ ih => rw [scanFrom_word hrun hcs, List.map_cons, ih]

/-- Characters behind a quote: either there is a second one, or the string has no end. -/
lemma exists_second_quote (cs : List Char) :
    (∃ body rest, cs = body ++ '"' :: rest ∧ '"' ∉ body) ∨ '"' ∉ cs := by
  by_cases h : '"' ∈ cs
  · obtain ⟨body, rest, hcs, hbody⟩ := List.eq_append_cons_of_mem h
    exact .inl ⟨body, rest, hcs, hbody⟩
  · exact .inr h

/-- Every text is made of lexemes. -/
lemma exists_lexes (cs : List Char) : ∃ ls, Lexes cs ls := by
  induction hn : cs.length using Nat.strong_induction_on generalizing cs with
  | _ n ih =>
    subst hn
    cases cs with
    | nil => exact ⟨[], .nil⟩
    | cons c cs =>
        have hrest : ∀ rest : List Char, rest.length ≤ cs.length → ∃ ls, Lexes rest ls :=
          fun rest h => ih rest.length (Nat.lt_succ_of_le h) rest rfl
        by_cases hblank : Text.isBlank c = true
        · obtain ⟨ls, hls⟩ := hrest cs (Nat.le_refl _)
          exact ⟨ls, .blank hblank hls⟩
        by_cases hopen : c = '('
        · obtain ⟨ls, hls⟩ := hrest cs (Nat.le_refl _)
          subst hopen
          exact ⟨_, .opening hls⟩
        by_cases hclose : c = ')'
        · obtain ⟨ls, hls⟩ := hrest cs (Nat.le_refl _)
          subst hclose
          exact ⟨_, .closing hls⟩
        by_cases hquote : c = '"'
        · subst hquote
          rcases exists_second_quote cs with ⟨body, rest, rfl, hbody⟩ | hbody
          · have hlen : rest.length ≤ (body ++ '"' :: rest).length := by
              rw [List.length_append, List.length_cons]
              omega
            obtain ⟨ls, hls⟩ := hrest rest hlen
            exact ⟨_, .string hbody hls⟩
          · exact ⟨_, .unended hbody⟩
        · have hword : IsWord (c :: cs.takeWhile isPlain) := by
            refine ⟨List.cons_ne_nil _ _, by simpa using hquote, fun d hd => ?_⟩
            rcases List.mem_cons.mp hd with rfl | hd
            · simp [isPlain, hblank, hopen, hclose]
            · exact List.mem_takeWhile_imp hd
          have hstops : Stops (cs.dropWhile isPlain) := by
            intro d hd
            have hhead := List.head?_dropWhile_not isPlain cs
            rw [Option.mem_def.mp hd] at hhead
            exact hhead
          obtain ⟨ls, hls⟩ := hrest _ (List.dropWhile_sublist isPlain).length_le
          have h := Lexes.word hword hstops hls
          rw [List.cons_append, List.takeWhile_append_dropWhile] at h
          exact ⟨_, h⟩

/-- The lexemes of a text. -/
def lexemes (cs : List Char) : List Lexeme :=
  (scan cs).map lexeme

lemma lexes_iff {cs : List Char} {ls : List Lexeme} : Lexes cs ls ↔ ls = lexemes cs := by
  obtain ⟨ls', hls'⟩ := exists_lexes cs
  have heq : lexemes cs = ls' := hls'.lexeme_scanFrom .start
  refine ⟨fun h => (h.lexeme_scanFrom .start).symm, fun h => ?_⟩
  rw [h, heq]
  exact hls'

lemma lexemes_nil : lexemes [] = [] :=
  (lexes_iff.mp .nil).symm

/-! ### Line breaks -/

/-- A line break behind the text keeps the lexemes on both sides apart, or it stands in a string.
Then this string is the last lexeme of the text, and goes on behind the line break. -/
def Breaks (cs : List Char) (ls : List Lexeme) : Prop :=
  (∀ ds ms, Lexes ds ms → Lexes (cs ++ '\n' :: ds) (ls ++ ms)) ∨
    ∃ front v, ls = front ++ [.string v] ∧ ∀ ds, ∃ w ms, '\n' ∈ w.toList ∧
      Lexes (cs ++ '\n' :: ds) (front ++ .string w :: ms)

/-- What stands further in front does not matter. -/
lemma Breaks.prepend {cs : List Char} {ls : List Lexeme} (h : Breaks cs ls) (pre : List Char)
    (ks : List Lexeme)
    (hpre : ∀ ds ms, Lexes (cs ++ '\n' :: ds) ms → Lexes (pre ++ (cs ++ '\n' :: ds)) (ks ++ ms)) :
    Breaks (pre ++ cs) (ks ++ ls) := by
  rcases h with h | ⟨front, v, rfl, h⟩
  · refine .inl fun ds ms hds => ?_
    rw [List.append_assoc, List.append_assoc]
    exact hpre ds _ (h ds ms hds)
  · refine .inr ⟨ks ++ front, v, by rw [List.append_assoc], fun ds => ?_⟩
    obtain ⟨w, ms, hw, hds⟩ := h ds
    refine ⟨w, ms, hw, ?_⟩
    rw [List.append_assoc, List.append_assoc]
    exact hpre ds _ hds

lemma Lexes.breaks {cs : List Char} {ls : List Lexeme} (h : Lexes cs ls) : Breaks cs ls := by
  induction h with
  | nil => exact .inl fun ds ms hds => .blank (by decide) hds
  | @blank c _ _ hc _ ih => exact ih.prepend [c] [] fun ds ms h => .blank hc h
  | opening _ ih => exact ih.prepend ['('] [.openParen] fun ds ms h => .opening h
  | closing _ ih => exact ih.prepend [')'] [.closeParen] fun ds ms h => .closing h
  | @string body cs ls hbody _ ih =>
      have h := ih.prepend ('"' :: (body ++ ['"'])) [.string (String.ofList body)] fun ds ms h => by
        simpa using Lexes.string hbody h
      simpa using h
  | @unended body hbody =>
      refine .inr ⟨[], String.ofList body, rfl, fun ds => ?_⟩
      rcases exists_second_quote ds with ⟨more, rest, rfl, hmore⟩ | hds
      · obtain ⟨ms, hms⟩ := exists_lexes rest
        refine ⟨String.ofList (body ++ '\n' :: more), ms, by simp, ?_⟩
        have h : Lexes ('"' :: (body ++ '\n' :: more ++ '"' :: rest)) _ :=
          .string (by simp [hbody, hmore]) hms
        simpa using h
      · exact ⟨String.ofList (body ++ '\n' :: ds), [], by simp, .unended (by simp [hbody, hds])⟩
  | @word run cs ls hrun hcs _ ih =>
      have hstops : ∀ ds, Stops (cs ++ '\n' :: ds) := by
        intro ds
        cases cs with
        | nil => exact stops_blank ds (by decide)
        | cons d cs => simpa [Stops] using hcs
      exact ih.prepend run [Token.word run] fun ds ms h => .word hrun (hstops ds) h

end Token

end PocketScheme
