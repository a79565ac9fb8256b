import PocketScheme.Proofs.Form.Parts
import PocketScheme.Proofs.Token.Layout

/-!
Two texts with a line break between them. Reading the second one does not depend on what stands in
front of it, except that its faults are some lines further down.

* `Position.down`, `Token.down`, `SyntaxFault.down`: what is the same, some lines further down;
* `Token.scan_joined`: the tokens of both texts;
* `Form.group_down`, `Form.next?_down`, `Form.readEach_down`: a step, a form and a whole text that
  is read further down;
* `Form.readEach_joined`, `Form.readAll_joined`: the forms of both texts.
-/

namespace PocketScheme

/-! ### Places further down -/

/-- The same column, some lines further down. -/
def Position.down (lines : Nat) (p : Position) : Position :=
  ⟨p.line + lines, p.column⟩

/-- The same token, some lines further down. -/
def Token.down (lines : Nat) (t : Token) : Token :=
  ⟨t.lexeme, t.position.down lines⟩

/-- The same fault, some lines further down. -/
def SyntaxFault.down (lines : Nat) : SyntaxFault → SyntaxFault
  | unexpectedClose p => unexpectedClose (p.down lines)
  | unexpectedEnd p => unexpectedEnd (p.down lines)

/-- The number of lines of a text, of which the last one may be empty. -/
def lineCount (cs : List Char) : Nat :=
  1 + cs.count '\n'

namespace Position

lemma next_down (lines : Nat) (p : Position) (c : Char) :
    (p.down lines).next c = (p.next c).down lines := by
  by_cases hc : c == '\n'
  · rw [next, next, if_pos hc, if_pos hc, down, down, Nat.add_right_comm]
  · rw [next, next, if_neg hc, if_neg hc, down, down]

lemma after_down (lines : Nat) (p : Position) (cs : List Char) :
    (p.down lines).after cs = (p.after cs).down lines := by
  induction cs generalizing p with
  | nil => rfl
  | cons c cs ih => rw [after_cons, after_cons, next_down, ih]

/-- Behind a line break, the first column of the next line. -/
lemma behind_newline (cs : List Char) : behind (cs ++ ['\n']) = start.down (lineCount cs) := by
  rw [behind_concat, behind, next, if_pos (by decide), down, start, lineCount, Nat.add_comm]

end Position

namespace Token

/-- Scanning further down gives the same tokens, further down. -/
lemma scanFrom_down (lines : Nat) (p : Position) (cs : List Char) :
    scanFrom (p.down lines) cs = (scanFrom p cs).map (down lines) := by
  obtain ⟨ps, last, h⟩ := exists_layout [] cs
  generalize ([] : List Char) = front at h
  induction h generalizing p with
  | @blanks front last hlast =>
      have hend : ∀ q, scanFrom q last = [] := by
        intro q
        rw [← List.append_nil last, scanFrom_blanks hlast, scanFrom]
      rw [hend, hend, List.map_nil]
  | piece hgap hspelled _ ih =>
      rw [List.append_assoc, scanFrom_blanks hgap, scanFrom_blanks hgap, Position.after_down,
        hspelled.scanFrom, hspelled.scanFrom, Position.after_down, ih, List.map_cons]
      rfl

/-- The tokens of a text that does not end inside a string, and those of what follows it. -/
lemma scan_joined {cs : List Char} (hcs : ¬ EndsInString cs) (ds : List Char) :
    scan (cs ++ '\n' :: ds) = scan cs ++ (scan ds).map (down (lineCount cs)) := by
  rw [scan_newline hcs, Position.behind_newline, scanFrom_down]
  rfl

end Token

/-! ### Reading further down -/

namespace Form

open Token

/-- The same combination, some lines further down. -/
def Open.down (lines : Nat) (o : Open) : Open :=
  ⟨o.position.down lines, o.elements⟩

/-- The same form, or the same fault some lines further down. -/
abbrev lowered (lines : Nat) : Except SyntaxFault Expr → Except SyntaxFault Expr :=
  Except.mapError (SyntaxFault.down lines)

lemma group_down (lines : Nat) (top : Open) (outer : List Open) (ts : List Token) :
    group (top.down lines) (outer.map (Open.down lines)) (ts.map (Token.down lines)) =
      (group top outer ts).map (lowered lines) (List.map (Token.down lines)) := by
  induction ts generalizing top outer with
  | nil => rfl
  | cons t ts ih =>
      rcases t.opens_or_closes_or_isLeaf with ho | hc | hl
      · have ho' : (t.down lines).Opens := ho
        rw [List.map_cons, group_opens ho', group_opens ho]
        exact ih ⟨t.position, []⟩ (top :: outer)
      · have hc' : (t.down lines).Closes := hc
        cases outer with
        | nil =>
            rw [List.map_cons, List.map_nil, group_closes_last hc', group_closes_last hc]
            rfl
        | cons o outer =>
            rw [List.map_cons, List.map_cons, group_closes hc', group_closes hc]
            exact ih (o.add top.close) outer
      · have hl' : (t.down lines).IsLeaf := hl
        rw [List.map_cons, group_atom hl', group_atom hl]
        exact ih (top.add (atom t.lexeme)) outer

lemma next?_down (lines : Nat) (ts : List Token) :
    next? (ts.map (Token.down lines)) =
      (next? ts).map (Prod.map (lowered lines) (List.map (Token.down lines))) := by
  cases ts with
  | nil => rfl
  | cons t ts =>
      rcases t.opens_or_closes_or_isLeaf with ho | hc | hl
      · have ho' : (t.down lines).Opens := ho
        rw [List.map_cons, next?_opens ho', next?_opens ho]
        exact congrArg some (group_down lines ⟨t.position, []⟩ [] ts)
      · have hc' : (t.down lines).Closes := hc
        rw [List.map_cons, next?_closes hc', next?_closes hc]
        rfl
      · have hl' : (t.down lines).IsLeaf := hl
        rw [List.map_cons, next?_atom hl', next?_atom hl]
        rfl

/-- Reading further down gives the same forms, and the same faults further down. -/
lemma readEach_down (lines : Nat) (ts : List Token) :
    readEach (ts.map (Token.down lines)) = (readEach ts).map (lowered lines) := by
  induction hn : ts.length using Nat.strong_induction_on generalizing ts with
  | _ n ih =>
    subst hn
    have hdown := next?_down lines ts
    cases hnext : next? ts with
    | none =>
        obtain rfl := eq_nil_of_next? hnext
        rw [List.map_nil, readEach_nil, List.map_nil]
    | some found =>
        obtain ⟨r, rest⟩ := found
        rw [hnext, Option.map_some, Prod.map_apply] at hdown
        rw [readEach_of_next? hdown, readEach_of_next? hnext, List.map_cons,
          ih rest.length (next?_length_lt hnext) rest rfl]

lemma untilFault_lowered (lines : Nat) (rs : List (Except SyntaxFault Expr)) :
    untilFault (rs.map (lowered lines)) =
      ((untilFault rs).1, (untilFault rs).2.map (SyntaxFault.down lines)) := by
  induction rs with
  | nil => rfl
  | cons r rs ih =>
      cases r with
      | error fault => rfl
      | ok e =>
          have hok : lowered lines (.ok e) = .ok e := rfl
          rw [List.map_cons, hok, untilFault, untilFault, ih]

/-- Where the first text is read without a fault, the forms of both texts, one after the other. -/
lemma readEach_joined {cs : List Char} (hread : (readAll cs).2 = none)
    (hcs : ¬ EndsInString cs) (ds : List Char) :
    readEach (scan (cs ++ '\n' :: ds)) =
      (readAll cs).1.map .ok ++ (readEach (scan ds)).map (lowered (lineCount cs)) := by
  have hwhole : Balanced (scan cs) := balanced_scan_iff.mpr (isWhole_of_readAll hread)
  obtain ⟨es, hes⟩ := hwhole.exists_flattenList
  have hforms : (readAll cs).1 = es := by
    rw [readAll, readEach_flattenList hes, untilFault_map_ok]
  rw [scan_joined hcs, readEach_append hes, readEach_down, hforms]

/-- The forms of both texts, and what is wrong with the second one. -/
lemma readAll_joined {cs : List Char} (hread : (readAll cs).2 = none) (hcs : ¬ EndsInString cs)
    (ds : List Char) :
    readAll (cs ++ '\n' :: ds) =
      ((readAll cs).1 ++ (readAll ds).1, (readAll ds).2.map (SyntaxFault.down (lineCount cs))) := by
  rw [readAll, readEach_joined hread hcs, untilFault_append, untilFault_lowered]
  rfl

end Form

end PocketScheme
