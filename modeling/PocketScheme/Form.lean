import PocketScheme.Token.Lexer
import PocketScheme.Expr.Basic

/-!
Forms: what a sequence of tokens spells. An atom is a form by itself, and a parenthesis opens a
combination that runs to the matching one.

* `SyntaxFault`: an unmatched closing parenthesis, or a combination that is never closed;
* `Form.next?`: the first form, or the fault at its place, and the tokens after it;
* `Form.readAll`: the forms up to the first fault;
* `Form.readEach`: every form and every fault, going on after a fault.
-/

namespace PocketScheme

/-- What can be wrong with a sequence of tokens. -/
inductive SyntaxFault where
  /-- A closing parenthesis that closes nothing. -/
  | unexpectedClose (position : Position)
  /-- The innermost combination that is open at the end of the text. -/
  | unexpectedEnd (position : Position)
  deriving DecidableEq, Repr

namespace SyntaxFault

/-- The place of a fault. -/
def position : SyntaxFault → Position
  | unexpectedClose p => p
  | unexpectedEnd p => p

/-- The text ended too early. -/
def isEnd : SyntaxFault → Bool
  | unexpectedEnd _ => true
  | unexpectedClose _ => false

/-- The text of a fault. -/
def message : SyntaxFault → String
  | unexpectedClose p => "unexpected ')' at " ++ p.render
  | unexpectedEnd p => "unexpected end of input at " ++ p.render

end SyntaxFault

namespace Form

/-- A combination being read: the place of its parenthesis and its elements so far, the last one
first. -/
structure Open where
  position : Position
  elements : List Expr

/-- The combination with a further element. -/
def Open.add (o : Open) (e : Expr) : Open :=
  { o with elements := e :: o.elements }

/-- The finished combination. -/
def Open.close (o : Open) : Expr :=
  .combination o.elements.reverse

/-- The form that a lexeme other than a parenthesis spells. -/
def atom : Lexeme → Expr
  | .identifier text => .identifier text
  | .string text => .string text
  | .number _ value => .number value
  | .openParen | .closeParen => .void

/-- Reads on inside the combination `top`, which stands inside `outer`, and gives back the
outermost combination once it is closed, with the tokens after it. -/
def group (top : Open) (outer : List Open) : List Token → Except SyntaxFault Expr × List Token
  | [] => (.error (.unexpectedEnd top.position), [])
  | t :: ts =>
    match t.lexeme with
    | .openParen => group ⟨t.position, []⟩ (top :: outer) ts
    | .closeParen =>
      match outer with
      | [] => (.ok top.close, ts)
      | o :: os => group (o.add top.close) os ts
    | l => group (top.add (atom l)) outer ts

/-- The first form, or the fault in its place, with the tokens after it; nothing at the end. -/
def next? : List Token → Option (Except SyntaxFault Expr × List Token)
  | [] => none
  | t :: ts =>
    match t.lexeme with
    | .openParen => some (group ⟨t.position, []⟩ [] ts)
    | .closeParen => some (.error (.unexpectedClose t.position), ts)
    | l => some (.ok (atom l), ts)

theorem group_length_le (ts : List Token) :
    ∀ (top : Open) (outer : List Open), (group top outer ts).2.length ≤ ts.length := by
  induction ts with
  | nil => intro top outer; simp [group]
  | cons t ts ih =>
    intro top outer
    unfold group
    split
    · exact Nat.le_succ_of_le (ih _ _)
    · split
      · exact Nat.le_succ _
      · exact Nat.le_succ_of_le (ih _ _)
    · exact Nat.le_succ_of_le (ih _ _)

/-- Reading a form uses up at least one token. -/
theorem next?_length_lt {ts rest : List Token} {r : Except SyntaxFault Expr}
    (h : next? ts = some (r, rest)) : rest.length < ts.length := by
  cases ts with
  | nil => simp [next?] at h
  | cons t ts =>
    rw [next?] at h
    split at h <;> simp only [Option.some.injEq, Prod.mk.injEq] at h
    · have := group_length_le ts ⟨t.position, []⟩ []
      rw [h] at this
      exact Nat.lt_succ_of_le this
    · obtain ⟨_, rfl⟩ := h; exact Nat.lt_succ_self _
    · obtain ⟨_, rfl⟩ := h; exact Nat.lt_succ_self _

/-- Every form and every fault, going on after a fault. -/
def readEach (ts : List Token) : List (Except SyntaxFault Expr) :=
  match _h : next? ts with
  | none => []
  | some (r, rest) => r :: readEach rest
termination_by ts.length
decreasing_by exact next?_length_lt ‹_›

/-- The forms in front of the first fault, and that fault. -/
def untilFault : List (Except SyntaxFault Expr) → List Expr × Option SyntaxFault
  | [] => ([], none)
  | .error fault :: _ => ([], some fault)
  | .ok e :: rest =>
    let (es, fault) := untilFault rest
    (e :: es, fault)

/-- The forms of a text up to the first fault, and that fault. -/
def readAll (cs : List Char) : List Expr × Option SyntaxFault :=
  untilFault (readEach (Token.scan cs))

end Form

end PocketScheme
