import PocketScheme.Token.Basic
import PocketScheme.Text.Blank

/-!
Reading tokens. A quote opens a string that runs to the next quote or the end of the text;
parentheses stand for themselves; anything else runs to the next blank or parenthesis and is a
number if it spells one, and otherwise an identifier.
-/

namespace PocketScheme.Token

/-- The characters that go on an identifier or a number. -/
def isPlain (c : Char) : Bool :=
  !(Text.isBlank c || c == '(' || c == ')')

/-- The lexeme of a run of plain characters. -/
def word (cs : List Char) : Lexeme :=
  let text := String.ofList cs
  match Number.ofChars? cs with
  | some value => .number text value
  | none => .identifier text

/-- The tokens of a text whose first character is at `p`. -/
def scanFrom (p : Position) : List Char → List Token
  | [] => []
  | c :: cs =>
    if Text.isBlank c then scanFrom (p.next c) cs
    else if c == '(' then ⟨.openParen, p⟩ :: scanFrom (p.next c) cs
    else if c == ')' then ⟨.closeParen, p⟩ :: scanFrom (p.next c) cs
    else if c == '"' then
      let body := cs.takeWhile (· != '"')
      let rest := cs.dropWhile (· != '"')
      ⟨.string (String.ofList body), p⟩ ::
        scanFrom ((p.next c).after (body ++ rest.take 1)) (rest.drop 1)
    else
      let run := cs.takeWhile isPlain
      ⟨word (c :: run), p⟩ :: scanFrom ((p.next c).after run) (cs.dropWhile isPlain)
termination_by cs => cs.length
decreasing_by
  all_goals simp only [List.length_cons, List.length_drop]
  all_goals first
    | omega
    | (have h := (List.dropWhile_sublist (l := cs) (· != '"')).length_le; omega)
    | (have h := (List.dropWhile_sublist (l := cs) isPlain).length_le; omega)

/-- The tokens of a text. -/
def scan (cs : List Char) : List Token :=
  scanFrom .start cs

end PocketScheme.Token
