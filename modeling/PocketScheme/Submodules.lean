import PocketScheme.Number.Printer
import PocketScheme.Text.CaseFold
import PocketScheme.Text.Letter
import PocketScheme.Text.Printable
import PocketScheme.TreePath

/-!
The file in which a repository lists the repositories inside it. The file has sections, whose
headers stand in brackets, and options with values below them.

* `Submodules.Fault`: what is wrong with such a file, and where;
* `Submodules.Token`: its words and marks;
* `Submodules.Entry`: headers and options;
* `Submodules.paths`: the paths of the repositories that a file lists.
-/

namespace PocketScheme.Submodules

/-- The name of the file. -/
def fileName : String := ".gitmodules"

/-! ### Faults -/

/-- What may be wrong at some place. -/
inductive Cause where
  | noSectionName
  | emptyName
  | noNameOrBracket
  | noBracket
  | noLineEnd
  | noHeader
  | noEquals
  | noHeaderOrOption
  | illegal (c : Char)
  | illegalNull
  | illegalBytes
  | openText
  | unknownEscape
  deriving DecidableEq, Repr

/-- The code of a character, with at least four digits. -/
def codeText (c : Char) : String :=
  let digits := (Nat.toDigits 16 c.toNat).map Char.toUpper
  "U+" ++ String.ofList (List.replicate (4 - digits.length) '0' ++ digits)

/-- The text of a cause. -/
def Cause.message : Cause → String
  | noSectionName => "expected section name"
  | emptyName => "empty subsection name"
  | noNameOrBracket => "expected subsection name or right bracket"
  | noBracket => "expected right bracket"
  | noLineEnd => "expected EOL, EOF, or comment"
  | noHeader => "expected section header"
  | noEquals => "expected '='"
  | noHeaderOrOption => "expected section header or variable declaration"
  | illegal c =>
    "illegal character " ++ codeText c ++
      (if Text.isPrintable c then " '" ++ String.ofList [c] ++ "'" else "")
  | illegalNull => "illegal character NUL"
  | illegalBytes => "illegal UTF-8 encoding"
  | openText => "string not terminated"
  | unknownEscape => "unknown escape sequence"

/-- A place in a file, from 1; columns count bytes. -/
structure Place where
  line : Nat
  column : Nat
  deriving DecidableEq, Repr

/-- A fault, and how many more there are in the same token. -/
structure Fault where
  place : Place
  cause : Cause
  more : Nat
  deriving DecidableEq, Repr

/-- The text of a fault. -/
def Fault.message (f : Fault) : String :=
  Number.natText f.place.line ++ ":" ++ Number.natText f.place.column ++ ": " ++ f.cause.message ++
    (if f.more == 0 then "" else " (and " ++ Number.natText f.more ++ " more errors)")

/-! ### Tokens -/

/-- The words and marks of a file. -/
inductive Token where
  | stop
  | lineEnd
  | word (t : Text)
  | text (t : Text)
  | openBracket
  | closeBracket
  | equals
  | stray
  deriving DecidableEq, Repr

/-- What is left of a file, and where that is; with the faults of the present token. -/
structure Cursor where
  rest : List Glyph
  place : Place
  faults : List (Place × Cause)

namespace Cursor

/-- Adds a fault. -/
def blame (s : Cursor) (p : Place) (cause : Cause) : Cursor :=
  { s with faults := s.faults ++ [(p, cause)] }

/-- Adds a fault if the next glyph is never allowed. -/
def checked (s : Cursor) : Cursor :=
  match s.rest.head? with
  | some (.byte _) => s.blame s.place .illegalBytes
  | some (.char '\x00') => s.blame s.place .illegalNull
  | _ => s

/-- The cursor behind the next glyph. -/
def next (s : Cursor) : Cursor :=
  match s.rest with
  | [] => s
  | g :: gs =>
    let place := if g == .char '\n' then ⟨s.place.line + 1, 1⟩
      else ⟨s.place.line, s.place.column + g.bytes.length⟩
    checked { s with rest := gs, place := place }

/-- The next glyph is a character. -/
def atChar (s : Cursor) (c : Char) : Bool :=
  s.rest.head? == some (.char c)

/-- The start of a file. -/
def start (content : Text) : Cursor :=
  checked ⟨content.toList, ⟨1, 1⟩, []⟩

/-- Blanks inside a line. -/
def isGap (g : Glyph) : Bool :=
  g == .char ' ' || g == .char '\t' || g == .char '\r'

/-- Moves behind glyphs that satisfy `p`, at most `fuel` of them; `taken` are those so far. -/
def takeWhile (p : Glyph → Bool) (taken : List Glyph) : Nat → Cursor → List Glyph × Cursor
  | 0, s => (taken, s)
  | fuel + 1, s =>
    match s.rest with
    | g :: _ => if p g then takeWhile p (taken ++ [g]) fuel s.next else (taken, s)
    | [] => (taken, s)

/-- Moves behind glyphs that satisfy `p`. -/
def skip (s : Cursor) (p : Glyph → Bool) : Cursor :=
  (takeWhile p [] s.rest.length s).2

/-- What an escaped character stands for. -/
def escaped : Glyph → Option (List Glyph)
  | .char '\\' => some [.char '\\']
  | .char '"' => some [.char '"']
  | .char '\n' => some []
  | .char 'n' => some [.char '\n']
  | .char 't' => some [.char '\t']
  | .char 'b' => some [.char '\x08']
  | _ => none

/-- Reads an escaped character behind a backslash. In names fewer characters may be escaped. -/
def escape (inName : Bool) (s : Cursor) : List Glyph × Cursor :=
  let letters : List Glyph := [.char 'n', .char 't', .char 'b']
  match s.rest.head?.filter (fun g => !(inName && letters.contains g)) with
  | some g =>
    match escaped g with
    | some gs => (gs, s.next)
    | none => ([], (s.blame s.place .unknownEscape).next)
  | none => ([], (s.blame s.place .unknownEscape).next)

/-- Reads a name up to its closing quote; `start` is the place of the opening one. -/
def name (start : Place) (taken : List Glyph) : Nat → Cursor → List Glyph × Cursor
  | 0, s => (taken, s)
  | fuel + 1, s =>
    match s.rest with
    | [] => (taken, s.blame start .openText)
    | .char '"' :: _ => (taken, s.next)
    | .char '\n' :: _ => (taken, (s.next.blame start .openText).next)
    | .char '\\' :: _ =>
      let (gs, s) := escape true s.next
      name start (taken ++ gs) fuel s
    | g :: _ => name start (taken ++ [g]) fuel s.next

/-- Reads the value of an option up to the end of the line or a comment. Quotes may stand around
parts of it, and blanks at the end do not count; `gaps` are those that may be at the end. -/
def value (start : Place) (quoted : Bool) (taken gaps : List Glyph) :
    Nat → Cursor → List Glyph × Cursor
  | 0, s => (taken, s)
  | fuel + 1, s =>
    match s.rest with
    | [] => (taken, if quoted then s.blame start .openText else s)
    | g :: _ =>
      if !quoted && (g == .char '\n' || g == .char ';' || g == .char '#') then (taken, s)
      else if quoted && g == .char '\n' then (taken, s.next.blame start .openText)
      else if g == .char '"' then value start (!quoted) (taken ++ gaps) [] fuel s.next
      else if g == .char '\\' then
        let (gs, s) := escape false s.next
        value start quoted (taken ++ gaps ++ gs) [] fuel s
      else if !quoted && isGap g then value start quoted taken (gaps ++ [g]) fuel s.next
      else value start quoted (taken ++ gaps ++ [g]) [] fuel s.next

/-- The glyphs of words. -/
def isWordStart (g : Glyph) : Bool :=
  g.satisfies fun c => c.isAlpha || (0x80 ≤ c.toNat && Text.isLetter c)

/-- The glyphs inside words. -/
def isWordPart (g : Glyph) : Bool :=
  isWordStart g || g.satisfies fun c => c.isDigit || c == '-'

/-- Passes blanks and comments. -/
def toToken : Nat → Cursor → Cursor
  | 0, s => s
  | fuel + 1, s =>
    let s := s.skip isGap
    if s.atChar ';' || s.atChar '#' then toToken fuel (s.skip (· != .char '\n')) else s

/-- Reads a token, which may have to be a value: its place, the token, and the cursor behind it. -/
def scan (asValue : Bool) (s : Cursor) : Place × Token × Cursor :=
  let s := if asValue then s.skip isGap else toToken (s.rest.length + 1) s
  let place := s.place
  if asValue then
    let (gs, s) := value place false [] [] (s.rest.length + 1) s
    (place, .text ⟨gs⟩, s)
  else match s.rest with
    | [] => (place, .stop, s)
    | g :: gs =>
      if isWordStart g then
        let (word, s) := takeWhile isWordPart [] (gs.length + 1) s
        (place, .word ⟨word⟩, s)
      else match g with
        | .char '\n' => (place, .lineEnd, s.next)
        | .char '"' =>
          let (gs, s) := name place [] (gs.length + 1) s.next
          (place, .text ⟨gs⟩, s)
        | .char '[' => (place, .openBracket, s.next)
        | .char ']' => (place, .closeBracket, s.next)
        | .char '=' => (place, .equals, s.next)
        | g => (place, .stray, s.next.blame place (.illegal g.shown))

end Cursor

/-! ### Entries -/

/-- What a file says: sections and options in them. A section may have a second name. -/
inductive Entry where
  | header (heading : Text) (name : Text)
  | option (heading : Text) (name : Text) (key value : Text)

/-- The state of reading: the cursor and the section. -/
structure Draft where
  cursor : Cursor
  heading : Text
  name : Text

/-- Fails at a place. -/
def fail {α : Type} (p : Place) (cause : Cause) : Except Fault α :=
  .error ⟨p, cause, 0⟩

/-- Goes on if no fault was found in a token. -/
def settle (s : Cursor) : Except Fault Unit :=
  match s.faults with
  | [] => .ok ()
  | (p, cause) :: faults => .error ⟨p, cause, faults.length⟩

/-- Reads a token in which there is no fault. -/
def scanWell (asValue : Bool) (s : Cursor) : Except Fault (Place × Token × Cursor) := do
  let (p, t, s) := s.scan asValue
  settle s
  return (p, t, s)

/-- The token ends a line. -/
def endsLine (t : Token) : Bool :=
  t == .lineEnd || t == .stop

/-- Reads the rest of a header behind its bracket. -/
def header (s : Cursor) : Except Fault (Text × Text × Cursor) := do
  let (p, t, s) ← scanWell false s
  match t with
  | .word heading =>
    let (p, t, s) ← scanWell false s
    let (name, p, t, s) ← match t with
      | .text name =>
        if name.isEmpty then fail p .emptyName
        else
          let (p, t, s) ← scanWell false s
          pure (name, p, t, s)
      | t => pure (("" : Text), p, t, s)
    if t != .closeBracket then fail p (if name.isEmpty then .noNameOrBracket else .noBracket)
    else
      let (p, t, after) := s.scan false
      if endsLine t then return (heading, name, after) else fail p .noLineEnd
  | _ => fail p .noSectionName

/-- Reads the rest of an option behind its key: the value, which is empty if there is none. -/
def optionValue (s : Cursor) : Except Fault (Text × Cursor) := do
  let (p, t, s) ← scanWell false s
  if endsLine t then return ("", s)
  else if t != .equals then fail p .noEquals
  else
    let (_, t, s) ← scanWell true s
    let v : Text := match t with
      | .text v => v
      | _ => ""
    let (p, t, s) ← scanWell false s
    if endsLine t then return (v, s) else fail p .noLineEnd

/-- The entries of a file from some place on. -/
def entriesFrom : Nat → Draft → Except Fault (List Entry)
  | 0, _ => .ok []
  | fuel + 1, d => do
    let (p, t, s) ← scanWell false d.cursor
    match t with
    | .stop => return []
    | .lineEnd => entriesFrom fuel { d with cursor := s }
    | .openBracket =>
      let (heading, name, s) ← header s
      let rest ← entriesFrom fuel ⟨s, heading, name⟩
      return .header heading name :: rest
    | .word key =>
      if d.heading.isEmpty then fail p .noHeader
      else
        let (v, s) ← optionValue s
        let rest ← entriesFrom fuel { d with cursor := s }
        return .option d.heading d.name key v :: rest
    | _ => fail p (if d.heading.isEmpty then .noHeader else .noHeaderOrOption)

/-- The entries of a file. -/
def entries (content : Text) : Except Fault (List Entry) :=
  entriesFrom (content.length + 1) ⟨.start content, "", ""⟩

/-! ### Repositories -/

/-- The section that lists repositories. -/
def isListed (heading : Text) : Bool :=
  Text.equalFold heading "submodule"

/-- The repository that an entry is about. -/
def Entry.repository? : Entry → Option Text
  | header s name | option s name _ _ => if isListed s && !name.isEmpty then some name else none

/-- An option of a repository, the last one that is given. -/
def optionOf (es : List Entry) (name : Text) (option : String) : Text :=
  let given := es.filterMap fun e =>
    match e with
    | .option s n key value =>
      if isListed s && n == name && Text.equalFold key option then some value else none
    | .header _ _ => none
  given.getLast?.getD ""

/-- The repository counts, unless its path leads upwards somewhere; without an address it counts all
the same. -/
def countsIn (es : List Entry) (name : Text) : Bool :=
  (optionOf es name "url").isEmpty || !TreePath.leadsUp (optionOf es name "path")

/-- The paths of the repositories that a file lists. -/
def paths (content : Text) : Except Fault (List Text) := do
  let es ← entries content
  let names := (es.filterMap Entry.repository?).foldl
    (fun (names : List Text) n => if names.contains n then names else names ++ [n]) []
  return (names.filter (countsIn es)).map fun name => optionOf es name "path"

end PocketScheme.Submodules
