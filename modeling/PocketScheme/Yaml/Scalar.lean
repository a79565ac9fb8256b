import PocketScheme.Text.Quoted
import PocketScheme.Yaml.Source

/-!
The three spellings of a scalar: plain, in quotes, and as a block of lines.

* `Gap`: blanks and line breaks inside a scalar, and what they come to;
* `plain`: a scalar without quotes;
* `quoted`: a scalar in single or double quotes;
* `block`: a literal or folded block.

Each reader fails on a malformed scalar.
-/

namespace PocketScheme.Yaml

open Reading

/-! ### Gaps -/

/-- Blanks and then line breaks between two words of a scalar, each list in reverse. Blanks after a
line break are not kept. -/
structure Gap where
  blanks : List Char
  breaks : List Char

namespace Gap

/-- No gap. -/
def none : Gap := ⟨[], []⟩

/-- The gap holds a line break. -/
def hasBreak (g : Gap) : Bool :=
  !g.breaks.isEmpty

/-- The gap with a further blank. -/
def addBlank (g : Gap) (c : Char) : Gap :=
  if g.hasBreak then g else { g with blanks := c :: g.blanks }

/-- The gap with a further line break; blanks in front of it go. -/
def addBreak (g : Gap) (cs : List Char) : Gap :=
  ⟨[], cs ++ g.breaks⟩

/-- What a gap comes to: blanks stay, one newline is a space, and of several the first one goes. -/
def fold (g : Gap) : List Char :=
  match g.breaks.reverse with
  | [] => g.blanks.reverse
  | '\n' :: [] => [' ']
  | '\n' :: rest => rest
  | all => all

end Gap

/-- Reads on in a gap; where `refused` holds, a tab is malformed. -/
def gapFrom (refused : Gap → Nat → Bool) : Nat → Gap → Reading Gap
  | 0, g => return g
  | fuel + 1, g => do
    ensure 1
    let c ← look
    if isBreak c then
      let cs ← takeLine
      gapFrom refused fuel (g.addBreak cs)
    else if isGap c then
      let m ← here
      require (!(c == '\t' && refused g m.column))
      pass
      gapFrom refused fuel (g.addBlank c)
    else return g

/-! ### Plain scalars -/

/-- The characters that end a plain scalar inside brackets. -/
def isFlowEnd (c : Char) : Bool :=
  c == ',' || c == '?' || c == '[' || c == ']' || c == '\x7b' || c == '\x7d'

/-- A scalar being read: its text so far, in reverse, and the gap after it. -/
structure Partial where
  text : List Char
  gap : Gap

namespace Partial

/-- Nothing is read yet. -/
def start : Partial := ⟨[], .none⟩

/-- The scalar with a further character, behind what the gap comes to. -/
def add (p : Partial) (c : Char) : Partial :=
  ⟨c :: p.gap.fold.reverse ++ p.text, .none⟩

end Partial

/-- Reads on in a word of a plain scalar, which ends in front of a separator, a colon at the end of
a word, and inside brackets some characters more. -/
def plainWord (flow : Bool) : Nat → Partial → Reading Partial
  | 0, p => return p
  | fuel + 1, p => do
    let c ← look
    let next ← lookAt 1
    if endsWord c || (c == ':' && endsWord next) || (flow && isFlowEnd c) then return p
    else
      pass
      ensure 2
      plainWord flow fuel (p.add c)

/-- Reads on in a plain scalar whose lines have to start at column `indent` at least. A line that
divides documents ends it, and so does a comment. -/
def plainFrom (flow : Bool) (indent : Int) : Nat → Partial → Reading Partial
  | 0, p => return p
  | fuel + 1, p => do
    ensure 4
    let s ← get
    if s.atDivider || s.char == '#' then return p
    else
      let p ← plainWord flow s.size p
      let c ← look
      if !isSeparator c then return p
      else
        let refused (g : Gap) (column : Nat) : Bool :=
          g.hasBreak && decide ((column : Int) < indent)
        let gap ← gapFrom refused s.size p.gap
        let m ← here
        if !flow && decide ((m.column : Int) < indent) then return ⟨p.text, gap⟩
        else plainFrom flow indent fuel ⟨p.text, gap⟩

/-- A plain scalar at the cursor: its text, and whether it ends on a later line. -/
def plain (flow : Bool) (indent : Int) : Reading (String × Bool) := do
  let p ← plainFrom flow indent (← get).size .start
  return (String.ofList p.text.reverse, p.gap.hasBreak)

/-! ### Quoted scalars -/

/-- The character that follows a backslash and stands for one character. -/
def escaped? (c : Char) : Option Char :=
  match c with
  | '0' => some '\x00'
  | 'a' => some '\x07'
  | 'b' => some '\x08'
  | 't' | '\t' => some '\t'
  | 'n' => some '\n'
  | 'v' => some '\x0b'
  | 'f' => some '\x0c'
  | 'r' => some '\r'
  | 'e' => some '\x1b'
  | ' ' => some ' '
  | '"' => some '"'
  | '\x27' => some '\x27'
  | '\\' => some '\\'
  | 'N' => some '\u0085'
  | '_' => some '\u00a0'
  | 'L' => some '\u2028'
  | 'P' => some '\u2029'
  | _ => none

/-- The number of hexadecimal digits that a letter after a backslash asks for. -/
def codeLength? (c : Char) : Option Nat :=
  match c with
  | 'x' => some 2
  | 'u' => some 4
  | 'U' => some 8
  | _ => none

/-- The character with a code, which is no surrogate. -/
def codeChar? (n : Nat) : Option Char :=
  Text.scalar 0 n

/-- The character that an escape at the cursor stands for. -/
def escape : Reading Char := do
  let c ← lookAt 1
  match escaped? c, codeLength? c with
  | some x, _ =>
    passMany 2
    return x
  | none, some n =>
    passMany 2
    ensure n
    let digits := (← get).ahead.take n
    match (Text.hexValue? digits).bind codeChar? with
    | some x =>
      require (digits.length == n)
      passMany n
      return x
    | none => malformed
  | none, none => malformed

/-- Reads on in a word of a quoted scalar, the text of which is given in reverse. The word ends in
front of a separator and of the closing quote, and behind an escaped line break; the second
component says whether that was the end. -/
def quotedWord (single : Bool) : Nat → List Char → Reading (List Char × Bool)
  | 0, text => return (text, false)
  | fuel + 1, text => do
    let c ← look
    let next ← lookAt 1
    if endsWord c then return (text, false)
    else if single && c == '\x27' then
      if next == '\x27' then
        passMany 2
        ensure 2
        quotedWord single fuel (c :: text)
      else return (text, false)
    else if !single && c == '"' then return (text, false)
    else if !single && c == '\\' then
      if isBreak next then
        ensure 3
        pass
        passLine
        return (text, true)
      else
        let x ← escape
        ensure 2
        quotedWord single fuel (x :: text)
    else
      pass
      ensure 2
      quotedWord single fuel (c :: text)

/-- Reads on in a quoted scalar, the text of which is given in reverse, to the closing quote. A line
that divides documents must not stand in it. After an escaped line break only further line breaks
count. -/
def quotedFrom (single : Bool) : Nat → List Char → Reading (List Char)
  | 0, _ => malformed
  | fuel + 1, text => do
    ensure 4
    let s ← get
    require (!s.atDivider && s.char != endChar)
    let (text, joined) ← quotedWord single s.size text
    ensure 1
    let c ← look
    if c == (if single then '\x27' else '"') then return text
    else
      let gap ← gapFrom (fun _ _ => false) s.size .none
      let between := if joined then gap.breaks.reverse else gap.fold
      quotedFrom single fuel (between.reverse ++ text)

/-- A scalar in quotes at the cursor. -/
def quoted (single : Bool) : Reading String := do
  pass
  let text ← quotedFrom single (← get).size []
  pass
  return String.ofList text.reverse

/-! ### Blocks -/

/-- What happens to the line breaks at the end of a block. -/
inductive Chomping where
  | strip
  | clip
  | keep
  deriving DecidableEq, Repr

/-- The chomping that a sign asks for. -/
def chomping? (c : Char) : Option Chomping :=
  if c == '+' then some .keep else if c == '-' then some .strip else none

/-- Reads the sign of a chomping, if there is one. -/
def chomping : Reading (Option Chomping) := do
  ensure 1
  let c ← look
  match chomping? c with
  | some chomping =>
    pass
    return some chomping
  | none => return none

/-- Reads the digit of an indentation, if there is one, which must not be zero. -/
def increment : Reading (Option Nat) := do
  ensure 1
  let c ← look
  if c.isDigit then
    require (c != '0')
    pass
    return some (c.toNat - '0'.toNat)
  else return none

/-- Reads the indicators of a block, in either order. -/
def blockHeader : Reading (Chomping × Nat) := do
  match ← chomping with
  | some chomping => return (chomping, (← increment).getD 0)
  | none =>
    match ← increment with
    | some n => return ((← chomping).getD .clip, n)
    | none => return (.clip, 0)

/-- Passes the rest of a line, which holds nothing but blanks and a comment. -/
def blankLine : Reading Unit := do
  skipGaps
  let c ← look
  if c == '#' then skipLine
  let c ← look
  require (endsLine c)
  if isBreak c then passLine

/-- Passes indentation and empty lines. The breaks are given in reverse; `widest` is the largest
column that spaces reached so far. Without an indentation all spaces count. A tab is no
indentation. -/
def emptyLines (indent : Option Nat) : Nat → List Char → Nat → Reading (List Char × Nat)
  | 0, breaks, widest => return (breaks, widest)
  | fuel + 1, breaks, widest => do
    ensure 1
    let c ← look
    let column := (← here).column
    let inside := indent.all fun n => decide (column < n)
    if inside && c == ' ' then
      pass
      emptyLines indent fuel breaks widest
    else
      require (!(inside && c == '\t'))
      let widest := max widest column
      if isBreak c then
        let cs ← takeLine
        emptyLines indent fuel (cs ++ breaks) widest
      else return (breaks, widest)

/-- A block being read. -/
structure BlockState where
  /-- The text so far, in reverse. -/
  text : List Char
  /-- The break behind the last line that is not empty. -/
  lineBreak : List Char
  /-- The breaks of the empty lines after it, in reverse. -/
  emptyLines : List Char
  /-- The last line that is not empty starts with a blank. -/
  startsBlank : Bool

namespace BlockState

/-- The breaks in front of a new line. In a folded block, one newline between two lines that do not
start with a blank is a space, or goes if empty lines follow it. -/
def joinText (s : BlockState) (literal blank : Bool) : List Char :=
  let first :=
    if !literal && !s.startsBlank && !blank && s.lineBreak == ['\n'] then
      if s.emptyLines.isEmpty then [' '] else []
    else s.lineBreak
  first ++ s.emptyLines.reverse

/-- The text of the block, with the line breaks at its end chomped. -/
def finish (s : BlockState) (chomping : Chomping) : List Char :=
  let tail := match chomping with
    | .strip => []
    | .clip => s.lineBreak
    | .keep => s.lineBreak ++ s.emptyLines.reverse
  s.text.reverse ++ tail

end BlockState

/-- Reads on in a block whose lines are indented by `indent` spaces. -/
def blockFrom (literal : Bool) (indent : Nat) : Nat → BlockState → Reading BlockState
  | 0, b => return b
  | fuel + 1, b => do
    ensure 1
    let s ← get
    if s.mark.column != indent || s.char == endChar then return b
    else
      let blank := isGap s.char
      let line ← takeWhile fun c => !endsLine c
      let lineBreak ← takeLine
      let (empty, _) ← emptyLines (some indent) s.size [] 0
      blockFrom literal indent fuel
        ⟨line.reverse ++ (b.joinText literal blank).reverse ++ b.text, lineBreak, empty, blank⟩

/-- A block at the cursor, which is in front of its indicator, inside a structure indented by
`parent`. -/
def block (literal : Bool) (parent : Int) : Reading String := do
  pass
  let (chomping, increment) ← blockHeader
  blankLine
  let size := (← get).size
  let given := if increment == 0 then none else some (increment + parent.toNat)
  let (breaks, widest) ← emptyLines given size [] 0
  let indent := given.getD (max widest (max 1 (parent + 1).toNat))
  let b ← blockFrom literal indent size ⟨[], [], breaks, false⟩
  return String.ofList (b.finish chomping)

end PocketScheme.Yaml
