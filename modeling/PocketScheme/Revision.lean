import PocketScheme.Pattern.Reader
import PocketScheme.Text.Blank
import PocketScheme.Text.Letter
import PocketScheme.Yaml.Timestamp

/-!
Revisions: texts that name a commit. A revision starts with a name, and steps lead on from there:
`~3` to the third ancestor, `^` to the parent, `^{/word}` to the youngest ancestor whose message
matches a pattern. Other parts are read and checked, but lead nowhere.

* `Revision.Piece`: the words and marks of a revision;
* `Revision.Part`: names and steps;
* `Revision.Fault`: what is wrong with a revision;
* `Revision.parse`: the parts of a revision.
-/

namespace PocketScheme.Revision

/-! ### Pieces -/

/-- The kinds of pieces. -/
inductive Kind where
  | colon
  | tilde
  | caret
  | dot
  | slash
  | openBrace
  | closeBrace
  | minus
  | atSign
  | backslash
  | question
  | asterisk
  | openBracket
  | exclamation
  | space
  | control
  | word
  | number
  | other
  /-- A null character, which is the end to most readers. -/
  | null
  deriving DecidableEq, Repr

/-- A piece of a revision: a run of letters, a run of digits, or one other character. -/
structure Piece where
  kind : Kind
  text : String
  deriving DecidableEq, Repr

/-- The kind of the piece that a character starts. -/
def kindOf (c : Char) : Kind :=
  match c with
  | '\x00' => .null
  | ':' => .colon
  | '~' => .tilde
  | '^' => .caret
  | '.' => .dot
  | '/' => .slash
  | '\x7b' => .openBrace
  | '\x7d' => .closeBrace
  | '-' => .minus
  | '@' => .atSign
  | '\\' => .backslash
  | '?' => .question
  | '*' => .asterisk
  | '[' => .openBracket
  | '!' => .exclamation
  | c =>
    if Text.isBlank c then .space
    else if c.toNat < 0x20 || (0x7f ≤ c.toNat && c.toNat < 0xa0) then .control
    else if Text.isLetter c then .word
    else if Text.isNumeric c then .number
    else .other

/-- Pieces of these kinds are runs. -/
def isRun (kind : Kind) : Bool :=
  kind == .word || kind == .number

/-- A piece of characters. -/
def pieceOf (kind : Kind) (cs : List Char) : Piece :=
  ⟨kind, String.ofList cs⟩

/-- The pieces of a text behind a run, which is given in reverse. A null character ends a run and is
dropped then. -/
def piecesFrom (run : Option (Kind × List Char)) : List Char → List Piece
  | [] => run.toList.map fun (kind, cs) => pieceOf kind cs.reverse
  | c :: cs =>
    let kind := kindOf c
    let started : Option (Kind × List Char) := if isRun kind then some (kind, [c]) else none
    let alone : List Piece := if isRun kind then [] else [pieceOf kind [c]]
    match run with
    | none => alone ++ piecesFrom started cs
    | some (k, front) =>
      if kind == k then piecesFrom (some (k, c :: front)) cs
      else if kind == .null then pieceOf k front.reverse :: piecesFrom none cs
      else pieceOf k front.reverse :: alone ++ piecesFrom started cs

/-- The pieces of a revision. -/
def pieces (t : Text) : List Piece :=
  piecesFrom none t.chars

/-- Pieces as a text, without null characters. -/
def textOf (ps : List Piece) : String :=
  String.join ((ps.filter fun p => p.kind != .null).map Piece.text)

/-! ### Parts -/

/-- The parts of a revision. -/
inductive Part where
  /-- A name: a branch, a tag, a hash. -/
  | name (text : String)
  /-- The ancestor so many generations back. -/
  | ancestor (count : Nat)
  /-- The parent with a number, from 1; number 0 is the commit itself. -/
  | parent (number : Nat)
  /-- The youngest ancestor whose message matches a pattern, or does not match it. -/
  | matching (text : String) (pattern : Pattern) (negated : Bool)
  /-- The kind of object that is meant. -/
  | object
  | date
  | reflog
  | checkout
  | tracked
  | pushed
  | search
  | path
  | stagedPath

/-- What is wrong with a revision. -/
inductive Fault where
  | forbidden (text : String)
  | badStart (text : String)
  | badEnd (text : String)
  | doubledDot
  | dotAfterSlash
  | doubledSlash
  | lockSuffix
  | unclosedCheckout
  | unclosedData
  | badDate (text : String)
  | badParent (text : String)
  | reserved
  | badComponent (text : String)
  | unclosedComponent
  | badPattern (fault : Pattern.Fault)
  | secondName
  | noName
  | badDatePlace
  | badReflogPlace
  | badCheckoutPlace
  | badTrackedPlace
  | badPushedPlace
  | badSearchPlace
  | badPathPlace
  | badStagePlace
  deriving DecidableEq, Repr

/-- The names of the branch that a branch follows. -/
def trackedNames : List String := ["upstream", "u"]

/-- How the branch that a branch follows is asked for. -/
def trackedForms : String :=
  String.intercalate ", " <| trackedNames.flatMap fun name =>
    ["<refname>@\x7b" ++ name ++ "\x7d", "@\x7b" ++ name ++ "\x7d"]

/-- The text of a fault, without what all of them start with. -/
def Fault.detail : Fault → String
  | forbidden text => "must not contains \"" ++ text ++ "\""
  | badStart text => "must not start with \"" ++ text ++ "\""
  | badEnd text => "must not end with \"" ++ text ++ "\""
  | doubledDot => "must not contains \"..\""
  | dotAfterSlash => "must not contains \"/.\""
  | doubledSlash => "must not contains consecutively \"/\""
  | lockSuffix => "cannot end with .lock"
  | unclosedCheckout => "missing \"\x7d\" in @\x7b-n\x7d structure"
  | unclosedData => "missing \"\x7d\" in @\x7b<data>\x7d structure"
  | badDate text =>
    "wrong date \"" ++ text ++ "\" must fit ISO-8601 format : 2006-01-02T15:04:05Z"
  | badParent text => "\"" ++ text ++ "\" found must be 0, 1 or 2 after \"^\""
  | reserved =>
    "revision suffix brace component sequences starting with \"/!\" others than those " ++
      "defined are reserved"
  | badComponent text => "\"" ++ text ++ "\" is not a valid revision suffix brace component"
  | unclosedComponent => "missing \"\x7d\" in ^\x7b<data>\x7d structure"
  | badPattern fault => "revision suffix brace component, " ++ fault.message
  | secondName => "reference must be defined once at the beginning"
  | noName => "\"~\" or \"^\" statement must have a reference defined at the beginning"
  | badDatePlace =>
    "\"@\" statement is not valid, could be : <refname>@\x7b<ISO-8601 date>\x7d, " ++
      "@\x7b<ISO-8601 date>\x7d"
  | badReflogPlace =>
    "\"@\" statement is not valid, could be : <refname>@\x7b<n>\x7d, @\x7b<n>\x7d"
  | badCheckoutPlace => "\"@\" statement is not valid, could be : @\x7b-<n>\x7d"
  | badTrackedPlace => "\"@\" statement is not valid, could be : " ++ trackedForms
  | badPushedPlace =>
    "\"@\" statement is not valid, could be : <refname>@\x7bpush\x7d, @\x7bpush\x7d"
  | badSearchPlace => "\":\" statement is not valid, could be : :/<regexp>"
  | badPathPlace => "\":\" statement is not valid, could be : <revision>:<path>"
  | badStagePlace => "\":\" statement is not valid, could be : :<n>:<path>"

/-- The text of a fault. -/
def Fault.message (f : Fault) : String :=
  "Revision invalid : " ++ f.detail

/-- A part and the pieces behind it. -/
abbrev Reading := Except Fault (Part × List Piece)

/-- The natural that a run of digits spells; digits of other scripts spell none. -/
def numberOf (text : String) : Nat :=
  if text.toList.all Char.isDigit then
    text.toList.foldl (fun n c => n * 10 + (c.toNat - '0'.toNat)) 0
  else 0

/-- The pieces start with one of a kind. -/
def startsWith (kind : Kind) (ps : List Piece) : Bool :=
  ps.head?.any fun p => p.kind == kind

/-- The text behind two digits that spell a number below `bound`. -/
def twoDigits? (bound : Nat) : List Char → Option (List Char)
  | a :: b :: cs =>
    if b.isDigit && (Yaml.Timestamp.below? bound [a, b]).isSome then some cs else none
  | _ => none

/-- A date `2006-01-02T15:04:05Z`; the hour may have one digit, and the seconds a fraction. -/
def isDate (text : String) : Bool :=
  let day := text.toList.take 10
  let time : Option (List Char) := do
    let cs ← Yaml.Timestamp.expect? 'T' (text.toList.drop 10)
    let (_, cs) ← Yaml.Timestamp.below? 24 cs
    let cs ← Yaml.Timestamp.expect? ':' cs
    let cs ← twoDigits? 60 cs
    let cs ← Yaml.Timestamp.expect? ':' cs
    let cs ← twoDigits? 60 cs
    return (Yaml.Timestamp.fraction cs).2
  day.length == 10 && (Yaml.Timestamp.date? day).any (·.2.isEmpty) && time == some ['Z']

/-- The text between braces behind `@`, of which the first piece is given apart, read as a date. A
null character is the end, unless it is the first piece. -/
def readDate (first : Piece) (ps : List Piece) : Reading :=
  let isInside (p : Piece) : Bool := p.kind != .closeBrace && p.kind != .null
  match ps.dropWhile isInside with
  | ⟨.closeBrace, _⟩ :: rest =>
    let text := textOf (first :: ps.takeWhile isInside)
    if isDate text then .ok (.date, rest) else .error (.badDate text)
  | _ => .error .unclosedData

/-- What follows `@`: braces, or else the `@` alone stands for the current commit. -/
def readAt : List Piece → Reading
  | ⟨.openBrace, _⟩ :: rest =>
    match rest with
    | [] => .error .unclosedData
    | p :: ps =>
      if p.kind == .word && startsWith .closeBrace ps &&
          trackedNames.contains p.text then .ok (.tracked, ps.tail)
      else if p.kind == .word && startsWith .closeBrace ps && p.text == "push" then
        .ok (.pushed, ps.tail)
      else if p.kind == .number && startsWith .closeBrace ps then .ok (.reflog, ps.tail)
      else if p.kind == .minus && startsWith .number ps then
        if startsWith .closeBrace ps.tail then .ok (.checkout, ps.tail.tail)
        else .error .unclosedCheckout
      else readDate p ps
  | rest => .ok (.name "HEAD", rest)

/-- What follows `~`: a count, which is 1 if it is left out. -/
def readTilde : List Piece → Reading
  | ⟨.number, text⟩ :: rest => .ok (.ancestor (numberOf text), rest)
  | rest => .ok (.ancestor 1, rest)

/-- The words for the kinds of objects. -/
def objectWords : List String :=
  ["commit", "tree", "blob", "tag", "object"]

/-- The part for a pattern. -/
def patternPart (text : String) (part : Pattern → Part) : Except Fault Part :=
  match Pattern.parse text with
  | .ok pattern => .ok (part pattern)
  | .error fault => .error (.badPattern fault)

/-- What follows `^` and an opening brace: the word for a kind of object, or a slash and a pattern.
Empty braces take the piece behind them along. -/
def readComponent (isFirst : Bool) (pattern : String) (negated : Bool) : List Piece → Reading
  | [] => .error (if isFirst then .badComponent "" else .unclosedComponent)
  | p :: ps =>
    if p.kind == .word && startsWith .closeBrace ps && objectWords.contains p.text then
      .ok (.object, ps.tail)
    else if pattern.isEmpty && p.kind == .closeBrace then .ok (.object, ps.tail)
    else if pattern.isEmpty && p.kind == .exclamation then
      if startsWith .exclamation ps then readComponent false (pattern ++ p.text) negated ps.tail
      else if startsWith .minus ps then readComponent false pattern true ps.tail
      else .error .reserved
    else if pattern.isEmpty && p.kind == .slash then readComponent false pattern negated ps
    else if isFirst && p.kind != .slash then .error (.badComponent (textOf [p]))
    else if p.kind == .null then .error .unclosedComponent
    else if p.kind == .closeBrace then do
      return (← patternPart pattern fun re => .matching pattern re negated, ps)
    else readComponent false (pattern ++ p.text) negated ps
termination_by ps => ps.length
decreasing_by all_goals simp only [List.length_cons, List.length_tail]; omega

/-- What follows `^`: braces, or the number of a parent, which is 1 if it is left out. -/
def readCaret : List Piece → Reading
  | ⟨.openBrace, _⟩ :: rest => readComponent true "" false rest
  | ⟨.number, text⟩ :: rest =>
    if 2 < numberOf text then .error (.badParent text) else .ok (.parent (numberOf text), rest)
  | rest => .ok (.parent 1, rest)

/-- A pattern behind `:/`, which goes on to the end. -/
def readSearch (pattern : String) : List Piece → Reading
  | [] => do
    return (← patternPart pattern fun _ => .search, [])
  | p :: ps =>
    if p.kind == .exclamation && startsWith .exclamation ps then
      readSearch (pattern ++ p.text) ps.tail
    else if pattern.isEmpty && p.kind == .exclamation then
      if startsWith .minus ps then readSearch pattern ps.tail else .error .reserved
    else if p.kind == .null then do
      return (← patternPart pattern fun _ => .search, ps)
    else readSearch (pattern ++ p.text) ps
termination_by ps => ps.length
decreasing_by all_goals simp only [List.length_cons, List.length_tail]; omega

/-- The pieces behind the end of a path, which goes on to a null character. -/
def behindPath (ps : List Piece) : List Piece :=
  (ps.dropWhile fun p => p.kind != .null).tail

/-- What follows `:`, which goes on to the end: a pattern behind a slash, or a path, in front of
which a number and another colon may stand. The first piece of a path may be a null character. -/
def readColon : List Piece → Reading
  | ⟨.slash, _⟩ :: rest => readSearch "" rest
  | ⟨.number, _⟩ :: ⟨.colon, _⟩ :: rest => .ok (.stagedPath, behindPath rest)
  | ps => .ok (.path, behindPath ps.tail)

/-- A name ends in front of these pieces. -/
def endsName (kind : Kind) : Bool :=
  kind == .atSign || kind == .colon || kind == .tilde || kind == .caret || kind == .null

/-- Pieces of these kinds are not part of a name. -/
def isForbidden (kind : Kind) : Bool :=
  [Kind.backslash, .space, .control, .question, .asterisk, .openBracket].contains kind

/-- The name ends like a lock. -/
def isLock (name : String) : Bool :=
  4 < name.length && ".lock".toList.reverse.isPrefixOf name.toList.reverse

/-- What is wrong with the end of a name. -/
def checkEnd (name : String) (last : Option Kind) : Option Fault :=
  if last == some .slash then some (.badEnd "/")
  else if last == some .dot then some (.badEnd ".")
  else if isLock name then some .lockSuffix
  else none

/-- What is wrong with a further piece of a name. -/
def checkNext (name : String) (last : Option Kind) (p : Piece) : Option Fault :=
  if isForbidden p.kind then some (.forbidden p.text)
  else if name.isEmpty && (p.kind == .dot || p.kind == .slash) then some (.badStart p.text)
  else if p.kind == .dot && last == some .slash then some .dotAfterSlash
  else if p.kind == .dot && last == some .dot then some .doubledDot
  else if p.kind == .slash && last == some .slash then some .doubledSlash
  else if p.kind == .slash && isLock name then some .lockSuffix
  else none

/-- Reads on in a name, whose last piece is of the given kind. -/
def readName (name : String) (last : Option Kind) : List Piece → Reading
  | [] =>
    match checkEnd name last with
    | some fault => .error fault
    | none => .ok (.name name, [])
  | p :: ps =>
    if endsName p.kind then
      match checkEnd name last with
      | some fault => .error fault
      | none => .ok (.name name, p :: ps)
    else match checkNext name last p with
      | some fault => .error fault
      | none => readName (name ++ p.text) (some p.kind) ps

/-- Reads one part, which starts with the piece `p`. -/
def readPart (p : Piece) (ps : List Piece) : Reading :=
  match p.kind with
  | .atSign => readAt ps
  | .tilde => readTilde ps
  | .caret => readCaret ps
  | .colon => readColon ps
  | _ => readName "" none (p :: ps)

/-- The parts of a list of pieces, of which there are at most `fuel`. -/
def readParts : Nat → List Piece → Except Fault (List Part)
  | 0, _ => .ok []
  | _ + 1, [] | _ + 1, ⟨.null, _⟩ :: _ => .ok []
  | fuel + 1, p :: ps => do
    let (part, rest) ← readPart p ps
    let parts ← readParts fuel rest
    return part :: parts

/-! ### How parts go together -/

/-- What is wrong with parts: the name has to be the first one, and of the parts that lead nowhere
there is only one, most of them behind a name or alone. The first that is in its place ends the
check. -/
def checkParts (count : Nat) (isFirst named : Bool) : List Part → Option Fault
  | [] => none
  | part :: parts =>
    let alone := count == 1
    let aloneOrNamed := alone || (named && count == 2)
    let needs (place : Bool) (fault : Fault) : Option Fault := if place then none else some fault
    match part with
    | .name _ =>
      if isFirst then checkParts count false true parts else some .secondName
    | .ancestor _ | .parent _ | .matching _ _ _ =>
      if named then checkParts count false named parts else some .noName
    | .object => checkParts count false named parts
    | .date => needs aloneOrNamed .badDatePlace
    | .reflog => needs aloneOrNamed .badReflogPlace
    | .checkout => needs alone .badCheckoutPlace
    | .tracked => needs aloneOrNamed .badTrackedPlace
    | .pushed => needs aloneOrNamed .badPushedPlace
    | .search => needs alone .badSearchPlace
    | .path => needs (alone || (named && parts.isEmpty)) .badPathPlace
    | .stagedPath => needs alone .badStagePlace

/-- The parts of a revision. -/
def parse (t : Text) : Except Fault (List Part) := do
  let ps := pieces t
  let parts ← readParts ps.length ps
  match checkParts parts.length true false parts with
  | some fault => .error fault
  | none => .ok parts

end PocketScheme.Revision
