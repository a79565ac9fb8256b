import PocketScheme.Yaml.Token.Basic
import PocketScheme.Yaml.Scalar

/-!
Reading tokens. Outside brackets the columns of keys and entries open block structures, and a
smaller column closes them. A mapping key needs no mark of its own: whatever starts where a key may
stand is remembered, and a colon after it on the same line makes it a key, so that the token `key`
is put in front of it then.

* `Lexer`: source, tokens that wait, indentation, brackets, remembered keys;
* `Lexer.fetch`: reads the next token;
* `Lexer.supply`: reads tokens until the first one can be handed on;
* `Lexer.handOn`: the reader behind it.

A token is handed on once two more tokens are read and it is settled whether it starts a key. Only
that much of a document has to be well-formed.
-/

namespace PocketScheme.Yaml

/-- A place where a simple key may have started. -/
structure SimpleKey where
  /-- The number of tokens in front of it. -/
  position : Nat
  /-- A key has to stand there, because its column is that of the block mapping. -/
  isRequired : Bool
  mark : Mark
  /-- The token there is not handed on before it is settled whether it starts a key. -/
  isAwaited : Bool

/-- The inside of a bracket, or of no bracket at all. -/
structure Level where
  /-- The number of tokens in front of the bracket. -/
  position : Nat
  /-- The remembered key. -/
  key : Option SimpleKey
  /-- Some key was remembered since the bracket. -/
  hadKey : Bool

/-- The reader of tokens. -/
structure Lexer where
  source : Source
  /-- The number of tokens that are handed on. -/
  handed : Nat
  /-- The tokens that wait. -/
  waiting : List Token
  /-- The column of the innermost block structure, `-1` outside of all. -/
  indent : Int
  /-- The columns of the structures around it. -/
  outer : List Int
  /-- The innermost level. -/
  level : Level
  /-- The levels around it, one for each bracket. -/
  outerLevels : List Level
  /-- The number of block structures. -/
  blockDepth : Nat
  /-- The number of brackets. -/
  flowDepth : Nat
  /-- A simple key may start at the cursor. -/
  keyAllowed : Bool

/-- Computations that read tokens. -/
abbrev Lexing := StateT Lexer Option

namespace Lexer

/-- A reader at the start of a document. -/
def start (s : Source) : Lexer :=
  ⟨s, 0, [], -1, [], ⟨0, none, false⟩, [], 0, 0, true⟩

/-- The reader is inside brackets. -/
def inFlow (l : Lexer) : Bool :=
  0 < l.flowDepth

/-- The number of tokens so far. -/
def count (l : Lexer) : Nat :=
  l.handed + l.waiting.length

/-- The place of the next character. -/
def mark (l : Lexer) : Mark :=
  l.source.mark

/-- The document is malformed. -/
def malformed {α : Type} : Lexing α := fun _ => none

/-- Moves through the source. -/
def reading {α : Type} (r : Reading α) : Lexing α := fun l =>
  (r l.source).map fun (a, s) => (a, { l with source := s })

/-- Adds a token that starts at a mark. -/
def push (m : Mark) (lexeme : Lexeme) : Lexing Unit :=
  modify fun l => { l with waiting := l.waiting ++ [⟨lexeme, m.line⟩] }

/-- Adds a token at the cursor, of `width` characters. -/
def pushHere (lexeme : Lexeme) (width : Nat) : Lexing Unit := do
  push (← get).mark lexeme
  reading (Reading.passMany width)

/-- The reader with a token put in after the first `n`, or behind all tokens if these are handed on
already. -/
def insertAt (l : Lexer) (n : Nat) (t : Token) : Lexer :=
  if n < l.handed then { l with waiting := l.waiting ++ [t] }
  else
    let behind := n - l.handed
    { l with waiting := l.waiting.take behind ++ t :: l.waiting.drop behind }

/-- Says whether a key may start at the cursor. -/
def allowKey (allowed : Bool) : Lexing Unit :=
  modify fun l => { l with keyAllowed := allowed }

/-! ### Remembered keys -/

/-- A key is on one line, and its colon at most 1024 characters behind its start. -/
def isNear (l : Lexer) (k : SimpleKey) : Bool :=
  k.mark.line == l.mark.line && l.mark.index ≤ k.mark.index + 1024

/-- Forgets the remembered key, which must not be a required one. -/
def forgetKey : Lexing Unit := do
  let l ← get
  if l.level.key.any SimpleKey.isRequired then malformed
  else set { l with level := { l.level with key := none } }

/-- Remembers the cursor as a place where a key may start, if one may. -/
def rememberKey : Lexing Unit := do
  if (← get).keyAllowed then
    forgetKey
    modify fun l =>
      let required := !l.inFlow && l.indent == (l.mark.column : Int)
      { l with level := { l.level with
          key := some ⟨l.count, required, l.mark, true⟩
          hadKey := true } }

/-- The remembered key, if it can still be one. It must be one if it is required. -/
def liveKey : Lexing (Option SimpleKey) := do
  let l ← get
  match l.level.key with
  | some k => if l.isNear k then return some k else if k.isRequired then malformed else return none
  | none => return none

/-- Opens a level behind a bracket, which is the next token. -/
def openLevel : Lexing Unit :=
  modify fun l =>
    { l with
      level := ⟨l.count, none, false⟩
      outerLevels := l.level :: l.outerLevels
      flowDepth := l.flowDepth + 1 }

/-- The level after a bracket inside it was closed. A bracket without any key in it is not waited
for, although it can still be a key. -/
def Level.afterBracket (l inner : Level) : Level :=
  if inner.hadKey then l
  else { l with key := l.key.map fun k =>
      if k.position == inner.position then { k with isAwaited := false } else k }

/-- Closes the level of a bracket, if there is one. -/
def closeLevel : Lexing Unit :=
  modify fun l =>
    match l.outerLevels with
    | [] => l
    | outer :: levels =>
      { l with
        level := Level.afterBracket outer l.level
        outerLevels := levels
        flowDepth := l.flowDepth - 1 }

/-! ### Indentation -/

/-- Closes the block structures that are indented by more than `column`. -/
def closeBlocks (column : Int) (indent : Int) (outer : List Int) : Nat × Int × List Int :=
  match outer with
  | [] => (0, indent, [])
  | i :: is =>
    if column < indent then
      let (n, indent, outer) := closeBlocks column i is
      (n + 1, indent, outer)
    else (0, indent, outer)

/-- Closes the block structures that are indented by more than `column`; inside brackets columns
mean nothing. -/
def unroll (column : Int) (m : Mark) : Lexing Unit :=
  modify fun l =>
    if l.inFlow then l
    else
      let (n, indent, outer) := closeBlocks column l.indent l.outer
      { l with
        waiting := l.waiting ++ List.replicate n ⟨.blockEnd, m.line⟩
        indent := indent
        outer := outer
        blockDepth := l.blockDepth - n }

/-- The most block structures or brackets around a place. -/
def depthLimit : Nat := 10000

/-- Opens a block structure at a mark if it is deeper than the innermost one, with its token put in
after the first `n`. -/
def roll (m : Mark) (n : Nat) (lexeme : Lexeme) : Lexing Unit := do
  let l ← get
  if !l.inFlow && decide (l.indent < (m.column : Int)) then
    if depthLimit ≤ l.blockDepth then malformed
    else
      set { l.insertAt n ⟨lexeme, m.line⟩ with
        indent := m.column
        outer := l.indent :: l.outer
        blockDepth := l.blockDepth + 1 }

/-- Opens a block structure at the cursor, where outside brackets a key has to be allowed. -/
def rollHere (lexeme : Lexeme) : Lexing Unit := do
  let l ← get
  if !l.inFlow && !l.keyAllowed then malformed
  else roll l.mark l.count lexeme

/-! ### Between tokens -/

/-- How far ahead a comment is looked for. -/
def commentWindow : Nat := 512

/-- Looks for a comment from the character `n` ahead on, at most `fuel` characters further: how far
ahead it starts. Blanks may stand in front of it, and line breaks of one byte if `lines` says
so. -/
def commentFrom (lines : Bool) : Nat → Nat → Reading (Option Nat)
  | 0, _ => return none
  | fuel + 1, n => do
    Reading.ensure (n + 1)
    let c ← Reading.lookAt n
    if isGap c || (lines && (c == '\n' || c == '\r')) then commentFrom lines fuel (n + 1)
    else if c == '#' then return some n
    else
      if lines && isBreak c && 0 < fuel then Reading.ensure (n + 2)
      return none

/-- Passes blanks and line breaks up to a place. -/
def passTo (index : Nat) : Nat → Reading Unit
  | 0 => return ()
  | fuel + 1 => do
    Reading.ensure 1
    let s ← get
    if index ≤ s.mark.index then return ()
    else
      if isBreak s.char then Reading.passLine else Reading.pass
      passTo index fuel

/-- Passes a comment that starts `n` characters ahead. -/
def passComment (n : Nat) : Reading Unit := do
  let m ← Reading.here
  passTo (m.index + n) (n + 1)
  Reading.skipLine

/-- How far ahead a comment starts on one of the next lines, from the end of a line. -/
def nextComment : Reading (Option Nat) := do
  Reading.ensure 2
  let c ← Reading.look
  if c == '\n' || c == '\r' then commentFrom true (commentWindow - 1) 1 else return none

/-- Passes a comment that starts `n` characters ahead, and those on the lines after it. -/
def passComments : Nat → Nat → Reading Unit
  | 0, _ => return ()
  | fuel + 1, n => do
    passComment n
    match ← nextComment with
    | some n => passComments fuel n
    | none => return ()

/-- Passes a comment on the line of a token. -/
def lineComment : Reading Unit := do
  if !(← get).isFresh then
    match ← commentFrom false commentWindow 0 with
    | some n => passComment n
    | none => return ()

/-- Passes a byte order mark, for which any character counts at the start of a line as long as the
characters ahead started with one. -/
def byteOrderMark : Reading Unit := do
  Reading.ensure 1
  let s ← get
  if s.mark.column == 0 && s.isMarked then Reading.pass

/-- Moves to the next token. A tab does not indent a key, and behind a line break a key may
start. -/
def toNext : Nat → Lexing Unit
  | 0 => return ()
  | fuel + 1 => do
    reading byteOrderMark
    let l ← get
    let tabs := l.inFlow || !l.keyAllowed
    reading (Reading.skipWhile fun c => c == ' ' || (tabs && c == '\t'))
    if (← get).source.char == '#' then reading (passComments l.source.size 0)
    if isBreak (← get).source.char then
      reading Reading.passLine
      if !l.inFlow then allowKey true
      toNext fuel

/-! ### Tokens -/

/-- The end of the text closes all structures, and starts a new line. -/
def atEnd : Lexing Unit := do
  modify fun l =>
    let m := l.mark
    if m.column == 0 then l
    else { l with source := { l.source with mark := ⟨m.index, m.line + 1, 0⟩ } }
  unroll (-1) (← get).mark
  forgetKey
  allowKey false
  pushHere .streamEnd 0

/-- A line that divides documents closes all structures. -/
def divider (lexeme : Lexeme) : Lexing Unit := do
  unroll (-1) (← get).mark
  forgetKey
  allowKey false
  pushHere lexeme 3

/-- An opening bracket may be part of a key, and one may follow it. -/
def openFlow (lexeme : Lexeme) : Lexing Unit := do
  rememberKey
  if depthLimit ≤ (← get).flowDepth then malformed
  openLevel
  allowKey true
  pushHere lexeme 1

/-- A closing bracket. -/
def closeFlow (lexeme : Lexeme) : Lexing Unit := do
  forgetKey
  closeLevel
  allowKey false
  pushHere lexeme 1

/-- A comma. -/
def flowEntry : Lexing Unit := do
  forgetKey
  allowKey true
  pushHere .flowEntry 1

/-- A dash, which outside brackets has to stand where a key may. -/
def blockEntry : Lexing Unit := do
  rollHere .blockSequenceStart
  forgetKey
  allowKey true
  pushHere .blockEntry 1

/-- A question mark, which outside brackets has to stand where a key may. -/
def explicitKey : Lexing Unit := do
  rollHere .blockMappingStart
  forgetKey
  allowKey !(← get).inFlow
  pushHere .key 1

/-- A colon after what turns out to be a key. -/
def valueOf (k : SimpleKey) : Lexing Unit := do
  modify fun l => l.insertAt k.position ⟨.key, k.mark.line⟩
  roll k.mark k.position .blockMappingStart
  modify fun l => { l with level := { l.level with key := none } }
  allowKey false

/-- A colon that follows no simple key. -/
def valueAlone : Lexing Unit := do
  rollHere .blockMappingStart
  modify fun l => { l with level := { l.level with key := none } }
  allowKey !(← get).inFlow

/-- A colon. -/
def value : Lexing Unit := do
  match ← liveKey with
  | some k => valueOf k
  | none => valueAlone
  pushHere .value 1

/-- An anchor's name ends in front of these. -/
def endsName (c : Char) : Bool :=
  endsWord c || "?:,]\x7d%@\x60".toList.contains c

/-- The name of an anchor. -/
def anchorName : Reading String := do
  Reading.pass
  let name ← Reading.takeWhile isNameChar
  Reading.require (!name.isEmpty && endsName (← Reading.look))
  return String.ofList name

/-- Reads a token that may start a key and does not allow one behind it. -/
def keyToken (read : Reading Lexeme) : Lexing Unit := do
  rememberKey
  allowKey false
  let m := (← get).mark
  let lexeme ← reading read
  push m lexeme

/-! ### Tags -/

/-- The characters of a tag. -/
def isTagChar (c : Char) : Bool :=
  isNameChar c || ";/?:@&=+$,.!~*\x27()[]".toList.contains c

/-- The byte that a percent sign and two hexadecimal digits spell. -/
def escapedByte : Reading UInt8 := do
  Reading.ensure 3
  let s ← get
  Reading.require (s.char == '%')
  match Text.hexValue? [s.charAt 1, s.charAt 2] with
  | some n =>
    Reading.passMany 3
    return n.toUInt8
  | none => Reading.malformed

/-- The further bytes of a character, `n` of them, each in the same spelling. -/
def escapedTail : Nat → Reading Text.Bytes
  | 0 => return []
  | n + 1 => do
    let b ← escapedByte
    Reading.require (0x80 ≤ b.toNat && b.toNat < 0xc0)
    return b :: (← escapedTail n)

/-- The bytes of a character that are spelled by percent signs. -/
def escapedChar : Reading Text.Bytes := do
  let b ← escapedByte
  Reading.require (lengthOf b != 0)
  return b :: (← escapedTail (lengthOf b - 1))

/-- Reads on in a tag, the bytes of which are given in reverse. -/
def tagFrom : Nat → Text.Bytes → Reading Text.Bytes
  | 0, bytes => return bytes
  | fuel + 1, bytes => do
    Reading.ensure 1
    let c ← Reading.look
    if c == '%' then
      let more ← escapedChar
      tagFrom fuel (more.reverse ++ bytes)
    else if isTagChar c then
      Reading.pass
      tagFrom fuel ((String.utf8EncodeChar c).reverse ++ bytes)
    else return bytes

/-- The text of a tag behind some characters of it. -/
def tagText (front : List Char) : Reading Text := do
  let start := (front.flatMap String.utf8EncodeChar).reverse
  let bytes ← tagFrom (← get).size start
  return .ofBytes bytes.reverse

/-- The text of a tag, which must not be empty. -/
def someTagText : Reading Text := do
  let m ← Reading.here
  let text ← tagText []
  Reading.require ((← Reading.here).index != m.index)
  return text

/-- A word behind an exclamation mark, and whether another one follows it, which is passed. -/
def tagWord : Reading (List Char × Bool) := do
  Reading.ensure 1
  Reading.require ((← Reading.look) == '!')
  Reading.pass
  let word ← Reading.takeWhile isNameChar
  if (← Reading.look) == '!' then
    Reading.pass
    return (word, true)
  else return (word, false)

/-- A handle between exclamation marks. -/
def handleOf (word : List Char) : String :=
  "!" ++ String.ofList word ++ "!"

/-- A tag: in angle brackets the whole tag is the suffix; `!word!` is a handle of its own; and a
lone `!` has no handle. It ends at the end of a word. -/
def tag : Reading Lexeme := do
  Reading.ensure 2
  let lexeme ←
    if (← Reading.lookAt 1) == '<' then
      Reading.passMany 2
      let suffix ← someTagText
      Reading.require ((← Reading.look) == '>')
      Reading.pass
      pure (Lexeme.tag "" suffix)
    else
      match ← tagWord with
      | (word, true) => pure (Lexeme.tag (handleOf word) (← someTagText))
      | (word, false) =>
        let suffix ← tagText word
        pure (if suffix.isEmpty then Lexeme.tag "" "!" else Lexeme.tag "!" suffix)
  Reading.ensure 1
  Reading.require (endsWord (← Reading.look))
  return lexeme

/-! ### Scalars -/

/-- A block scalar; a key may follow it. -/
def blockScalar (literal : Bool) : Lexing Unit := do
  forgetKey
  allowKey true
  let l ← get
  let text ← reading (block literal l.indent)
  push l.mark (.scalar text false)

/-- A plain scalar; a key may follow it if it ends on a later line. -/
def plainScalar : Lexing Unit := do
  rememberKey
  let l ← get
  let (text, broken) ← reading (plain l.inFlow (l.indent + 1))
  allowKey broken
  push l.mark (.scalar text true)

/-! ### Directives -/

/-- A natural of one or two digits. -/
def number : Reading Nat := do
  let digits ← Reading.takeWhile Char.isDigit
  Reading.require (!digits.isEmpty && digits.length ≤ 2)
  return digits.foldl (fun n d => n * 10 + (d.toNat - '0'.toNat)) 0

/-- The two numbers of a version, with a dot between. -/
def versionNumbers : Reading Lexeme := do
  Reading.skipGaps
  let major ← number
  Reading.require ((← Reading.look) == '.')
  Reading.pass
  return .version major (← number)

/-- A tag handle and what it stands for. -/
def tagDefinition : Reading Lexeme := do
  Reading.skipGaps
  let (word, closed) ← tagWord
  Reading.require (closed || word.isEmpty)
  Reading.ensure 1
  Reading.require (isGap (← Reading.look))
  Reading.skipGaps
  let expansion ← someTagText
  Reading.ensure 1
  Reading.require (endsWord (← Reading.look))
  return .tagHandle (if closed then handleOf word else "!") expansion

/-- The name and the content of a directive: a version or a tag handle. -/
def directiveText : Reading Lexeme := do
  Reading.pass
  let name ← Reading.takeWhile isNameChar
  Reading.require (!name.isEmpty && endsWord (← Reading.look))
  let lexeme ←
    if name == "YAML".toList then versionNumbers
    else if name == "TAG".toList then tagDefinition
    else Reading.malformed
  blankLine
  return lexeme

/-- A directive. -/
def directive : Lexing Unit := do
  unroll (-1) (← get).mark
  forgetKey
  allowKey false
  let m := (← get).mark
  let lexeme ← reading directiveText
  push m lexeme

/-! ### All tokens -/

/-- The characters that start no plain scalar, the first three of them unless a word follows. -/
def isIndicator (c : Char) : Bool :=
  "-?:,[]\x7b\x7d#&*!|>\x27\"%@\x60".toList.contains c

/-- The two characters can start a plain scalar. -/
def startsPlain (inFlow : Bool) (c next : Char) : Bool :=
  !(endsWord c || isIndicator c) || (c == '-' && !isGap next) ||
    (!inFlow && (c == '?' || c == ':') && !endsWord next)

/-- The next token, whose first two characters are given. -/
def token (inFlow : Bool) (c next : Char) : Lexing Unit :=
  if c == '[' then openFlow .flowSequenceStart
  else if c == '\x7b' then openFlow .flowMappingStart
  else if c == ']' then closeFlow .flowSequenceEnd
  else if c == '\x7d' then closeFlow .flowMappingEnd
  else if c == ',' then flowEntry
  else if c == '-' && endsWord next then blockEntry
  else if c == '?' && (inFlow || endsWord next) then explicitKey
  else if c == ':' && (inFlow || endsWord next) then value
  else if c == '*' then keyToken (Lexeme.reference <$> anchorName)
  else if c == '&' then keyToken (Lexeme.anchor <$> anchorName)
  else if c == '!' then keyToken tag
  else if c == '|' && !inFlow then blockScalar true
  else if c == '>' && !inFlow then blockScalar false
  else if c == '\x27' then keyToken ((Lexeme.scalar · false) <$> quoted true)
  else if c == '"' then keyToken ((Lexeme.scalar · false) <$> quoted false)
  else if startsPlain inFlow c next then plainScalar
  else malformed

/-- The last token is a dash, which has no comment on its line. -/
def endsWithEntry (l : Lexer) : Bool :=
  (l.waiting.getLast?.map Token.lexeme) == some .blockEntry

/-- Reads the next token. -/
def fetch : Lexing Unit := do
  reading (Reading.ensure 1)
  let before := (← get).mark
  toNext (← get).source.size
  unroll (← get).mark.column before
  reading (Reading.ensure 4)
  let l ← get
  let s := l.source
  if s.char == endChar then atEnd
  else if s.mark.column == 0 && s.char == '%' then directive
  else if s.isDivider '-' then divider .documentStart
  else if s.isDivider '.' then divider .documentEnd
  else
    token l.inFlow s.char (s.charAt 1)
    if !(← get).endsWithEntry then reading lineComment

/-! ### Handing tokens on -/

/-- The key that may start at the first token that waits, if that is waited for. -/
def headKey? (l : Lexer) : Option SimpleKey :=
  (l.level :: l.outerLevels).findSome? fun level =>
    level.key.filter fun k => k.position == l.handed && k.isAwaited

/-- It is settled whether the first token that waits starts a key. -/
def isSettled : Lexing Bool := do
  let l ← get
  match l.headKey? with
  | none => return true
  | some k =>
    if l.isNear k then return false
    else if k.isRequired then malformed
    else return true

/-- Reads tokens until the first one can be handed on. -/
def supply : Nat → Lexing Unit
  | 0 => malformed
  | fuel + 1 => do
    let settled ← if (← get).waiting.length < 3 then pure false else isSettled
    if !settled then
      fetch
      supply fuel

/-- The reader after its first token is handed on. -/
def handOn (l : Lexer) : Lexer :=
  { l with handed := l.handed + 1, waiting := l.waiting.tail }

end Lexer

end PocketScheme.Yaml
