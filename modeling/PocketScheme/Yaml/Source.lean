import PocketScheme.Yaml.Chars

/-!
A document as it is read. The bytes come in chunks, and the next chunk is read only when more
characters are to be looked at than are left of the last one. So what comes behind the last chunk
that is looked at need not be well-formed.

* `Mark`: a place in a document;
* `Source`: what is read and what is left, with `Source.ofBytes`;
* `Reading`: computations that move through a source and may fail;
* `ensure`, `look`, `pass`, `passLine`, `takeWhile`: looking ahead and moving on.
-/

namespace PocketScheme.Yaml

/-- A place in a document: the number of characters before it, and line and column, from 0. -/
structure Mark where
  index : Nat
  line : Nat
  column : Nat
  deriving DecidableEq, Repr

/-- The place of the first character. -/
def Mark.start : Mark := ⟨0, 0, 0⟩

/-- The number of bytes in a chunk. -/
def chunkSize : Nat := 512

/-- A document being read. -/
structure Source where
  encoding : Encoding
  /-- The bytes that no chunk has reached. -/
  rest : Text.Bytes
  /-- The bytes of the last chunk that are no characters yet. -/
  left : Text.Bytes
  /-- The characters that are read and not passed, and at the end null characters. -/
  ahead : List Char
  /-- The characters in front of the cursor when a chunk was last asked for start with a byte order
  mark. -/
  isMarked : Bool
  mark : Mark
  /-- Nothing but blanks was passed since the last line break. -/
  isFresh : Bool
  /-- A bound on the number of characters. -/
  size : Nat

namespace Source

/-- A document at its start. The byte order mark is part of the first chunk. -/
def ofBytes (bytes : Text.Bytes) : Source :=
  let (encoding, width) := encodingOf bytes
  { encoding := encoding
    rest := bytes.drop chunkSize
    left := (bytes.take chunkSize).drop width
    ahead := []
    isMarked := false
    mark := .start
    isFresh := false
    size := bytes.length + 1 }

/-- The source with the characters of the bytes that are read, as far as these are well-formed. -/
def decodeLeft (s : Source) : Source :=
  let (cs, left) := chunkChars s.encoding 0 s.left
  { s with ahead := s.ahead ++ cs, left := left }

/-- The source with the bytes of a further chunk. -/
def readChunk (s : Source) : Source :=
  let room := chunkSize - s.left.length
  { s with left := s.left ++ s.rest.take room, rest := s.rest.drop room }

/-- There are so many characters ahead. -/
def has (s : Source) (n : Nat) : Bool :=
  n == 0 || !(s.ahead.drop (n - 1)).isEmpty

/-- Reads chunks, at most `fuel` of them, until there are `n` characters ahead. At the end of the
text one null character is added, and no character may be incomplete. -/
def refill (n : Nat) : Nat → Source → Option Source
  | 0, s => some s
  | fuel + 1, s =>
    if isBroken s.encoding s.left then none
    else if s.has n then some s
    else if s.rest.isEmpty then
      if s.left.isEmpty then some { s with ahead := s.ahead ++ [endChar] } else none
    else refill n fuel s.readChunk.decodeLeft

/-- Reads on until there are `n` characters ahead or the text ends, if what is read is
well-formed. -/
def fill (s : Source) (n : Nat) : Option Source :=
  (refill n (s.rest.length + 1) s.decodeLeft).map fun s =>
    { s with isMarked := s.ahead.head? == some '\ufeff' }

/-- The character so far ahead. -/
def charAt (s : Source) (n : Nat) : Char :=
  (s.ahead[n]?).getD endChar

/-- The next character. -/
def char (s : Source) : Char :=
  s.ahead.headD endChar

/-- The source behind the next character. -/
def pass (s : Source) : Source :=
  { s with
    ahead := s.ahead.tail
    mark := ⟨s.mark.index + 1, s.mark.line, s.mark.column + 1⟩
    isFresh := s.isFresh && isGap s.char }

/-- The number of characters of the line break at the cursor: two for a carriage return and a
newline, and none if there is no line break. -/
def breakLength (s : Source) : Nat :=
  if s.char == '\r' && s.charAt 1 == '\n' then 2 else if isBreak s.char then 1 else 0

/-- The source behind a line break, if one is next. -/
def passLine (s : Source) : Source :=
  match s.breakLength with
  | 0 => s
  | n =>
    { s with
      ahead := s.ahead.drop n
      mark := ⟨s.mark.index + n, s.mark.line + 1, 0⟩
      isFresh := true }

/-- At the start of a line, the next three characters are `c` and end a word. -/
def isDivider (s : Source) (c : Char) : Bool :=
  s.mark.column == 0 && s.char == c && s.charAt 1 == c && s.charAt 2 == c && endsWord (s.charAt 3)

/-- A line that divides documents is next. -/
def atDivider (s : Source) : Bool :=
  s.isDivider '-' || s.isDivider '.'

end Source

/-! ### Reading -/

/-- Computations that move through a source. They fail where the document is malformed. -/
abbrev Reading := StateT Source Option

namespace Reading

/-- The document is malformed. -/
def malformed {α : Type} : Reading α := fun _ => none

/-- Goes on only under a condition. -/
def require (condition : Bool) : Reading Unit :=
  if condition then pure () else malformed

/-- Makes sure that there are `n` characters ahead, or null characters at the end of the text. -/
def ensure (n : Nat) : Reading Unit := fun s =>
  if s.has n then some ((), s) else (s.fill n).map fun s => ((), s)

/-- The next character. -/
def look : Reading Char := fun s => some (s.char, s)

/-- The character so far ahead. -/
def lookAt (n : Nat) : Reading Char := fun s => some (s.charAt n, s)

/-- The place of the next character. -/
def here : Reading Mark := fun s => some (s.mark, s)

/-- Passes the next character. -/
def pass : Reading Unit := fun s => some ((), s.pass)

/-- Passes the next `n` characters. -/
def passMany : Nat → Reading Unit
  | 0 => return ()
  | n + 1 => do
    pass
    passMany n

/-- Passes a line break, if one is next. -/
def passLine : Reading Unit := do
  ensure 2
  modify Source.passLine

/-- Passes the line break that is next, and gives what it is in a scalar. -/
def takeLine : Reading (List Char) := do
  ensure 2
  let s ← get
  set s.passLine
  return if isBreak s.char then [breakChar s.char] else []

/-- Passes characters that satisfy `p`, at most `fuel` of them; `taken` are those so far, in
reverse. -/
def takeFrom (p : Char → Bool) (taken : List Char) : Nat → Reading (List Char)
  | 0 => return taken.reverse
  | fuel + 1 => do
    ensure 1
    let c ← look
    if p c then
      pass
      takeFrom p (c :: taken) fuel
    else return taken.reverse

/-- Passes the characters in front that satisfy `p`, which the end of the text must not. -/
def takeWhile (p : Char → Bool) : Reading (List Char) := do
  takeFrom p [] (← get).size

/-- Passes the characters in front that satisfy `p`, without keeping them. -/
def skipWhile (p : Char → Bool) : Reading Unit := do
  let _ ← takeWhile p

/-- Passes blanks. -/
def skipGaps : Reading Unit :=
  skipWhile isGap

/-- Passes the rest of a line. -/
def skipLine : Reading Unit :=
  skipWhile fun c => !endsLine c

end Reading

end PocketScheme.Yaml
