import PocketScheme.Yaml.Tag
import PocketScheme.Yaml.Chars
import PocketScheme.Text.Base64
import PocketScheme.Text.Quoted

/-!
Writing strings. A string is written plainly if it then reads back as itself; otherwise in single
quotes, in double quotes with escapes, or, if it has several lines, as a literal block. A string
with bytes that spell no character is written in base 64, with a tag.

* `Style`: the four spellings;
* `style`: the spelling that a string gets;
* `renderString`, `renderLine`: a string as the value of a field.
-/

namespace PocketScheme.Yaml.Printer

/-- The spellings of a string. -/
inductive Style where
  | plain
  | single
  | double
  | literal
  deriving DecidableEq, Repr

/-! ### Strings that would read back as something else -/

/-- Words that older readers take for truth values. -/
def oldBooleans : List String :=
  ["y", "Y", "yes", "Yes", "YES", "on", "On", "ON", "n", "N", "no", "No", "NO", "off", "Off", "OFF"]

/-- One digit, or two of which the first is at most 5. -/
def isSixtieth : List Char → Bool
  | [a] => a.isDigit
  | [a, b] => '0' ≤ a && a ≤ '5' && b.isDigit
  | _ => false

/-- The parts of a text between colons. -/
def colonParts : List Char → List (List Char)
  | [] => [[]]
  | c :: cs =>
    match colonParts cs with
    | part :: parts => if c == ':' then [] :: part :: parts else (c :: part) :: parts
    | [] => [[c]]

/-- The last part of a number in base 60, which may have a fraction. -/
def isLastPart (cs : List Char) : Bool :=
  isSixtieth (cs.takeWhile (· != '.')) &&
    (cs.dropWhile (· != '.')).all (fun c => c.isDigit || c == '_' || c == '.') &&
    ((cs.dropWhile (· != '.')).filter (· == '.')).length ≤ 1

/-- A number in base 60, which older readers know. -/
def isBase60 (s : String) : Bool :=
  let (_, body) := Number.splitSign s.toList
  match colonParts body with
  | (d :: ds) :: part :: parts =>
    let middle := (part :: parts).dropLast
    let last := (part :: parts).getLast?.getD []
    d.isDigit && ds.all (fun c => c.isDigit || c == '_') && middle.all isSixtieth && isLastPart last
  | _ => false

/-- The text is a string also without quotes. -/
def resolvesToString (s : String) : Bool :=
  Tag.resolve s == .str && !oldBooleans.contains s && !isBase60 s

/-! ### What the characters of a string allow -/

/-- The character can be written as it is. -/
def isPlainChar (c : Char) : Bool :=
  let n := c.toNat
  n == 0x0a || (0x20 ≤ n && n ≤ 0x7e) || (0xa0 ≤ n && n ≤ 0xfffd && n != 0xfeff)

/-- The characters that must not start a plain string. -/
def startsSpecial (c : Char) : Bool :=
  "#,[]\x7b\x7d&*!|>\x27\"%@\x60".toList.contains c

/-- The text starts with a blank or is at its end. -/
def endsGap : List Char → Bool
  | [] => true
  | c :: _ => isGap c

/-- An indicator inside a plain string: a colon at the end of a word, or a number sign at the start
of one. -/
def hasIndicator (afterGap : Bool) : List Char → Bool
  | [] => false
  | c :: cs =>
    (c == ':' && endsGap cs) || (c == '#' && afterGap) || hasIndicator (isSeparator c) cs

/-- The text reads as structure in a block. -/
def isStructural : List Char → Bool
  | [] => false
  | c :: cs =>
    ['-', '-', '-'].isPrefixOf (c :: cs) || ['.', '.', '.'].isPrefixOf (c :: cs) ||
      startsSpecial c || ((c == '?' || c == ':' || c == '-') && endsGap cs) ||
      hasIndicator (isSeparator c) cs

/-- Two neighbours of which the first satisfies `p` and the second `q`. -/
def hasPair (p q : Char → Bool) : List Char → Bool
  | a :: b :: cs => (p a && q b) || hasPair p q (b :: cs)
  | _ => false

/-- A space. -/
def isSpace (c : Char) : Bool := c == ' '

/-- The first or the last character satisfies `p`. -/
def hasEdge (p : Char → Bool) (cs : List Char) : Bool :=
  cs.head?.any p || cs.getLast?.any p

/-- The text has a character that needs an escape, a tab apart. -/
def hasSpecial (cs : List Char) : Bool :=
  cs.any (fun c => !isPlainChar c && c != '\t')

/-- The text may be written in single quotes. -/
def allowsSingle (cs : List Char) : Bool :=
  !(hasPair isBreak isSpace cs || hasPair isSpace isBreak cs || hasSpecial cs || cs.contains '\t')

/-- The text may be written plainly. -/
def allowsPlain (cs : List Char) : Bool :=
  allowsSingle cs && !hasEdge (fun c => isSpace c || isBreak c) cs && !cs.any isBreak &&
    !isStructural cs

/-- The text may be written as a block. -/
def allowsBlock (cs : List Char) : Bool :=
  !(cs.getLast?.any isSpace || hasPair isSpace isBreak cs || hasSpecial cs)

/-- The spelling of a string: a block if it has several lines, plain if that reads back, and double
quotes whenever the first choice is not allowed. -/
def style (s : String) : Style :=
  let cs := s.toList
  if cs.contains '\n' then if allowsBlock cs then .literal else .double
  else if !resolvesToString s then .double
  else if allowsPlain cs then .plain
  else if allowsSingle cs then .single
  else .double

/-! ### Spelling -/

/-- The digit of a hexadecimal code. -/
def upperHex (width n : Nat) : List Char :=
  (Text.hexDigits width n).map Char.toUpper

/-- An escaped character. -/
def escape (c : Char) : List Char :=
  let code := c.toNat
  let letter : Option Char := match code with
    | 0x00 => some '0'
    | 0x07 => some 'a'
    | 0x08 => some 'b'
    | 0x09 => some 't'
    | 0x0a => some 'n'
    | 0x0b => some 'v'
    | 0x0c => some 'f'
    | 0x0d => some 'r'
    | 0x1b => some 'e'
    | 0x22 => some '"'
    | 0x5c => some '\\'
    | 0x85 => some 'N'
    | 0xa0 => some '_'
    | 0x2028 => some 'L'
    | 0x2029 => some 'P'
    | _ => none
  match letter with
  | some l => ['\\', l]
  | none =>
    if code ≤ 0xff then '\\' :: 'x' :: upperHex 2 code
    else if code ≤ 0xffff then '\\' :: 'u' :: upperHex 4 code
    else '\\' :: 'U' :: upperHex 8 code

/-- A text in double quotes. In a text that starts with a byte order mark every character is
escaped. -/
def doubleQuoted (cs : List Char) : List Char :=
  let marked := cs.head? == some '\ufeff'
  let one (c : Char) : List Char :=
    if marked || !isPlainChar c || isBreak c || c == '"' || c == '\\' then escape c else [c]
  '"' :: cs.flatMap one ++ ['"']

/-- A text in single quotes, a quote in it twice. What follows a line break is indented. -/
def singleBody (indent : Nat) (afterBreak : Bool) : List Char → List Char
  | [] => []
  | c :: cs =>
    if isBreak c then c :: singleBody indent true cs
    else
      let lead := if afterBreak then List.replicate indent ' ' else []
      let body := if c == '\x27' then ['\x27', '\x27'] else [c]
      lead ++ body ++ singleBody indent false cs

/-- The lines of a literal block, each line that is not empty indented. -/
def literalBody (indent : Nat) (afterBreak : Bool) : List Char → List Char
  | [] => []
  | c :: cs =>
    if isBreak c then c :: literalBody indent true cs
    else
      let lead := if afterBreak then List.replicate indent ' ' else []
      lead ++ c :: literalBody indent false cs

/-- The indicators of a literal block: a width if the text starts with a blank or a line break, and
what happens to the line breaks at its end. -/
def literalHints (cs : List Char) : List Char :=
  let width := if cs.head?.any (fun c => isSpace c || isBreak c) then ['2'] else []
  let chomp := match cs.reverse with
    | a :: b :: _ => if !isBreak a then ['-'] else if isBreak b then ['+'] else []
    | [a] => if isBreak a then ['+'] else ['-']
    | [] => ['-']
  width ++ chomp

/-- A literal block. The break after the header belongs to it, unless the text starts with one. -/
def literalBlock (indent : Nat) (cs : List Char) : List Char :=
  let first := if cs.head?.any isBreak then [] else ['\n']
  '|' :: literalHints cs ++ first ++ literalBody indent true cs

/-- A text as the value of a field, whose further lines are indented by `indent`. -/
def renderText (indent : Nat) (s : String) : List Char :=
  let cs := s.toList
  match style s with
  | .plain => cs
  | .single => '\x27' :: singleBody indent false cs ++ ['\x27']
  | .double => doubleQuoted cs
  | .literal => literalBlock indent cs

/-! ### Binary strings -/

/-- The most characters of base 64 on a line. -/
def binaryWidth : Nat := 70

/-- Lines of at most `binaryWidth` characters, of which there are at most `fuel`, each with its line
break. -/
def binaryLines : Nat → List Char → List Char
  | 0, _ => []
  | fuel + 1, cs =>
    if cs.isEmpty then []
    else cs.take binaryWidth ++ '\n' :: binaryLines fuel (cs.drop binaryWidth)

/-- Bytes in base 64, on lines of their own if they do not fit on less than one. -/
def binaryText (bytes : Text.Bytes) : List Char :=
  let cs := Text.Base64.encode bytes
  if cs.length < binaryWidth then cs else binaryLines cs.length cs

/-- How a string in base 64 is marked. -/
def binaryMark : String := "!!binary "

/-- Bytes as the value of a field. -/
def renderBinary (indent : Nat) (bytes : Text.Bytes) : List Char :=
  let cs := binaryText bytes
  binaryMark.toList ++ if cs.contains '\n' then literalBlock indent cs else cs

/-- A text as the value of a field, whose further lines are indented by `indent`. -/
def renderString (indent : Nat) (t : Text) : String :=
  String.ofList <|
    match t.string? with
    | some s => renderText indent s
    | none => renderBinary indent t.bytes

/-- A text as the value of a field, and the line break after it. A block that ends in a line break
needs no other one. -/
def renderLine (indent : Nat) (t : Text) : String :=
  let written := renderString indent t
  if written.toList.getLast?.any isBreak then written else written ++ "\n"

end PocketScheme.Yaml.Printer
