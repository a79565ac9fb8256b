import PocketScheme.Pattern.Basic
import PocketScheme.Text.Quoted

/-!
Reading patterns from their text.

* `Pattern.Fault`: what is wrong with a text, with the part that is wrong;
* `Pattern.Draft`: what is read so far, group in group;
* `Pattern.parse`: the pattern that a text spells.
-/

namespace PocketScheme.Pattern

/-! ### Faults -/

/-- The kinds of faults. -/
inductive Cause where
  | badRange
  | badEscape
  | badGroupName
  | badGroup
  | nestedRepetition
  | badCount
  | unclosedSet
  | unclosedGroup
  | nothingToRepeat
  | lastBackslash
  | strayParenthesis
  | tooDeep
  | tooLarge
  deriving DecidableEq, Repr

/-- The text of a kind of fault. -/
def Cause.message : Cause → String
  | badRange => "invalid character class range"
  | badEscape => "invalid escape sequence"
  | badGroupName => "invalid named capture"
  | badGroup => "invalid or unsupported Perl syntax"
  | nestedRepetition => "invalid nested repetition operator"
  | badCount => "invalid repeat count"
  | unclosedSet => "missing closing ]"
  | unclosedGroup => "missing closing )"
  | nothingToRepeat => "missing argument to repetition operator"
  | lastBackslash => "trailing backslash at end of expression"
  | strayParenthesis => "unexpected )"
  | tooDeep => "expression nests too deeply"
  | tooLarge => "expression too large"

/-- A fault, and the part of the text that shows it. -/
structure Fault where
  cause : Cause
  part : String
  deriving DecidableEq, Repr

/-- The text of a fault. -/
def Fault.message (f : Fault) : String :=
  "error parsing regexp: " ++ f.cause.message ++ ": \x60" ++ f.part ++ "\x60"

/-- Fails with the part of a text that ends in front of `rest`. -/
def fail {α : Type} (cause : Cause) (text rest : List Char) : Except Fault α :=
  .error ⟨cause, String.ofList (text.take (text.length - rest.length))⟩

/-! ### Characters -/

/-- The value of an octal digit. -/
def octal? (c : Char) : Option Nat :=
  if '0' ≤ c && c ≤ '7' then some (c.toNat - '0'.toNat) else none

/-- Up to `n` further octal digits. -/
def octalDigits (value : Nat) : Nat → List Char → Nat × List Char
  | n + 1, c :: cs =>
    match octal? c with
    | some d => octalDigits (value * 8 + d) n cs
    | none => (value, c :: cs)
  | _, cs => (value, cs)

/-- The greatest code of a character. -/
def lastCode : Nat := 0x10ffff

/-- Hexadecimal digits up to a closing brace, of which there is at least one: the code, or where the
digits end too early. -/
def braced (value : Nat) (some? : Bool) : List Char → Except (List Char) (Nat × List Char)
  | [] => .error []
  | c :: cs =>
    if c == '\x7d' then if some? then .ok (value, cs) else .error cs
    else match Text.hexDigit? c with
      | some d => if lastCode < value * 16 + d then .error cs else braced (value * 16 + d) true cs
      | none => .error cs

/-- The code behind `\x`: two digits, or any number of them in braces. -/
def hexCode : List Char → Except (List Char) (Nat × List Char)
  | [] => .error []
  | c :: cs =>
    if c == '\x7b' then braced 0 false cs
    else match Text.hexValue? (c :: cs.take 1) with
      | some n => if cs.isEmpty then .error [] else .ok (n, cs.tail)
      | none => .error cs.tail

/-- The control character that a letter stands for. -/
def controlCode? (c : Char) : Option Nat :=
  match c with
  | 'a' => some 0x07
  | 'f' => some 0x0c
  | 'n' => some 0x0a
  | 'r' => some 0x0d
  | 't' => some 0x09
  | 'v' => some 0x0b
  | _ => none

/-- The code behind a backslash at the front of `text`, which `cs` follows. A digit alone is no
code, and of the other characters only ASCII ones that are no letters stand for themselves. -/
def escape (text : List Char) : List Char → Except Fault (Nat × List Char)
  | [] => .error ⟨.lastBackslash, ""⟩
  | c :: cs =>
    let isOctal := c == '0' || ((octal? c).isSome && (cs.head?.bind octal?).isSome)
    if isOctal then .ok (octalDigits ((octal? c).getD 0) 2 cs)
    else if c == 'x' then
      match hexCode cs with
      | .ok r => .ok r
      | .error rest => fail .badEscape text rest
    else match controlCode? c with
      | some n => .ok (n, cs)
      | none =>
        if c.toNat < 0x80 && !c.isAlphanum then .ok (c.toNat, cs) else fail .badEscape text cs

/-! ### Sets -/

/-- What a pattern is read under: whether case counts, whether lines count, and whether a dot is any
character. -/
structure Options where
  fold : Bool
  lines : Bool
  dotAll : Bool
  deriving DecidableEq, Repr

/-- The text in front of `c`, and behind it. -/
def cut? (c : Char) (cs : List Char) : Option (List Char × List Char) :=
  match cs.dropWhile (· != c) with
  | _ :: rest => some (cs.takeWhile (· != c), rest)
  | [] => none

/-- The name of a property, in braces or a single character, and the rest. -/
def propertyName (text : List Char) : List Char → Except Fault (List Char × List Char)
  | '\x7b' :: cs =>
    match cut? '\x7d' cs with
    | some r => .ok r
    | none => fail .badRange text []
  | c :: cs => .ok ([c], cs)
  | [] => .ok ([], [])

/-- The set of a property with a sign. -/
def propertySet? (fold positive : Bool) (name : List Char) : Option CharSet :=
  let (positive, name) := match name with
    | '^' :: name => (!positive, name)
    | name => (positive, name)
  if Property.canonical name == "assigned".toList then
    some (CharSet.signed fold (!positive) (.property (.category .unassigned)))
  else (Property.ofName? name).map fun p => CharSet.signed fold positive (.property p)

/-- The set that a text stands for which starts with a backslash, if it is one, and the rest. -/
def escapedSet? (fold : Bool) (text : List Char) : Except Fault (Option (CharSet × List Char)) :=
  match text with
  | '\\' :: c :: cs =>
    if c == 'p' || c == 'P' then do
      let (name, rest) ← propertyName text cs
      match propertySet? fold (c == 'p') name with
      | some s => .ok (some (s, rest))
      | none => fail .badRange text rest
    else .ok <| (CharSet.ofEscape? c).map fun (positive, s) => (CharSet.signed fold positive s, cs)
  | _ => .ok none

/-- The text up to a word, and what follows that. -/
def cutWord? (word : List Char) : List Char → Option (List Char × List Char)
  | [] => none
  | c :: cs =>
    match word.isPrefixOf? (c :: cs) with
    | some rest => some ([], rest)
    | none => (cutWord? word cs).map fun (front, rest) => (c :: front, rest)

/-- The set with a name between `[:` and `:]`, if a text starts with one, and the rest. -/
def namedSet? (fold : Bool) (text : List Char) : Except Fault (Option (CharSet × List Char)) :=
  match text with
  | '[' :: ':' :: cs =>
    match cutWord? [':', ']'] cs with
    | none => .ok none
    | some (name, rest) =>
      match CharSet.ofClass? name with
      | some (positive, s) => .ok (some (CharSet.signed fold positive s, rest))
      | none => fail .badRange text rest
  | _ => .ok none

/-- A character of a set that starts with `whole`. -/
def setChar (whole : List Char) : List Char → Except Fault (Nat × List Char)
  | [] => fail .unclosedSet whole []
  | '\\' :: cs => escape ('\\' :: cs) cs
  | c :: cs => .ok (c.toNat, cs)

/-- A character of a set, or a range of them. A hyphen in front of the closing bracket is a
character. -/
def setRange (whole text : List Char) : Except Fault ((Nat × Nat) × List Char) := do
  let (first, rest) ← setChar whole text
  match rest with
  | '-' :: c :: cs =>
    if c == ']' then return ((first, first), rest)
    else
      let (last, rest) ← setChar whole (c :: cs)
      if last < first then fail .badRange text rest else return ((first, last), rest)
  | _ => return ((first, first), rest)

/-- One item of a set. -/
def setItem (fold : Bool) (whole text : List Char) : Except Fault (CharSet × List Char) := do
  match ← namedSet? fold text with
  | some r => return r
  | none =>
    match ← escapedSet? fold text with
    | some r => return r
    | none =>
      let ((first, last), rest) ← setRange whole text
      return (CharSet.signed fold true (.range first last), rest)

/-- The items of a set up to its closing bracket, which does not count as the first item. -/
def setItems (fold : Bool) (whole : List Char) :
    Nat → Bool → List Char → Except Fault (List CharSet × List Char)
  | 0, _, _ => fail .unclosedSet whole []
  | fuel + 1, isFirst, text => do
    match text with
    | ']' :: rest =>
      if isFirst then
        let (s, rest) ← setItem fold whole text
        let (sets, rest) ← setItems fold whole fuel false rest
        return (s :: sets, rest)
      else return ([], rest)
    | _ =>
      let (s, rest) ← setItem fold whole text
      let (sets, rest) ← setItems fold whole fuel false rest
      return (s :: sets, rest)

/-- A set in brackets; a caret in front of its items asks for the complement. -/
def readSet (fold : Bool) (whole : List Char) : Except Fault (CharSet × List Char) := do
  let inner := whole.tail
  match inner with
  | '^' :: cs =>
    let (sets, rest) ← setItems fold whole (whole.length + 1) true cs
    return (.complement (.union sets), rest)
  | cs =>
    let (sets, rest) ← setItems fold whole (whole.length + 1) true cs
    return (.union sets, rest)

/-! ### Drafts -/

/-- A group that is being read: the options around it, whether it counts, the alternatives in front
of it, and what precedes it in its own one. -/
structure Frame where
  options : Options
  counts : Bool
  alternatives : List Pattern
  sequence : List Pattern

/-- What is read so far, lists in reverse. -/
structure Draft where
  options : Options
  frames : List Frame
  alternatives : List Pattern
  sequence : List Pattern
  /-- The text from the last repetition on, if nothing followed it. -/
  lastRepeat : Option (List Char)

namespace Draft

/-- Nothing is read. -/
def start : Draft :=
  ⟨⟨false, false, false⟩, [], [], [], none⟩

/-- The draft with a further pattern. -/
def push (d : Draft) (p : Pattern) : Draft :=
  { d with sequence := p :: d.sequence }

/-- Patterns one after the other, given in reverse. -/
def sequenceOf (ps : List Pattern) : Pattern :=
  match ps with
  | [p] => p
  | ps => .seq ps.reverse

/-- The pattern of the innermost group. -/
def inner (d : Draft) : Pattern :=
  match d.alternatives with
  | [] => sequenceOf d.sequence
  | ps => .alt (sequenceOf d.sequence :: ps).reverse

/-- Opens a group. -/
def openGroup (d : Draft) (counts : Bool) (options : Options) : Draft :=
  { options := options
    frames := ⟨d.options, counts, d.alternatives, d.sequence⟩ :: d.frames
    alternatives := []
    sequence := []
    lastRepeat := none }

/-- Starts a further alternative. -/
def bar (d : Draft) : Draft :=
  { d with alternatives := sequenceOf d.sequence :: d.alternatives, sequence := [] }

end Draft

/-- The greatest depth. -/
def depthLimit : Nat := 1000

/-- The greatest size. -/
def sizeLimit : Nat := 3355443

/-- The pattern is not beyond the limits. -/
def checkLimits (whole : List Char) (p : Pattern) : Except Fault Unit :=
  if sizeLimit < p.size then fail .tooLarge whole []
  else if depthLimit < p.height then fail .tooDeep whole []
  else .ok ()

/-- Closes the innermost group. -/
def Draft.closeGroup (d : Draft) (whole : List Char) : Except Fault Draft :=
  match d.frames with
  | [] => fail .strayParenthesis whole []
  | f :: frames => do
    let p := if f.counts then .group d.inner else d.inner
    checkLimits whole p
    return ⟨f.options, frames, f.alternatives, p :: f.sequence, none⟩

/-! ### Groups -/

/-- The characters of the names of groups. -/
def isNameChar (c : Char) : Bool :=
  c.isAlphanum || c == '_'

/-- A group with a name, which starts with `text` and goes on with `cs` from the name on. -/
def namedGroup (d : Draft) (text cs : List Char) : Except Fault (Draft × List Char) :=
  match cut? '>' cs with
  | none => fail .badGroupName text []
  | some (name, rest) =>
    if !name.isEmpty && name.all isNameChar then .ok (d.openGroup true d.options, rest)
    else fail .badGroupName text rest

/-- The options behind `(?`: letters, a minus sign in front of those to switch off, and a colon in
front of a group, or the closing parenthesis. -/
def readOptions (d : Draft) (text : List Char) (negative seen : Bool) (o : Options) :
    List Char → Except Fault (Draft × List Char)
  | [] => fail .badGroup text []
  | c :: cs =>
    match c with
    | 'i' => readOptions d text negative true { o with fold := !negative } cs
    | 'm' => readOptions d text negative true { o with lines := !negative } cs
    | 's' => readOptions d text negative true { o with dotAll := !negative } cs
    | 'U' => readOptions d text negative true o cs
    | '-' =>
      if negative then fail .badGroup text cs else readOptions d text true false o cs
    | ':' =>
      if negative && !seen then fail .badGroup text cs else .ok (d.openGroup false o, cs)
    | ')' =>
      if negative && !seen then fail .badGroup text cs else .ok ({ d with options := o }, cs)
    | _ => fail .badGroup text cs

/-- What starts with an opening parenthesis. -/
def readGroup (d : Draft) (text : List Char) : Except Fault (Draft × List Char) :=
  match text with
  | '(' :: '?' :: 'P' :: '<' :: c :: cs => namedGroup d text (c :: cs)
  | '(' :: '?' :: '<' :: c :: cs => namedGroup d text (c :: cs)
  | '(' :: '?' :: cs => readOptions d text false false d.options cs
  | text => .ok (d.openGroup true d.options, text.tail)

/-! ### Repetitions -/

/-- A count in front of a text: decimal digits without a leading zero. -/
def count? (cs : List Char) : Option (Nat × List Char) :=
  let ds := cs.takeWhile Char.isDigit
  if ds.isEmpty || (ds.head? == some '0' && 1 < ds.length) then none
  else some (ds.foldl (fun n d => n * 10 + (d.toNat - '0'.toNat)) 0, cs.dropWhile Char.isDigit)

/-- The counts in braces behind the opening one: the least, the most if there is a bound, and the
rest. -/
def counts? (cs : List Char) : Option (Nat × Option Nat × List Char) := do
  let (least, cs) ← count? cs
  match cs with
  | '\x7d' :: rest => some (least, some least, rest)
  | ',' :: '\x7d' :: rest => some (least, none, rest)
  | ',' :: cs =>
    let (most, cs) ← count? cs
    match cs with
    | '\x7d' :: rest => some (least, some most, rest)
    | _ => none
  | _ => none

/-- The greatest count. -/
def countLimit : Nat := 1000

/-- Repeats the last pattern. The repetition is spelled by `text` up to `rest`, behind which a
question mark may follow. -/
def repeatLast (d : Draft) (whole text rest : List Char) (least : Nat) (most : Option Nat) :
    Except Fault (Draft × List Char) :=
  let rest := match rest with
    | '?' :: cs => cs
    | cs => cs
  match d.lastRepeat with
  | some before => fail .nestedRepetition before rest
  | none =>
    match d.sequence with
    | [] => fail .nothingToRepeat text rest
    | p :: ps => do
      let repeated := Pattern.repeated p least most
      checkLimits whole repeated
      if (2 ≤ least || most.any (2 ≤ ·)) && !repeated.repeatsWithin countLimit then
        fail .badCount text rest
      else return ({ d with sequence := repeated :: ps, lastRepeat := some text }, rest)

/-- What starts with an opening brace: counts, or else the brace is a character. -/
def readCounts (d : Draft) (whole text : List Char) : Except Fault (Draft × List Char) :=
  match counts? text.tail with
  | none =>
    .ok ({ d with lastRepeat := none }.push (.literal d.options.fold '\x7b'.toNat), text.tail)
  | some (least, most, rest) =>
    if countLimit < least || most.any (fun m => countLimit < m || m < least) then
      fail .badCount text rest
    else repeatLast d whole text rest least most

/-! ### Patterns -/

/-- The text between `\Q` and `\E`, or up to the end, and the rest. -/
def quotedText (cs : List Char) : List Char × List Char :=
  (cutWord? ['\\', 'E'] cs).getD (cs, [])

/-- What starts with a backslash. -/
def readEscape (d : Draft) (text : List Char) : Except Fault (Draft × List Char) := do
  let fold := d.options.fold
  match text with
  | '\\' :: 'A' :: cs => return (d.push (.edge .textStart), cs)
  | '\\' :: 'b' :: cs => return (d.push (.edge .wordEdge), cs)
  | '\\' :: 'B' :: cs => return (d.push (.edge .noWordEdge), cs)
  | '\\' :: 'C' :: cs => fail .badEscape text cs
  | '\\' :: 'Q' :: cs =>
    let (quoted, rest) := quotedText cs
    return (quoted.foldl (fun d c => d.push (.literal fold c.toNat)) d, rest)
  | '\\' :: 'z' :: cs => return (d.push (.edge .textEnd), cs)
  | _ =>
    match ← escapedSet? fold text with
    | some (s, rest) => return (d.push (.one s), rest)
    | none =>
      let (code, rest) ← escape text text.tail
      return (d.push (.literal fold code), rest)

/-- The characters but the line feed. -/
def exceptNewline : CharSet :=
  .complement (.single 0xa)

/-- All characters. -/
def anyChar : CharSet :=
  .property .any

/-- Reads one step of a pattern, which is not a repetition. -/
def readStep (d : Draft) (whole text : List Char) (c : Char) (cs : List Char) :
    Except Fault (Draft × List Char) :=
  let o := d.options
  match c with
  | '(' => readGroup d text
  | ')' => do return (← d.closeGroup whole, cs)
  | '|' => .ok (d.bar, cs)
  | '^' => .ok (d.push (.edge (if o.lines then .lineStart else .textStart)), cs)
  | '$' => .ok (d.push (.edge (if o.lines then .lineEnd else .textEnd)), cs)
  | '.' => .ok (d.push (.one (if o.dotAll then anyChar else exceptNewline)), cs)
  | '[' => do
    let (s, rest) ← readSet o.fold text
    return (d.push (.one s), rest)
  | '\\' => readEscape d text
  | c => .ok (d.push (.literal o.fold c.toNat), cs)

/-- Reads on in a pattern. -/
def readFrom (whole : List Char) : Nat → Draft → List Char → Except Fault Draft
  | 0, d, _ => .ok d
  | _, d, [] => .ok d
  | fuel + 1, d, c :: cs => do
    let text := c :: cs
    let (d, rest) ← match c with
      | '*' => repeatLast d whole text cs 0 none
      | '+' => repeatLast d whole text cs 1 none
      | '?' => repeatLast d whole text cs 0 (some 1)
      | '\x7b' => readCounts d whole text
      | _ => readStep { d with lastRepeat := none } whole text c cs
    readFrom whole fuel d rest

/-- The pattern that a text spells. -/
def parse (text : String) : Except Fault Pattern := do
  let whole := text.toList
  let d ← readFrom whole whole.length Draft.start whole
  if !d.frames.isEmpty then fail .unclosedGroup whole []
  else
    checkLimits whole d.inner
    return d.inner

end PocketScheme.Pattern
