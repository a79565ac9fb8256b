import PocketScheme.Cli.Command
import PocketScheme.Text.Quoted

/-!
Reading the command line: which command it names, and then its flags and arguments.

* `findCommand`: the command, and the words without its name;
* `FlagFault`: what is wrong with the flags;
* `parseFlags`: flags and arguments of a command.
-/

namespace PocketScheme.Cli

/-! ### Finding the command -/

/-- The text has an equals sign. -/
def hasEquals (t : Text) : Bool :=
  t.toList.contains (.char '=')

/-- The switch with a name. -/
def isLongSwitch (flags : List Flag) (name : Text) : Bool :=
  flags.any (fun f => Text.ofString f.name == name && f.isSwitch)

/-- The switch with a letter. -/
def isShortSwitch (flags : List Flag) (letter : Glyph) : Bool :=
  flags.any (fun f => f.letter.map Glyph.char == some letter && f.isSwitch)

/-- The word is a flag whose value is the next word: no known switch, and no equals sign in it. -/
def takesNext (flags : List Flag) (word : Text) : Bool :=
  match word.toList with
  | .char '-' :: .char '-' :: name => !hasEquals word && !isLongSwitch flags ⟨name⟩
  | [.char '-', g] => !hasEquals word && g.bytes.length == 1 && !isShortSwitch flags g
  | _ => false

/-- The words that are neither flags nor their values. A flag with a value as the last word but one
ends the search. -/
def plainWords (flags : List Flag) : List Text → List Text
  | [] => []
  | s :: rest =>
    if s == "--" then []
    else if takesNext flags s then
      match rest with
      | [] | [_] => []
      | _ :: rest => plainWords flags rest
    else if s.isEmpty || s.startsWith "-" then plainWords flags rest
    else s :: plainWords flags rest

/-- The words without the first one that is `x` and neither a flag nor the value of one. -/
def dropWord (flags : List Flag) (x : Text) : List Text → List Text
  | [] => []
  | s :: rest =>
    if s == "--" then s :: rest
    else if takesNext flags s then
      match rest with
      | [] => [s]
      | v :: rest => s :: v :: dropWord flags x rest
    else if s == x && !s.startsWith "-" then rest
    else s :: dropWord flags x rest

/-- The command that a word names below another one. -/
def child? (c : Command) (word : Text) : Option Command :=
  c.children.find? (fun d => Text.ofString d.name == word)

/-- Follows the words from a command down, at most `depth` steps: the command, and the words that
are left. -/
def descend : Nat → Command → List Text → Command × List Text
  | 0, c, args => (c, args)
  | depth + 1, c, args =>
    match plainWords c.earlyFlags args with
    | [] => (c, args)
    | word :: _ =>
      match child? c word with
      | some d => descend depth d (dropWord c.earlyFlags word args)
      | none => (c, args)

/-- The command that words name, the words that are left, and the word that should have been a
command, if there is one. -/
def findCommand (args : List Text) : Command × List Text × Option Text :=
  let (c, rest) := descend 3 .root args
  let unknown := if c == .root then (plainWords c.earlyFlags rest).head? else none
  (c, rest, unknown)

/-! ### Flags -/

/-- What is wrong with flags. -/
inductive FlagFault where
  | badSyntax (word : Text)
  | unknownName (name : Text)
  | unknownLetter (letter : Char) (group : Text)
  | noValue (word : Text)
  | noLetterValue (letter : Char) (group : Text)
  | notBoolean (value : Text) (label : String)
  deriving DecidableEq, Repr

/-- The text of a fault. -/
def FlagFault.message : FlagFault → Text
  | badSyntax word => "bad flag syntax: " ++ word
  | unknownName name => "unknown flag: --" ++ name
  | unknownLetter letter group =>
    "unknown shorthand flag: " ++ Text.quoteChar letter ++ " in -" ++ group
  | noValue word => "flag needs an argument: " ++ word
  | noLetterValue letter group =>
    "flag needs an argument: " ++ Text.quoteChar letter ++ " in -" ++ group
  | notBoolean value label =>
    "invalid argument " ++ Text.quote value ++ " for " ++ Text.quote label ++
      " flag: strconv.ParseBool: parsing " ++ Text.quote value ++ ": invalid syntax"

/-- The truth value that a text spells. -/
def boolean? (t : Text) : Option Bool :=
  t.string?.bind fun s =>
    if ["1", "t", "T", "TRUE", "true", "True"].contains s then some true
    else if ["0", "f", "F", "FALSE", "false", "False"].contains s then some false
    else none

/-- Flags that are set, the last one first, and arguments in order. -/
structure Parsed where
  values : List (String × Text)
  arguments : List Text

namespace Parsed

/-- The switch is on. -/
def isOn (p : Parsed) (name : String) : Bool :=
  ((p.values.lookup name).bind boolean?).getD false

/-- The value of a flag, empty if it is not set. -/
def value (p : Parsed) (name : String) : Text :=
  (p.values.lookup name).getD ""

/-- Sets a flag; a switch takes only truth values. -/
def set (p : Parsed) (f : Flag) (value : Text) : Except FlagFault Parsed :=
  if f.isSwitch && (boolean? value).isNone then .error (.notBoolean value f.label)
  else .ok { p with values := (f.name, value) :: p.values }

/-- Adds an argument. -/
def addArgument (p : Parsed) (s : Text) : Parsed :=
  { p with arguments := p.arguments ++ [s] }

end Parsed

/-- Reads a flag by name, with the word after it at hand; the second component says whether that
was its value. -/
def longFlag (flags : List Flag) (p : Parsed) (word : Text) (body : List Glyph)
    (next : Option Text) : Except FlagFault (Parsed × Bool) := do
  let name := Text.ofList (body.takeWhile (· != .char '='))
  if body.isEmpty || body.head? == some (.char '-') || body.head? == some (.char '=') then
    .error (.badSyntax word)
  else match flags.find? (fun f => Text.ofString f.name == name) with
    | none => .error (.unknownName name)
    | some f =>
      match body.dropWhile (· != .char '=') with
      | _ :: value => return (← p.set f ⟨value⟩, false)
      | [] =>
        if f.isSwitch then return (← p.set f "true", false)
        else match next with
          | some value => return (← p.set f value, true)
          | none => .error (.noValue word)

/-- The first byte of a glyph, as a character. -/
def firstByte (g : Glyph) : Char :=
  match g.bytes with
  | b :: _ => Char.ofNat b.toNat
  | [] => g.shown

/-- Reads a group of letters, with the word after it at hand; the second component says whether
that was a value. A group that starts with `test.` is passed over. -/
def shortFlags (flags : List Flag) (p : Parsed) (next : Option Text) :
    List Glyph → Except FlagFault (Parsed × Bool)
  | [] => .ok (p, false)
  | g :: gs =>
    let group := Text.ofList (g :: gs)
    if group.startsWith "test." then .ok (p, false)
    else match flags.find? (fun f => f.letter.map Glyph.char == some g) with
      | none => .error (.unknownLetter (firstByte g) group)
      | some f =>
        match gs with
        | .char '=' :: d :: ds => do return (← p.set f ⟨d :: ds⟩, false)
        | _ =>
          if f.isSwitch then
            match p.set f "true" with
            | .ok p => shortFlags flags p next gs
            | .error fault => .error fault
          else if !gs.isEmpty then do return (← p.set f ⟨gs⟩, false)
          else match next with
            | some value => do return (← p.set f value, true)
            | none => .error (.noLetterValue (firstByte g) group)

/-- Reads flags and arguments, in any order; after `--` everything is an argument. -/
def parseWords (flags : List Flag) (p : Parsed) (words : List Text) : Except FlagFault Parsed :=
  match words with
  | [] => .ok p
  | s :: rest =>
    match s.toList with
    | [.char '-', .char '-'] => .ok { p with arguments := p.arguments ++ rest }
    | .char '-' :: .char '-' :: body =>
      match longFlag flags p s body rest.head? with
      | .error fault => .error fault
      | .ok (p, used) => parseWords flags p (if used then rest.drop 1 else rest)
    | .char '-' :: g :: gs =>
      match shortFlags flags p rest.head? (g :: gs) with
      | .error fault => .error fault
      | .ok (p, used) => parseWords flags p (if used then rest.drop 1 else rest)
    | _ => parseWords flags (p.addArgument s) rest
termination_by words.length
decreasing_by
  all_goals (try split) <;> simp only [List.length_cons, List.length_drop] <;> omega

/-- Flags and arguments of a command. -/
def parseFlags (c : Command) (words : List Text) : Except FlagFault Parsed :=
  parseWords c.allFlags ⟨[], []⟩ words

end PocketScheme.Cli
