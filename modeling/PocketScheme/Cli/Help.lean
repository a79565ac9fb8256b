import PocketScheme.Cli.Command
import PocketScheme.Text.LowerCase
import PocketScheme.Text.Quoted

/-!
Help texts, and suggestions for misspelled commands.

* `Command.usage`: how a command is used;
* `Command.helpText`: what it does and how it is used;
* `suggestions`: the commands that a word may have meant.
-/

namespace PocketScheme.Cli

namespace Command

/-- A text with blanks behind it up to a width. -/
def padTo (width : Nat) (s : String) : String :=
  s ++ String.ofList (List.replicate (width - s.length) ' ')

/-- How a flag is written. -/
def flagLabel (f : Flag) : String :=
  let lead := match f.letter with
    | some c => "  -" ++ String.ofList [c] ++ ", --"
    | none => "      --"
  lead ++ f.name ++ (match f.valueKind with
    | some kind => " " ++ kind
    | none => "")

/-- Flags in order of their names, one a line, what they do in one column. -/
def flagLines (flags : List Flag) : String :=
  let sorted := flags.mergeSort (fun a b => decide (a.name ≤ b.name))
  let width := (sorted.map fun f => (flagLabel f).length).foldl max 0
  String.join (sorted.map fun f => padTo width (flagLabel f) ++ "   " ++ f.usage ++ "\n")

/-- The children of a command in order of their names, one a line. -/
def childLines (c : Command) : String :=
  let sorted := c.children.mergeSort (fun a b => decide (a.name ≤ b.name))
  String.join (sorted.map fun d => "  " ++ padTo 11 d.name ++ " " ++ d.short ++ "\n")

/-- How a command is used, with the given flags of its own. -/
def usage (c : Command) (own : List Flag) : String :=
  "Usage:\n" ++
    (if c.isRunnable then "  " ++ c.path ++ c.operands ++ " [flags]\n" else "") ++
    (if c.children.isEmpty then ""
      else "  " ++ c.path ++ " [command]\n\nAvailable Commands:\n" ++ c.childLines) ++
    (if own.isEmpty then "" else "\nFlags:\n" ++ flagLines own) ++
    (if c.parent.isSome then "\nGlobal Flags:\n" ++ flagLines [traceFlag] else "") ++
    (if c.children.isEmpty then ""
      else "\nUse \"" ++ c.path ++ " [command] --help\" for more information about a command.\n")

/-- The flags that are a command's own in its help. -/
def ownFlags (c : Command) : List Flag :=
  if c == root then c.allFlags else c.allFlags.filter (fun f => f != traceFlag)

/-- The help of a command. -/
def helpText (c : Command) : String :=
  c.long ++ "\n\n" ++ c.usage c.ownFlags

end Command

/-- The answer to a question for help about something that is no command. -/
def unknownTopic (words : List Text) : String :=
  "Unknown help topic [" ++ String.intercalate " " (words.map Text.quoteRaw) ++ "]\n" ++
    Command.usage .root [Command.traceFlag]

/-! ### Suggestions -/

/-- The next row of the table of edit distances, for one more byte `a`: each entry is one more than
the least of its neighbours, or the diagonal one if the bytes are equal. -/
def editRow (a : UInt8) (left diagonal : Nat) : List UInt8 → List Nat → List Nat
  | b :: bs, above :: row =>
    let d := if a == b then diagonal else 1 + min diagonal (min left above)
    d :: editRow a d above bs row
  | _, _ => []

/-- The rows of the table of edit distances, down to the last one. -/
def editRows (bs : List UInt8) : List UInt8 → List Nat → List Nat
  | [], row => row
  | a :: as, row =>
    let first := row.headD 0
    editRows bs as ((first + 1) :: editRow a (first + 1) first bs row.tail)

/-- The least number of bytes to put in, take out or change between two texts. -/
def editDistance (s t : Text) : Nat :=
  let bs := t.bytes
  (editRows bs s.bytes (List.range (bs.length + 1))).getLast?.getD 0

/-- The commands that a word may have meant: those within two edits, and those that start with it,
in letters of either case. -/
def suggestions (word : Text) : List Command :=
  let word := word.lower
  (Command.children .root).filter fun c =>
    c != .help && (editDistance word c.name ≤ 2 || Text.startsWith c.name word)

/-- What is said of a word that is no command. -/
def unknownCommand (word : Text) : String :=
  let hints := match suggestions word with
    | [] => ""
    | cs => "\n\nDid you mean this?\n" ++ String.join (cs.map fun c => "\t" ++ c.name ++ "\n")
  "unknown command " ++ Text.quote word ++ " for " ++ Text.quote Command.root.path ++ hints

/-- What is said of an argument of a command that takes none. -/
def unexpectedArgument (c : Command) (word : Text) : String :=
  "unknown command " ++ Text.quote word ++ " for " ++ Text.quote c.path

end PocketScheme.Cli
