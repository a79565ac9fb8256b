import PocketScheme.Session
import PocketScheme.Text.LowerCase
import PocketScheme.World

/-!
The interactive session. Lines are gathered until they are a complete text or a command, then
evaluated in one growing session; an interrupt drops what was gathered.

* `Repl.Input`, `Repl.Emission`: what goes in and what comes out;
* `Repl.State`: machine, gathered text, output, history;
* `Repl.step`: one line or interrupt;
* `Repl.run`: all of them, until the end or a command to leave.
-/

namespace PocketScheme.Repl

/-- What the user does: enters a line, or interrupts. -/
inductive Input where
  | line (text : Text)
  | interrupt

/-- What comes out: a prompt, or text. -/
inductive Emission where
  | prompt (text : String)
  | text (text : Text)

/-- The prompt for a new text. -/
def mainPrompt : String := "sicp> "

/-- The prompt for a further line of a text. -/
def morePrompt : String := "....> "

/-- The answer to `:help`. -/
def helpText : String :=
  ":help          show this message\n" ++
  ":env           list global bindings\n" ++
  ":load <file>   evaluate a file into the session\n" ++
  ":quit          leave the REPL\n"

/-- The state of an interactive session. -/
structure State where
  world : World
  machine : Machine
  /-- The lines gathered so far. -/
  pending : Text
  /-- What came out, the last piece first. -/
  emitted : List Emission
  /-- The texts that were entered, the last one first. -/
  history : List Text

namespace State

/-- A session at its start. -/
def start (w : World) (m : Machine) : State :=
  ⟨w, m, "", [], []⟩

/-- The state with further text put out. -/
def emit (s : State) (text : Text) : State :=
  { s with emitted := .text text :: s.emitted }

/-- The state after a prompt. -/
def ask (s : State) : State :=
  let prompt := if s.pending.isEmpty then mainPrompt else morePrompt
  { s with emitted := .prompt prompt :: s.emitted }

/-- The prompts that were put out, in order. -/
def prompts (s : State) : List String :=
  s.emitted.reverse.filterMap fun
    | .prompt text => some text
    | .text _ => none

/-- The text that was put out, without the prompts. -/
def output (s : State) : Text :=
  Text.join <| s.emitted.reverse.filterMap fun
    | .prompt _ => none
    | .text text => some text

/-- All that was put out. -/
def transcript (s : State) : Text :=
  Text.join <| s.emitted.reverse.map fun
    | .prompt text => (text : Text)
    | .text text => text

end State

/-- Values as lines; void has none. -/
def valueLines (vs : List Expr) : String :=
  String.join ((vs.filter (fun v => !v.isVoid)).map fun v => v.render ++ "\n")

/-- Evaluates a text and puts out its values and the fault that stopped it. -/
def evaluate (s : State) (text : Text) : State :=
  let ((vs, fault), m) := Session.runSource text.chars s.machine
  let s := { s with machine := m }.emit (valueLines vs)
  match fault with
  | some f => s.emit ("error: " ++ f.message ++ "\n")
  | none => s

/-- The command `:load`. -/
def load (s : State) : List Text → State
  | [] => s.emit "usage: :load <file>\n"
  | path :: _ =>
    match s.world.contentOf path with
    | .ok content => evaluate s (Text.ofBytes content)
    | .error fault => s.emit ("cannot read " ++ path ++ ": " ++ fault.message ++ "\n")

/-- Carries out a command, and says whether it leaves the session. -/
def command (s : State) (text : Text) : State × Bool :=
  match text.fields with
  | [] => (s, false)
  | word :: rest =>
    match word.lower.string? with
    | some ":quit" | some ":exit" => (s, true)
    | some ":help" => (s.emit helpText, false)
    | some ":env" =>
      (s.emit (String.intercalate " " (s.machine.env.names?.getD []) ++ "\n"), false)
    | some ":load" => (load s rest, false)
    | _ => (s.emit "unknown command. Type :help for help.\n", false)

/-- The text starts with a colon. -/
def isCommand (text : Text) : Bool :=
  text.trim.startsWith ":"

/-- The text stops inside a form. -/
def isIncomplete (text : Text) : Bool :=
  match Form.readAll text.chars with
  | (_, some fault) => fault.isEnd
  | (_, none) => false

/-- One line of the history: line breaks are spaces. -/
def historyLine (text : Text) : Text :=
  ⟨text.toList.map fun (g : Glyph) => if g == '\n' then .char ' ' else g⟩

/-- Handles a gathered text, and says whether it leaves the session. -/
def submit (s : State) (text : Text) : State × Bool :=
  if text.isAllBlank then (s, false)
  else
    let s := { s with history := historyLine text :: s.history }
    if isCommand text then command s text.trim else (evaluate s text, false)

/-- Handles one line or interrupt, for which a prompt was put out, and says whether it leaves the
session. -/
def step (s : State) : Input → State × Bool
  | .interrupt => ({ s with pending := "" }, false)
  | .line line =>
    let text := if s.pending.isEmpty then line else s.pending ++ "\n" ++ line
    if isCommand text || !isIncomplete text then submit { s with pending := "" } text
    else ({ s with pending := text }, false)

/-- Handles lines and interrupts until they end or a command leaves the session, and gives back
those that are left. At the end the line of the prompt is ended. -/
def run (s : State) : List Input → State × List Input
  | [] => (s.ask.emit "\n", [])
  | i :: rest =>
    match step s.ask i with
    | (s, true) => (s, rest)
    | (s, false) => run s rest

/-! ### History on disk -/

/-- The name of the history file. -/
def historyFile : String := "history"

/-- The most entries that a history keeps. -/
def historyLimit : Nat := 1000

/-- The last entries of a history, which is given with the last one first. -/
def lastEntries (history : List Text) : List Text :=
  history.take historyLimit

/-- Adds an entry to a history, the last entry first, unless it repeats that. -/
def remember (history : List Text) (entry : Text) : List Text :=
  if history.head? == some entry then history else lastEntries (entry :: history)

/-- The most bytes that are read as one line. -/
def lineLimit : Nat := 4096

/-- A line as it is read, or a piece of one that is too long. -/
structure Line where
  bytes : Text.Bytes
  isPiece : Bool

/-- The line that a content starts with, and how many bytes it takes. A line break is a newline or a
carriage return and a newline. A piece of a longer line does not end in a carriage return, which may
be the first half of a line break. -/
def firstLine (content : Text.Bytes) : Line × Nat :=
  let window := content.take lineLimit
  let line := window.takeWhile (· != 10)
  if line.length < window.length then
    (⟨if line.getLast? == some 13 then line.dropLast else line, false⟩, line.length + 1)
  else if window.length < lineLimit then (⟨line, false⟩, line.length)
  else if line.getLast? == some 13 then (⟨line.dropLast, true⟩, lineLimit - 1)
  else (⟨line, true⟩, lineLimit)

/-- The lines of a content, of which there are at most `fuel`. -/
def linesFrom : Nat → Text.Bytes → List Line
  | 0, _ => []
  | fuel + 1, content =>
    if content.isEmpty then []
    else
      let (line, used) := firstLine content
      line :: linesFrom fuel (content.drop used)

/-- The lines of a content; a last line break ends a line and starts none. -/
def lines (content : Text.Bytes) : List Line :=
  linesFrom content.length content

/-- The entry of a history file on a line, if it is whole and well-formed. -/
def historyEntry? (line : Line) : Option Text :=
  if line.isPiece then none else (Text.ofBytes line.bytes).string?.map Text.ofString

/-- The entries of a history file, the last one first; reading stops at a line that is too long or
not well-formed. -/
def readHistory (content : Text.Bytes) : List Text :=
  let entries := (lines content).map historyEntry?
  lastEntries ((entries.takeWhile Option.isSome).filterMap id).reverse

/-- The text of a history file. -/
def historyText (history : List Text) : Text :=
  Text.join (history.reverse.map (· ++ "\n"))

end PocketScheme.Repl
