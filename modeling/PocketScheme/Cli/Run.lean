import PocketScheme.Cli.Arguments
import PocketScheme.Cli.Help
import PocketScheme.Package.Program
import PocketScheme.Repl

/-!
Carrying out a command line.

* `Cli.Result`: exit code, output, and the world afterwards;
* `Cli.Action`: what a command line asks for;
* `Cli.execute`: a whole command line.
-/

namespace PocketScheme.Cli

/-- What a command line comes to. -/
structure Result where
  code : Nat
  stdout : Text
  stderr : Text
  world : World
  /-- What ended everything, if something did. -/
  crash : Option Text

/-- A command that worked. -/
def success (w : World) (stdout stderr : Text) : Result :=
  ⟨0, stdout, stderr, w, none⟩

/-- A command that failed, with a message after what was put out before. -/
def failure (w : World) (stdout stderr message : Text) : Result :=
  ⟨1, stdout, stderr ++ "error: " ++ message ++ "\n", w, none⟩

/-- A command that ended everything. -/
def crashed (w : World) (message : Text) : Result :=
  ⟨2, "", message ++ "\n", w, some message⟩

/-- A command that packages could not be loaded for. -/
def notLoaded (w : World) (fault : PackageFault) : Result :=
  if fault.isCrash then crashed w fault.message else failure w "" "" fault.message

/-- The name and version of the program. -/
def versionText : String := "sicp 0.1.0-dev"

/-- What is said when there is no manifest. -/
def noManifest : String := "package.yml not found"

/-! ### Running programs -/

/-- The options of `run`. -/
structure RunOptions where
  trace : Bool
  expression : Bool
  print : Bool
  target : Text

/-- Values as lines, if they are to be printed. -/
def printed (o : RunOptions) (vs : List Expr) : String :=
  if o.print then Repl.valueLines vs else ""

/-- Evaluates texts one after the other, until one fails: what they print, and the fault. -/
def runExpressions (o : RunOptions) : List Text → Machine →
    (String × Option SourceFault) × Machine
  | [], m => (("", none), m)
  | text :: texts, m =>
    match Session.runSource text.chars m with
    | ((vs, some fault), m) => ((printed o vs, some fault), m)
    | ((vs, none), m) =>
      let ((out, fault), m) := runExpressions o texts m
      ((printed o vs ++ out, fault), m)

/-- The program that files or the nearest manifest make up, or what the command comes to without
one. -/
def loadProgram (w : World) (files : List Text) (target : Text) :
    Except Result (Program × World) :=
  if !files.isEmpty then
    match Program.ofFiles w files with
    | .ok program => .ok (program, w)
    | .error fault => .error (notLoaded w fault)
  else match Manifest.find w "." with
    | .error fault => .error (failure w "" "" fault.message)
    | .ok none =>
      .error (failure w "" "" ("sicp run requires files, -e expressions, or a manifest target (" ++
        noManifest ++ ")"))
    | .ok (some path) =>
      match w.home with
      | .error fault => .error (failure w "" "" fault.message)
      | .ok home =>
        let loaded := Program.ofTarget (Fetcher.cached home) w path target
        match loaded.result with
        | .ok program => .ok (program, loaded.world)
        | .error fault => .error (notLoaded loaded.world fault)

/-- The command `run`. -/
def run (w : World) (o : RunOptions) (args : List Text) : Result :=
  let m := Machine.fresh o.trace
  if o.expression then
    match runExpressions o args m with
    | ((out, none), m) => success w out m.trace
    | ((out, some fault), m) => failure w out m.trace fault.message
  else match loadProgram w args o.target with
    | .error result => result
    | .ok (program, w) =>
      match Session.runSources program.sources m with
      | ((vs, none), m) => success w (printed o vs) m.trace
      | ((vs, some fault), m) => failure w (printed o vs) m.trace fault.message

/-! ### The other commands -/

/-- One line about an installed package. -/
def packageLine (p : LockedPackage) : Text :=
  let version : Text := if p.version.isEmpty then "-" else p.version
  p.name ++ " " ++ version ++ " " ++ p.source ++ "\n"

/-- What is said after an installation. -/
def installed (l : Lockfile) : Text :=
  if l.entries.isEmpty then "no dependencies\n"
  else Text.join (l.entries.map packageLine) ++ "wrote " ++ l.path ++ "\n"

/-- The command `deps install`. -/
def depsInstall (w : World) : Result :=
  match Manifest.find w "." with
  | .error fault => failure w "" "" fault.message
  | .ok none => failure w "" "" noManifest
  | .ok (some path) =>
    match w.home with
    | .error fault => failure w "" "" fault.message
    | .ok home =>
      let loaded := install (Fetcher.cached home) w path
      match loaded.result with
      | .ok lock => success loaded.world (installed lock) ""
      | .error fault => notLoaded loaded.world fault

/-- The history of earlier sessions, the last entry first. -/
def savedHistory (w : World) (path : Text) : List Text :=
  match w.contentOf path with
  | .ok content => Repl.readHistory content
  | .error _ => []

/-- The world with a history on disk, as far as that can be written. -/
def saveHistory (w : World) (path : Text) (history : List Text) : World :=
  match w.files.makeDirs w.cwd (Path.dir path) with
  | (.error _, files) => w.withFiles files
  | (.ok (), files) =>
    ((w.withFiles files).write path (Repl.historyText history).bytes).2

/-- The world with the history of a session, the last entry first, added to the one on disk. -/
def keepHistory (w : World) (history : List Text) : World :=
  match w.home with
  | .error _ => w
  | .ok home =>
    let path := Path.join [home, Repl.historyFile]
    saveHistory w path (history.reverse.foldl Repl.remember (savedHistory w path))

/-- The command `repl`, on the lines of the standard input. -/
def repl (w : World) (trace : Bool) (stdin : Text.Bytes) : Result :=
  let inputs := (Repl.lines stdin).map fun line => Repl.Input.line (Text.ofBytes line.bytes)
  let (s, _) := Repl.run (.start w (.fresh trace)) inputs
  success (keepHistory w s.history) s.transcript s.machine.trace

/-! ### The command line -/

/-- What a command line asks for. -/
inductive Action where
  /-- A text, such as help. -/
  | answer (text : String)
  | run (options : RunOptions) (args : List Text)
  | repl (trace : Bool)
  | install

/-- What `help` answers about the command that words name. -/
def helpAbout (words : List Text) : String :=
  match findCommand words with
  | (c, _, none) => c.helpText
  | (_, _, some _) => unknownTopic words

/-- What a command asks for with its flags and arguments. -/
def actionOf (c : Command) (p : Parsed) : Except Text Action :=
  if p.isOn "help" then .ok (.answer c.helpText)
  else if c == .root && p.isOn "version" then
    .ok (.answer (Command.root.name ++ " version " ++ versionText ++ "\n"))
  else match c.takesNoArguments, p.arguments with
    | true, word :: _ => .error (unexpectedArgument c word)
    | _, args =>
      match c with
      | .run =>
        .ok (.run ⟨p.isOn "trace", p.isOn "expression", p.isOn "print", p.value "target"⟩ args)
      | .repl => .ok (.repl (p.isOn "trace"))
      | .install => .ok .install
      | .help => .ok (.answer (helpAbout args))
      | .root | .deps | .completion => .ok (.answer c.helpText)

/-- What a command line asks for. -/
def readArguments (args : List Text) : Except Text Action :=
  match findCommand args with
  | (_, _, some word) => .error (unknownCommand word)
  | (c, rest, none) =>
    match parseFlags c rest with
    | .error fault => .error fault.message
    | .ok p => actionOf c p

/-- Carries out an action. -/
def perform (w : World) (stdin : Text.Bytes) : Action → Result
  | .answer text => success w text ""
  | .run options args => run w options args
  | .repl trace => repl w trace stdin
  | .install => depsInstall w

/-- Carries out a command line. -/
def execute (w : World) (args : List Text) (stdin : Text.Bytes) : Result :=
  match readArguments args with
  | .ok action => perform w stdin action
  | .error message => failure w "" "" message

end PocketScheme.Cli
