/-!
The commands of the command line and their flags.

* `Flag`: a switch, or a flag with a value;
* `Command`: the commands, with `Command.name`, `Command.children`, `Command.ownFlags`.
-/

namespace PocketScheme.Cli

/-- A flag: its name, its letter, the kind of value it takes (none for a switch), and what is said
about it. -/
structure Flag where
  name : String
  letter : Option Char
  valueKind : Option String
  usage : String
  deriving DecidableEq, Repr

namespace Flag

/-- The flag is a switch, which takes a value only after an equals sign. -/
def isSwitch (f : Flag) : Bool :=
  f.valueKind.isNone

/-- How a flag is named in messages. -/
def label (f : Flag) : String :=
  match f.letter with
  | some c => "-" ++ String.ofList [c] ++ ", --" ++ f.name
  | none => "--" ++ f.name

end Flag

/-- The commands. -/
inductive Command where
  | root
  | run
  | repl
  | deps
  | install
  | completion
  | help
  deriving DecidableEq, Repr

namespace Command

/-- The word for a command. -/
def name : Command → String
  | root => "sicp"
  | run => "run"
  | repl => "repl"
  | deps => "deps"
  | install => "install"
  | completion => "completion"
  | help => "help"

/-- The command that a command belongs to. -/
def parent : Command → Option Command
  | root => none
  | install => some deps
  | _ => some root

/-- The words that lead to a command. -/
def path : Command → String
  | root => root.name
  | install => root.name ++ " " ++ deps.name ++ " " ++ install.name
  | c => root.name ++ " " ++ c.name

/-- The commands that belong to a command, in the order in which they were added. -/
def children : Command → List Command
  | root => [run, repl, deps, help, completion]
  | deps => [install]
  | _ => []

/-- What may follow a command's name. -/
def operands : Command → String
  | run => " [files...]"
  | help => " [command]"
  | _ => ""

/-- What a command does, in one line. -/
def short : Command → String
  | root => "Evaluate Scheme-like expressions"
  | run => "Run source files, inline expressions, or a manifest target"
  | repl => "Start an interactive session"
  | deps => "Manage manifest dependencies"
  | install => "Fetch dependencies and write package.lock"
  | completion => "Generate the autocompletion script for the specified shell"
  | help => "Help about any command"

/-- What a command does, at length. -/
def long : Command → String
  | run =>
    "Run code supplied on the command line or from files. With no arguments the\n" ++
    "target named by --target (or the default target) of the nearest package.yml runs."
  | help =>
    "Help provides help for any command in the application.\n" ++
    "Simply type sicp help [path to command] for full details."
  | c => c.short

/-- The command does something by itself. -/
def isRunnable : Command → Bool
  | root | deps | completion => false
  | run | repl | install | help => true

/-- The command takes no arguments. -/
def takesNoArguments : Command → Bool
  | repl | install => true
  | _ => false

/-- The flag that every command has from the root. -/
def traceFlag : Flag :=
  ⟨"trace", none, none, "Log definitions and procedure applications to stderr"⟩

/-- The flag that asks for help. -/
def helpFlag (c : Command) : Flag :=
  ⟨"help", some 'h', none, "help for " ++ c.name⟩

/-- The flag that asks for the version. -/
def versionFlag : Flag :=
  ⟨"version", some 'v', none, "version for sicp"⟩

/-- The flags that a command declares. -/
def declaredFlags : Command → List Flag
  | run =>
    [⟨"expression", some 'e', none, "Interpret arguments as expressions"⟩,
      ⟨"print", some 'p', none, "Print expression values to stdout"⟩,
      ⟨"target", some 't', some "string", "Manifest target to run when no files are given"⟩]
  | _ => []

/-- The flags that are known while the command is looked for. -/
def earlyFlags (c : Command) : List Flag :=
  c.declaredFlags ++ [traceFlag]

/-- All flags of a command. -/
def allFlags (c : Command) : List Flag :=
  c.earlyFlags ++ [c.helpFlag] ++ (if c == root then [versionFlag] else [])

end Command

end PocketScheme.Cli
