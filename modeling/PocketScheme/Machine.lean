import PocketScheme.Environment
import PocketScheme.Primitive

/-!
The state of an evaluation: the environment, and the events recorded while tracing is on.

* `Event`: a definition or an application, with its line in a trace;
* `Machine`: environment, switch and events;
* `Machine.fresh`: one global frame with the builtins and the two booleans.
-/

namespace PocketScheme

/-- Something that a trace shows. -/
inductive Event where
  /-- A name was bound to a value. -/
  | defined (name : String) (value : Expr)
  /-- A name was bound to a new procedure. -/
  | definedProcedure (name : String) (params : List String)
  /-- A procedure starts on its arguments, with so many frames on the stack. -/
  | applied (name : String) (args : List Expr) (depth : Nat)

namespace Event

/-- Texts in brackets, one space between. -/
def bracketed (items : List String) : String :=
  "[" ++ String.intercalate " " items ++ "]"

/-- An event as text. A procedure without a name goes by what its values are shown as. -/
def text : Event → String
  | defined name value => "define " ++ name ++ " = " ++ value.render
  | definedProcedure name params => "define " ++ name ++ bracketed params
  | applied name args depth =>
    "apply " ++ (if name.isEmpty then "#procedure" else name) ++
      bracketed (args.map Expr.render) ++ " depth=" ++ Number.natText depth

/-- An event as a line of a trace. -/
def line (e : Event) : String :=
  "trace: " ++ e.text ++ "\n"

end Event

/-- The state of an evaluation. -/
structure Machine where
  env : Environment
  tracing : Bool
  /-- What was recorded, the latest event first. -/
  events : List Event

namespace Machine

/-- Records an event if tracing is on. -/
def record (m : Machine) (e : Event) : Machine :=
  if m.tracing then { m with events := e :: m.events } else m

/-- The machine with another environment. -/
def withEnv (m : Machine) (env : Environment) : Machine :=
  { m with env := env }

/-- The recorded events as text, in order. -/
def trace (m : Machine) : String :=
  String.join (m.events.reverse.map Event.line)

/-- The machine with nothing recorded. -/
def clearTrace (m : Machine) : Machine :=
  { m with events := [] }

/-- The global frame: the builtins under their names, and the booleans. -/
def globalFrame : Frame :=
  let withBuiltins : Frame := Primitive.all.foldl
    (fun f p => f.insert p.name (.builtin p.name (some p))) []
  (withBuiltins.insert "#t" (.boolean true)).insert "#f" (.boolean false)

/-- A machine with the global frame alone. -/
def fresh (tracing : Bool) : Machine :=
  ⟨[globalFrame], tracing, []⟩

end Machine

end PocketScheme
