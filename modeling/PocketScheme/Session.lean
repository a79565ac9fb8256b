import PocketScheme.Eval
import PocketScheme.Form

/-!
Sessions: texts evaluated one after the other, so that definitions accumulate.

* `Session.runSource`: a text form by form, stopping at the first fault;
* `Session.start`: a machine that has evaluated the prelude texts;
* `Session.runSources`: the forms of several sources, with the place of a fault.
-/

namespace PocketScheme

/-- One parsed file, or a text that is treated as one. -/
structure Source where
  path : Text
  package : Text
  forms : List Expr

/-- Why the evaluation of a text stopped. -/
inductive SourceFault where
  | parse (fault : SyntaxFault)
  | eval (fault : Fault)
  | exhausted

namespace SourceFault

/-- The text of a fault. -/
def message : SourceFault → String
  | parse f => f.message
  | eval f => f.message
  | exhausted => "evaluation too deep"

end SourceFault

namespace Session

/-- The bound on nested evaluations that sessions run with. -/
def depthBound : Nat := 10000000

/-- A fault with the place where it came up. -/
structure Located where
  path : Text
  form : Expr
  fault : SourceFault

/-- The text of a fault with its place. -/
def Located.message (l : Located) : Text :=
  l.path ++ ": " ++ l.form.render ++ ": " ++ l.fault.message

/-- The evaluator of sessions. -/
def evalForm (e : Expr) (m : Machine) : Except SourceFault Expr × Machine :=
  match eval depthBound e m with
  | (.value v, m) => (.ok v, m)
  | (.fault f, m) => (.error (.eval f), m)
  | (.exhausted, m) => (.error .exhausted, m)

/-- Evaluates what is read, in order, until something fails; the values before it are kept. -/
def runForms : List (Except SyntaxFault Expr) → Machine →
    (List Expr × Option SourceFault) × Machine
  | [], m => (([], none), m)
  | .error fault :: _, m => (([], some (.parse fault)), m)
  | .ok e :: rest, m =>
    match evalForm e m with
    | (.ok v, m) =>
      let ((vs, fault), m) := runForms rest m
      ((v :: vs, fault), m)
    | (.error fault, m) => (([], some fault), m)

/-- Evaluates a text form by form: the values up to the first fault, and that fault. -/
def runSource (cs : List Char) (m : Machine) : (List Expr × Option SourceFault) × Machine :=
  runForms (Form.readEach (Token.scan cs)) m

/-- Evaluates prelude texts, the first of which has the number `index`. -/
def runPrelude (index : Nat) : List (List Char) → Machine →
    Option (Nat × SourceFault) × Machine
  | [], m => (none, m)
  | cs :: rest, m =>
    match runSource cs m with
    | ((_, none), m) => runPrelude (index + 1) rest m
    | ((_, some fault), m) => (some (index, fault), m)

/-- A fresh machine that has evaluated the prelude texts, and the number and fault of the first one
that failed. -/
def start (tracing : Bool) (prelude : List (List Char)) : Option (Nat × SourceFault) × Machine :=
  runPrelude 0 prelude (.fresh tracing)

/-- The text of a fault in a prelude. -/
def preludeMessage (index : Nat) (fault : SourceFault) : String :=
  "interpreter: prelude " ++ Number.natText index ++ ": " ++ fault.message

/-- Evaluates parsed forms of one file, in order, until one fails. -/
def runParsed (path : Text) : List Expr → Machine → (List Expr × Option Located) × Machine
  | [], m => (([], none), m)
  | e :: es, m =>
    match evalForm e m with
    | (.ok v, m) =>
      let ((vs, fault), m) := runParsed path es m
      ((v :: vs, fault), m)
    | (.error fault, m) => (([], some ⟨path, e, fault⟩), m)

/-- Evaluates the forms of all sources, in order, until one fails: the values so far, and the fault
with its place. -/
def runSources : List Source → Machine → (List Expr × Option Located) × Machine
  | [], m => (([], none), m)
  | s :: ss, m =>
    match runParsed s.path s.forms m with
    | ((vs, some fault), m) => ((vs, some fault), m)
    | ((vs, none), m) =>
      let ((ws, fault), m) := runSources ss m
      ((vs ++ ws, fault), m)

/-- What is said when there is no program to evaluate. -/
def noProgram : String := "interpreter: program is nil"

/-- The last value, void if there is none. -/
def lastValue (vs : List Expr) : Expr :=
  vs.getLast?.getD .void

end Session

end PocketScheme
