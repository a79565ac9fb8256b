import PocketScheme.Expr.Basic

/-!
What can go wrong in an evaluation.

* `FaultKind`: the six kinds of faults, with names and codes;
* `Fault`: the causes, with `Fault.kind?` and `Fault.message`;
* `Report`: a fault as a code and a text, compared by code alone.
-/

namespace PocketScheme

/-- The kinds of faults. -/
inductive FaultKind where
  | undefinedSymbol
  | invalidSyntax
  | wrongArgumentCount
  | typeMismatch
  | nonProcedureApplication
  | divisionByZero
  deriving DecidableEq, Repr

namespace FaultKind

/-- The name of a kind. -/
def name : FaultKind → String
  | undefinedSymbol => "undefined symbol"
  | invalidSyntax => "invalid syntax"
  | wrongArgumentCount => "wrong argument count"
  | typeMismatch => "type mismatch"
  | nonProcedureApplication => "non-procedure application"
  | divisionByZero => "division by zero"

/-- The kinds in order of their codes, from 1. -/
def all : List FaultKind :=
  [undefinedSymbol, invalidSyntax, wrongArgumentCount, typeMismatch, nonProcedureApplication,
    divisionByZero]

/-- The code of a kind. -/
def code (k : FaultKind) : Int :=
  all.findIdx (· == k) + 1

/-- The name that belongs to a code. -/
def nameOfCode (code : Int) : String :=
  let unknown := "ErrorKind(" ++ Number.intText code ++ ")"
  match code with
  | .ofNat (n + 1) => (all[n]?.map name).getD unknown
  | _ => unknown

end FaultKind

/-- The causes of a failed evaluation. -/
inductive Fault where
  /-- A name without a binding. -/
  | undefined (name : String)
  /-- A combination without elements. -/
  | emptyApplication
  /-- A definition without exactly a name and a body. -/
  | definitionParts
  /-- A definition of the name of a special form. -/
  | reserved (name : String)
  /-- A definition with an empty signature. -/
  | unnamedProcedure
  /-- A definition with a signature that holds something else than identifiers. -/
  | signature
  /-- A definition of something else than an identifier or a signature. -/
  | definitionTarget
  /-- A clause of a conditional that is no pair. -/
  | clause
  /-- A procedure applied to the wrong number of arguments. -/
  | argumentCount (expected got : Nat)
  /-- A builtin applied to no arguments that needs one. -/
  | noArguments (name : String)
  /-- Something else than a number where a builtin needs one. -/
  | notNumber (kind : Expr.Kind)
  /-- The application of something else than a procedure. -/
  | notProcedure (operator : Expr)
  /-- The division of an integer by the integer zero. -/
  | divisionByZero
  /-- A definition in an environment without frames. -/
  | noFrame

namespace Fault

/-- The kind of a fault; a definition without a frame has none. -/
def kind? : Fault → Option FaultKind
  | undefined _ => some .undefinedSymbol
  | emptyApplication | definitionParts | reserved _ | unnamedProcedure | signature
  | definitionTarget | clause => some .invalidSyntax
  | argumentCount _ _ | noArguments _ => some .wrongArgumentCount
  | notNumber _ => some .typeMismatch
  | notProcedure _ => some .nonProcedureApplication
  | divisionByZero => some .divisionByZero
  | noFrame => none

/-- The text of a fault. -/
def message : Fault → String
  | undefined name => "undefined symbol '" ++ name ++ "'"
  | emptyApplication => "invalid syntax: empty application"
  | definitionParts => "invalid syntax: define expects a name and a body"
  | reserved name => "invalid syntax: cannot bind special form '" ++ name ++ "'"
  | unnamedProcedure => "invalid syntax: define signature must name the procedure"
  | signature => "invalid syntax: define signature must contain only identifiers"
  | definitionTarget => "invalid syntax: define target must be an identifier or signature"
  | clause => "invalid syntax: expecting pair as cond clause"
  | argumentCount expected got =>
    "wrong number of arguments: expected " ++ Number.natText expected ++ ", got " ++
      Number.natText got
  | noArguments name => "incorrect argument count in call (" ++ name ++ ")"
  | notNumber kind => "expecting number, got " ++ kind.name
  | notProcedure operator => "attempt to apply non-procedure '" ++ operator.render ++ "'"
  | divisionByZero => "division by zero"
  | noFrame => "runtime: insert into environment with no frames"

end Fault

/-- A fault as it is reported: the code of its kind and a text, which may be missing. -/
structure Report where
  code : Int
  message : String

namespace Report

/-- The text of a report; without one of its own it is the name of the kind. -/
def text (r : Report) : String :=
  if r.message.isEmpty then FaultKind.nameOfCode r.code else r.message

/-- Reports of one kind, whatever their texts. -/
def sameKind (r s : Report) : Bool :=
  r.code == s.code

end Report

end PocketScheme
