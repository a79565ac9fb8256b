import PocketScheme.Machine

/-!
Evaluation. Names mean their innermost binding at the time of use, so a procedure sees the frames of
its callers. `define` and `cond` are special forms; everything else in a combination is evaluated
from left to right, the operator first.

The evaluator takes a bound on the depth of nested evaluations. A bound that is too small gives
`exhausted`, which is neither a value nor a fault.

* `Outcome`: a value, a fault, or an exhausted bound;
* `eval`: the evaluator.
-/

namespace PocketScheme

/-- What an evaluation comes to. -/
inductive Outcome (α : Type) where
  | value (a : α)
  | fault (f : Fault)
  | exhausted

namespace Eval

/-- One way of evaluating expressions. -/
abbrev Evaluator := Expr → Machine → Outcome Expr × Machine

/-- The names of the special forms. -/
def isSpecial (name : String) : Bool :=
  name == "define" || name == "cond"

/-- Evaluates expressions from left to right. -/
def evalList (ev : Evaluator) : List Expr → Machine → Outcome (List Expr) × Machine
  | [], m => (.value [], m)
  | e :: es, m =>
    match ev e m with
    | (.value v, m) =>
      match evalList ev es m with
      | (.value vs, m) => (.value (v :: vs), m)
      | (.fault f, m) => (.fault f, m)
      | (.exhausted, m) => (.exhausted, m)
    | (.fault f, m) => (.fault f, m)
    | (.exhausted, m) => (.exhausted, m)

/-- Binds a name in the innermost frame and records the event. -/
def bind (name : String) (value : Expr) (event : Event) (m : Machine) : Outcome Expr × Machine :=
  match m.env.insert? name value with
  | some env => (.value .void, (m.withEnv env).record event)
  | none => (.fault .noFrame, m)

/-- The names of a signature, failing at the first element that is none or must not be bound. -/
def signatureNames : List Expr → Except Fault (List String)
  | [] => .ok []
  | .identifier name :: es =>
    if isSpecial name then .error (.reserved name)
    else (signatureNames es).map (name :: ·)
  | _ :: _ => .error .signature

/-- The special form `define` on its operands. -/
def evalDefine (ev : Evaluator) : List Expr → Machine → Outcome Expr × Machine
  | [.identifier name, body], m =>
    if isSpecial name then (.fault (.reserved name), m)
    else match ev body m with
      | (.value v, m) => bind name v (.defined name v) m
      | (.fault f, m) => (.fault f, m)
      | (.exhausted, m) => (.exhausted, m)
  | [.combination elements, body], m =>
    match signatureNames elements with
    | .ok (name :: params) =>
      bind name (.procedure name params body) (.definedProcedure name params) m
    | .ok [] => (.fault .unnamedProcedure, m)
    | .error f => (.fault f, m)
  | [_, _], m => (.fault .definitionTarget, m)
  | _, m => (.fault .definitionParts, m)

/-- The special form `cond` on its clauses: the first one whose test is not false decides, and the
shape of a clause matters only when it is reached. -/
def evalCond (ev : Evaluator) : List Expr → Machine → Outcome Expr × Machine
  | [], m => (.value .void, m)
  | .combination [test, body] :: clauses, m =>
    match ev test m with
    | (.value v, m) => if v.isFalse then evalCond ev clauses m else ev body m
    | (.fault f, m) => (.fault f, m)
    | (.exhausted, m) => (.exhausted, m)
  | _ :: _, m => (.fault .clause, m)

/-- A frame that binds parameters to arguments; of equal parameters the last one counts. -/
def bindParams (params : List String) (args : List Expr) : Frame :=
  (params.zip args).foldl (fun f (b : String × Expr) => f.insert b.1 b.2) []

/-- A procedure applied to its arguments: the body is evaluated with a new frame on the stack, which
goes whatever happens. -/
def applyProcedure (ev : Evaluator) (name : String) (params : List String) (body : Expr)
    (args : List Expr) (m : Machine) : Outcome Expr × Machine :=
  if args.length != params.length then (.fault (.argumentCount params.length args.length), m)
  else
    let env : Environment := bindParams params args :: m.env
    let (r, m) := ev body ((m.withEnv env).record (.applied name args env.depth))
    (r, m.withEnv m.env.pop)

/-- The application of a combination: operator, arguments, call. What is no procedure fails before
the arguments are looked at. -/
def evalApplication (ev : Evaluator) (operator : Expr) (operands : List Expr) (m : Machine) :
    Outcome Expr × Machine :=
  match ev operator m with
  | (.value (.builtin name operation), m) =>
    match evalList ev operands m with
    | (.value args, m) =>
      match operation with
      | none => (.fault (.notProcedure (.builtin name none)), m)
      | some p =>
        match p.apply args with
        | .ok v => (.value v, m)
        | .error f => (.fault f, m)
    | (.fault f, m) => (.fault f, m)
    | (.exhausted, m) => (.exhausted, m)
  | (.value (.procedure name params body), m) =>
    match evalList ev operands m with
    | (.value args, m) => applyProcedure ev name params body args m
    | (.fault f, m) => (.fault f, m)
    | (.exhausted, m) => (.exhausted, m)
  | (.value v, m) => (.fault (.notProcedure v), m)
  | (.fault f, m) => (.fault f, m)
  | (.exhausted, m) => (.exhausted, m)

/-- A combination evaluated by means of `ev`. -/
def evalCombination (ev : Evaluator) : List Expr → Machine → Outcome Expr × Machine
  | [], m => (.fault .emptyApplication, m)
  | .identifier name :: operands, m =>
    if name == "define" then evalDefine ev operands m
    else if name == "cond" then evalCond ev operands m
    else evalApplication ev (.identifier name) operands m
  | operator :: operands, m => evalApplication ev operator operands m

end Eval

/-- Evaluates an expression with at most `depth` nested evaluations. -/
def eval : Nat → Expr → Machine → Outcome Expr × Machine
  | 0, _, m => (.exhausted, m)
  | depth + 1, e, m =>
    match e with
    | .identifier name =>
      match m.env.lookup name with
      | some v => (.value v, m)
      | none => (.fault (.undefined name), m)
    | .combination elements => Eval.evalCombination (eval depth) elements m
    | e => (.value e, m)

end PocketScheme
