import PocketScheme.Fault

/-!
The builtin operations: sums, differences, products, quotients and chains of comparisons of
numbers.

* `Primitive.apply`: an operation applied to its arguments.
-/

namespace PocketScheme.Primitive

/-- The name of an operation. -/
def name : Primitive → String
  | add => "+"
  | sub => "-"
  | mul => "*"
  | div => "/"
  | gt => ">"
  | lt => "<"
  | eq => "="

/-- The operations. -/
def all : List Primitive := [add, sub, mul, div, gt, lt, eq]

/-- The number that an argument is. -/
def toNumber : Expr → Except Fault Number
  | .number n => .ok n
  | e => .error (.notNumber e.kind)

/-- The numbers that arguments are, failing at the first one that is none. -/
def toNumbers : List Expr → Except Fault (List Number)
  | [] => .ok []
  | e :: es => do
    let n ← toNumber e
    let ns ← toNumbers es
    return n :: ns

/-- Combines numbers from the left. -/
def fold (op : Number → Number → Number) (acc : Number) : List Expr → Except Fault Expr
  | [] => .ok (.number acc)
  | e :: es => do
    let n ← toNumber e
    fold op (op acc n) es

/-- Divides by one number after the other. -/
def quotient (acc : Number) : List Number → Except Fault Expr
  | [] => .ok (.number acc)
  | n :: ns =>
    match acc.div? n with
    | some q => quotient q ns
    | none => .error .divisionByZero

/-- Every number stands in the relation to the next one. -/
def chain (rel : Number → Number → Bool) : List Number → Bool
  | a :: b :: ns => rel a b && chain rel (b :: ns)
  | _ => true

/-- Whether numbers form a chain, as a value. -/
def compareChain (rel : Number → Number → Bool) (args : List Expr) : Except Fault Expr := do
  let ns ← toNumbers args
  return .boolean (chain rel ns)

/-- The difference of the first argument and the others; a single argument is negated. -/
def difference : List Expr → Except Fault Expr
  | [] => .error (.noArguments sub.name)
  | [e] => do
    let n ← toNumber e
    return .number n.neg
  | e :: es => do
    let n ← toNumber e
    fold Number.sub n es

/-- The quotient of the first argument by the others. -/
def quotients (args : List Expr) : Except Fault Expr :=
  if args.isEmpty then .error (.noArguments div.name)
  else do
    match ← toNumbers args with
    | [] => .error (.noArguments div.name)
    | n :: ns => quotient n ns

/-- An operation applied to its arguments. -/
def apply : Primitive → List Expr → Except Fault Expr
  | add, args => fold Number.add (.int 0) args
  | mul, args => fold Number.mul (.int 1) args
  | sub, args => difference args
  | div, args => quotients args
  | gt, args => compareChain Number.gt args
  | lt, args => compareChain Number.lt args
  | eq, args => compareChain Number.eq args

end PocketScheme.Primitive
