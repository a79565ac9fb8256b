import PocketScheme.Number.Printer

/-!
Expressions. One type holds both what is read and what evaluation gives back: a form is a tree of
combinations over atoms, and a value is a number, a string, a boolean, a procedure, a builtin or
void.

* `Expr`: the expressions;
* `Expr.render`: the text of an expression;
* `Expr.equal`: equality of structure, under which no procedure equals anything;
* `Expr.copy`: an expression rebuilt from its parts.
-/

namespace PocketScheme

/-- The builtin operations. -/
inductive Primitive where
  | add
  | sub
  | mul
  | div
  | gt
  | lt
  | eq
  deriving DecidableEq, Repr

/-- Expressions. A builtin may lack its operation; calling it then fails. -/
inductive Expr where
  | combination (elements : List Expr)
  | identifier (name : String)
  | string (value : String)
  | number (value : Number)
  | boolean (value : Bool)
  | procedure (name : String) (params : List String) (body : Expr)
  | builtin (name : String) (operation : Option Primitive)
  | void

instance : Inhabited Expr := ⟨.void⟩

namespace Expr

/-- The kinds of expressions. -/
inductive Kind where
  | combination
  | identifier
  | string
  | number
  | boolean
  | procedure
  | builtin
  | void
  deriving DecidableEq, Repr

/-- The name of a kind. -/
def Kind.name : Kind → String
  | combination => "combination"
  | identifier => "identifier"
  | string => "string"
  | number => "number"
  | boolean => "boolean"
  | procedure => "procedure"
  | builtin => "builtin"
  | void => "void"

/-- The kinds in order of their codes, from 0. -/
def Kind.all : List Kind :=
  [.combination, .identifier, .string, .number, .boolean, .procedure, .builtin, .void]

/-- The name that belongs to a code. -/
def Kind.nameOfCode (code : Int) : String :=
  let unknown := "unknown_kind_" ++ Number.intText code
  match code with
  | .ofNat n => (Kind.all[n]?.map Kind.name).getD unknown
  | .negSucc _ => unknown

/-- The kind of an expression. -/
def kind : Expr → Kind
  | combination _ => .combination
  | identifier _ => .identifier
  | string _ => .string
  | number _ => .number
  | boolean _ => .boolean
  | procedure _ _ _ => .procedure
  | builtin _ _ => .builtin
  | void => .void

/-- The text of an expression that is no combination. -/
def renderAtom : Expr → String
  | combination _ => ""
  | identifier name => name
  | string value => "\"" ++ value ++ "\""
  | number value => value.render
  | boolean true => "#t"
  | boolean false => "#f"
  | procedure _ _ _ => "#procedure"
  | builtin _ _ => "#builtin"
  | void => ""

mutual

/-- The text of an expression: a combination is its elements in parentheses, one space between. -/
def render : Expr → String
  | combination elements => "(" ++ renderList elements ++ ")"
  | e => renderAtom e

/-- The texts of expressions, one space between. -/
def renderList : List Expr → String
  | [] => ""
  | [e] => render e
  | e :: es => render e ++ " " ++ renderList es

end

/-- The expression is the boolean false, the only one that fails a test. -/
def isFalse : Expr → Bool
  | boolean false => true
  | _ => false

/-- The expression is void. -/
def isVoid : Expr → Bool
  | void => true
  | _ => false

mutual

/-- Equality of structure: numbers by value, and no procedure or builtin equals anything. -/
def equal : Expr → Expr → Bool
  | combination as, combination bs => equalList as bs
  | identifier a, identifier b => a == b
  | string a, string b => a == b
  | number a, number b => a.eq b
  | boolean a, boolean b => a == b
  | void, void => true
  | _, _ => false

/-- Lists of the same length with equal elements. -/
def equalList : List Expr → List Expr → Bool
  | [], [] => true
  | a :: as, b :: bs => equal a b && equalList as bs
  | _, _ => false

end

mutual

/-- An expression rebuilt from its parts, bodies of procedures included. -/
def copy : Expr → Expr
  | combination elements => combination (copyList elements)
  | procedure name params body => procedure name params (copy body)
  | e => e

/-- Expressions rebuilt one by one. -/
def copyList : List Expr → List Expr
  | [] => []
  | e :: es => copy e :: copyList es

end

end Expr

end PocketScheme
