/-!
Numbers: exact integers of 64 bits, whose sums, differences and products wrap, and doubles. An
operation on two integers stays exact; as soon as one operand is a double, both are.

* `Number.add`, `Number.sub`, `Number.mul`, `Number.neg`;
* `Number.div?`: exact when it divides evenly, a double otherwise, and nothing for an exact zero
  divisor below an exact dividend;
* `Number.eq`, `Number.lt`, `Number.gt`.
-/

namespace PocketScheme

/-- An exact integer or a double. -/
inductive Number where
  | int (value : Int64)
  | float (value : Float)

namespace Number

/-- The number is an exact integer. -/
def isExact : Number → Bool
  | int _ => true
  | float _ => false

/-- The number as a double, the nearest one for a large integer. -/
def toFloat : Number → Float
  | int v => v.toFloat
  | float v => v

/-- Applies `onInt` to two integers and `onFloat` to the doubles otherwise. -/
@[inline] def combine {α : Type} (onInt : Int64 → Int64 → α) (onFloat : Float → Float → α) :
    Number → Number → α
  | int x, int y => onInt x y
  | a, b => onFloat a.toFloat b.toFloat

/-- The sum; integers wrap. -/
def add : Number → Number → Number :=
  combine (fun x y => int (x + y)) (fun x y => float (x + y))

/-- The difference; integers wrap. -/
def sub : Number → Number → Number :=
  combine (fun x y => int (x - y)) (fun x y => float (x - y))

/-- The product; integers wrap. -/
def mul : Number → Number → Number :=
  combine (fun x y => int (x * y)) (fun x y => float (x * y))

/-- The quotient of two integers, which is exact if the division leaves no remainder. -/
def divInt (x y : Int64) : Option Number :=
  if y == 0 then none
  else if x % y == 0 then some (int (x / y))
  else some (float (x.toFloat / y.toFloat))

/-- The quotient; there is none of an integer by the integer zero. -/
def div? : Number → Number → Option Number :=
  combine divInt (fun x y => some (float (x / y)))

/-- The additive inverse; the least integer is its own. -/
def neg : Number → Number
  | int v => int (-v)
  | float v => float (-v)

/-- Equality of values. -/
def eq : Number → Number → Bool :=
  combine (fun x y => x == y) (fun x y => x == y)

/-- The first number is less. -/
def lt : Number → Number → Bool :=
  combine (fun x y => decide (x < y)) (fun x y => decide (x < y))

/-- The first number is greater. -/
def gt : Number → Number → Bool :=
  combine (fun x y => decide (y < x)) (fun x y => decide (y < x))

/-- The two kinds of numbers. -/
inductive Kind where
  | integer
  | float
  deriving DecidableEq, Repr

/-- The kind of a number. -/
def kind : Number → Kind
  | int _ => .integer
  | float _ => .float

/-- The name of a kind. -/
def Kind.name : Kind → String
  | integer => "integer"
  | float => "float"

/-- The kinds in order of their codes, from 0. -/
def Kind.all : List Kind := [.integer, .float]

/-- The name that belongs to a code. -/
def Kind.nameOfCode (code : Int) : String :=
  match code with
  | .ofNat n => (Kind.all[n]?.map Kind.name).getD "unknown"
  | .negSucc _ => "unknown"

end Number

end PocketScheme
