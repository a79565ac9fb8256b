import PocketScheme.Number.Basic
import PocketScheme.Decimal.Nearest
import PocketScheme.Text.LowerCase
import PocketScheme.Text.Quoted

/-!
Reading numbers. An optional sign and decimal digits are an integer if it fits 64 bits. Anything
else is a double if it looks like one and is read as one: a decimal with an optional point and an
optional exponent is the nearest double, and there are words for the infinities and for what is no
number.

* `isDecimalInteger`, `integer?`: the texts of integers;
* `looksLikeFloat`: no underscores, at most one sign, and no base in front;
* `special?`, `DigitRun.read`, `exponent?`, `numeral?`: the parts that doubles are read from;
* `double?`: the double that a text spells;
* `ofChars?`: the number that a text spells.
-/

namespace PocketScheme.Number

/-- A sign at the front of a text. -/
inductive Sign where
  | none
  | plus
  | minus
  deriving DecidableEq, Repr

/-- Splits off the sign at the front. -/
def splitSign : List Char → Sign × List Char
  | '+' :: cs => (.plus, cs)
  | '-' :: cs => (.minus, cs)
  | cs => (.none, cs)

/-- The natural that a list of decimal digits spells. -/
def digitsValue (cs : List Char) : Nat :=
  cs.foldl (fun n c => n * 10 + (c.toNat - '0'.toNat)) 0

/-- The text is one or more decimal digits. -/
def isDigits (cs : List Char) : Bool :=
  !cs.isEmpty && cs.all Char.isDigit

/-- The natural that the digits of an exponent spell. Once it has reached ten thousand, further
digits do not count: it is beyond all doubles then. -/
def exponentValue (cs : List Char) : Nat :=
  cs.foldl (fun n c => if n < 10000 then n * 10 + (c.toNat - '0'.toNat) else n) 0

/-- The exponent at the end of a decimal: nothing, or `e`, an optional sign and digits. -/
def exponent? : List Char → Option Int
  | [] => some 0
  | c :: cs =>
    if c == 'e' || c == 'E' then
      let (sign, digits) := splitSign cs
      if isDigits digits then
        some (if sign == .minus then -(exponentValue digits : Int) else exponentValue digits)
      else none
    else none

/-- The bits of a double that is not a number. -/
def nanBits : Nat := 0x7ff8000000000001

/-- The integer fits 64 bits. -/
def fits (v : Int) : Bool :=
  decide (-0x8000000000000000 ≤ v) && decide (v < 0x8000000000000000)

/-! ### Integers -/

/-- A text without the given character at its front, if it stands there. -/
def trimFront (c : Char) : List Char → List Char
  | [] => []
  | d :: ds => if d == c then ds else d :: ds

/-- The text is decimal digits behind at most one sign. -/
def isDecimalInteger (cs : List Char) : Bool :=
  let digits := trimFront '+' (trimFront '-' cs)
  !digits.isEmpty && decide (cs.length - 1 ≤ digits.length) && digits.all Char.isDigit

/-- The integer of 64 bits that a sign and digits spell. -/
def integer? (cs : List Char) : Option Int64 :=
  let (sign, body) := splitSign cs
  let value : Int := if sign == .minus then -(digitsValue body : Int) else digitsValue body
  if isDigits body && fits value then some (Int64.ofInt value) else none

/-! ### Doubles -/

/-- The number of bytes that characters take. -/
def byteLength (cs : List Char) : Nat :=
  cs.foldl (fun n c => n + c.utf8Size) 0

/-- The text may be a double: it has no underscores, one sign at most, and no base in front. -/
def looksLikeFloat (cs : List Char) : Bool :=
  let body := (cs.dropWhile fun c => c == '+' || c == '-').map Text.lowerChar
  !cs.isEmpty && !cs.contains '_' && decide (byteLength cs ≤ byteLength body + 1) &&
    (body == "inf".toList || body == "infinity".toList || body == "nan".toList ||
      !"0x".toList.isPrefixOf body)

/-- The text is the given word of small letters, in either case. -/
def isWord (word : String) (cs : List Char) : Bool :=
  cs.map Char.toLower == word.toList

/-- How many characters at the front of a text agree with a word of small letters, in either
case. -/
def agreement : List Char → List Char → Nat
  | l :: ls, c :: cs => if c.toLower == l then agreement ls cs + 1 else 0
  | _, _ => 0

/-- A word for an infinity or for what is no number at the front of a text, with what follows it.
The long word for infinity counts as a whole or by its first three letters. -/
def special? (cs : List Char) : Option (Float × List Char) :=
  let (sign, body) := splitSign cs
  let n := agreement "infinity".toList body
  if 3 ≤ n then
    some (Decimal.signedDouble (sign == .minus) Decimal.infinityBits,
      body.drop (if n == 8 then 8 else 3))
  else if agreement "nan".toList cs == 3 then
    some (Decimal.signedDouble false nanBits, cs.drop 3)
  else none

/-- What the digits of a decimal have come to: the natural they spell, whether a point stands
among them, how many stand behind it, and whether there are any. -/
structure DigitRun where
  mantissa : Nat
  pointed : Bool
  places : Nat
  any : Bool

/-- No digits yet. -/
def DigitRun.start : DigitRun :=
  ⟨0, false, 0, false⟩

/-- The run with a further digit. -/
def DigitRun.push (r : DigitRun) (c : Char) : DigitRun :=
  { r with
    mantissa := r.mantissa * 10 + (c.toNat - '0'.toNat)
    places := if r.pointed then r.places + 1 else r.places
    any := true }

/-- Digits and one point at the front of a text, with what follows them. -/
def DigitRun.read (r : DigitRun) : List Char → DigitRun × List Char
  | [] => (r, [])
  | c :: cs =>
    if c == '.' then
      if r.pointed then (r, c :: cs) else DigitRun.read { r with pointed := true } cs
    else if c.isDigit then (r.push c).read cs
    else (r, c :: cs)

/-- A nonnegative decimal: the natural spelled by all its digits, times a power of ten. -/
structure Numeral where
  mantissa : Nat
  exponent : Int

/-- An unsigned decimal: digits with at most one point, and an optional exponent. -/
def numeral? (cs : List Char) : Option Numeral :=
  let (run, rest) := DigitRun.start.read cs
  if run.any then (exponent? rest).map fun e => ⟨run.mantissa, e - run.places⟩ else none

/-- The double that a text spells: a word, or the one nearest to a decimal. -/
def double? (cs : List Char) : Option Float :=
  match special? cs with
  | some (x, rest) => if rest.isEmpty then some x else none
  | none =>
    let (sign, body) := splitSign cs
    (numeral? body).map fun d =>
      Decimal.signedDouble (sign == .minus) (Decimal.decimalBits d.mantissa d.exponent)

/-! ### Numbers -/

/-- The number that a list of characters spells, if it spells one: an integer if it can be. -/
def ofChars? (cs : List Char) : Option Number :=
  match if isDecimalInteger cs then integer? cs else none with
  | some v => some (int v)
  | none => if looksLikeFloat cs then (double? cs).map float else none

/-- The number that a text spells, if it spells one. -/
def ofString? (s : String) : Option Number :=
  ofChars? s.toList

/-- What is said of a text that spells no number. -/
def notNumberMessage (s : String) : String :=
  "not a number: " ++ Text.quote s

end PocketScheme.Number
