import PocketScheme.Yaml.Timestamp
import PocketScheme.Number.Reader
import PocketScheme.Text.Basic

/-!
Tags: what kind of value a node is. A plain scalar without a tag of its own gets the one that its
text resolves to.

* `Tag`: the tags, with `Tag.ofText` and `Tag.render`;
* `Tag.resolve`: the tag of a plain scalar;
* `Tag.accepts`: whether a scalar may carry the tag.
-/

namespace PocketScheme.Yaml

/-- The kinds of values. -/
inductive Tag where
  | null
  | bool
  | int
  | float
  | timestamp
  | str
  | seq
  | map
  | merge
  | binary
  | other (text : Text)
  deriving DecidableEq, Repr

namespace Tag

/-- The short spelling of a tag. -/
def render : Tag → Text
  | null => "!!null"
  | bool => "!!bool"
  | int => "!!int"
  | float => "!!float"
  | timestamp => "!!timestamp"
  | str => "!!str"
  | seq => "!!seq"
  | map => "!!map"
  | merge => "!!merge"
  | binary => "!!binary"
  | other text => text

/-- The tags with a spelling of their own. -/
def all : List Tag :=
  [null, bool, int, float, timestamp, str, seq, map, merge, binary]

/-- What the short spelling `!!` stands for. -/
def standard : String := "tag:yaml.org,2002:"

/-- The tag with the given full spelling. -/
def ofText (text : Text) : Tag :=
  let short : Text := match Text.dropFront? standard text with
    | some rest => "!!" ++ rest
    | none => text
  (all.find? (fun t => t.render == short)).getD (other short)

/-! ### Resolving plain scalars -/

/-- The value of a digit in bases up to sixteen. -/
def digitValue (c : Char) : Nat :=
  if c.isDigit then c.toNat - '0'.toNat
  else if 'a' ≤ c && c ≤ 'f' then c.toNat - 'a'.toNat + 10
  else if 'A' ≤ c && c ≤ 'F' then c.toNat - 'A'.toNat + 10
  else 16

/-- The natural that digits of a base spell. -/
def digitsIn? (base : Nat) (cs : List Char) : Option Nat :=
  if !cs.isEmpty && cs.all (fun c => digitValue c < base) then
    some (cs.foldl (fun n c => n * base + digitValue c) 0)
  else none

/-- The natural that a numeral spells, by its first characters in base 16, 8, 2 or 10. -/
def unsigned? : List Char → Option Nat
  | ['0'] => some 0
  | '0' :: c :: cs =>
    if c == 'x' || c == 'X' then digitsIn? 16 cs
    else if c == 'o' || c == 'O' then digitsIn? 8 cs
    else if c == 'b' || c == 'B' then digitsIn? 2 cs
    else digitsIn? 8 (c :: cs)
  | cs => digitsIn? 10 cs

/-- The integer that a sign and digits of a base spell. -/
def signedIn? (base : Nat) (cs : List Char) : Option Int :=
  let (sign, digits) := Number.splitSign cs
  (digitsIn? base digits).map fun n => if sign == .minus then -(n : Int) else n

/-- The integer that a numeral spells: a sign and a natural in any of the bases, or, in base 2 and
8, a sign behind the characters that name the base. -/
def integer? (cs : List Char) : Option Int :=
  let (sign, body) := Number.splitSign cs
  match unsigned? body with
  | some n => some (if sign == .minus then -(n : Int) else n)
  | none =>
    match cs with
    | '0' :: 'b' :: rest => signedIn? 2 rest
    | '0' :: 'o' :: rest => signedIn? 8 rest
    | _ => none

/-- The text spells an integer of 64 bits with a sign bit. -/
def isSigned (cs : List Char) : Bool :=
  (integer? cs).any Number.fits

/-- The text spells an integer of 64 bits; without a sign the sign bit counts as a digit. -/
def isInt (cs : List Char) : Bool :=
  isSigned cs || (unsigned? cs).any (· < Nat.pow 2 64)

/-- The text spells a decimal whose value is finite. -/
def isFloat (cs : List Char) : Bool :=
  let (_, body) := Number.splitSign cs
  match Number.numeral? body with
  | some d => Decimal.decimalBits d.mantissa d.exponent < Decimal.infinityBits
  | none => false

/-- The texts that resolve by name. -/
def named : List (String × Tag) :=
  [("", null), ("~", null), ("null", null), ("Null", null), ("NULL", null),
    ("true", bool), ("True", bool), ("TRUE", bool),
    ("false", bool), ("False", bool), ("FALSE", bool),
    (".nan", float), (".NaN", float), (".NAN", float),
    (".inf", float), (".Inf", float), (".INF", float),
    ("+.inf", float), ("+.Inf", float), ("+.INF", float),
    ("-.inf", float), ("-.Inf", float), ("-.INF", float)]

/-- Every underscore stands between two digits. -/
def separatesDigits (afterDigit : Bool) : List Char → Bool
  | [] => true
  | c :: cs =>
    (c != '_' || (afterDigit && cs.head?.any Char.isDigit)) && separatesDigits c.isDigit cs

/-- The text without underscores. -/
def dropUnderscores (cs : List Char) : List Char :=
  cs.filter (· != '_')

/-- The tag of a text that starts with a point; underscores may separate its digits. -/
def fractional (cs : List Char) : Tag :=
  if separatesDigits false cs && isFloat (dropUnderscores cs) then float else str

/-- The tag of a text that starts like a number; underscores in it do not count. -/
def numeric (stamps : Bool) (cs : List Char) : Tag :=
  let digits := dropUnderscores cs
  if stamps && (Timestamp.ofChars? cs).isSome then timestamp
  else if isInt digits then int
  else if isFloat digits then float
  else str

/-- The tag that a text resolves to; timestamps count only if they are asked for. -/
def resolveWith (stamps : Bool) (text : String) : Tag :=
  match named.lookup text with
  | some tag => tag
  | none =>
    match text.toList with
    | [] => null
    | c :: cs =>
      if c == '.' then fractional (c :: cs)
      else if c.isDigit || c == '+' || c == '-' then numeric stamps (c :: cs)
      else str

/-- The tag that a plain scalar resolves to. -/
def resolve (text : String) : Tag :=
  resolveWith true text

/-- A scalar with this text may carry the tag: the text resolves to it, or the tag takes any
text. An integer is also a decimal, unless it needs the sign bit. -/
def accepts (tag : Tag) (text : String) : Bool :=
  match tag with
  | null | bool | int => resolveWith false text == tag
  | float =>
    resolveWith false text == .float ||
      (resolveWith false text == .int && isSigned (dropUnderscores text.toList))
  | timestamp => resolve text == .timestamp
  | str | seq | map | merge | binary | other _ => true

end Tag

end PocketScheme.Yaml
