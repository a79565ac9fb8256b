import PocketScheme.Yaml.Tag

/-!
What a node is when nothing is known about it but its tag. Scalars have values; of collections only
the kind counts.

* `Value`: the values;
* `Value.ofScalar`: the value of a scalar;
* `Value.isSame`: when two values are the same key of a mapping;
* `Value.collection?`: the name of the type of a collection, which is no key.
-/

namespace PocketScheme.Yaml

/-- The values of nodes. -/
inductive Value where
  | null
  | bool (b : Bool)
  | integer (n : Int)
  /-- A decimal, by the bits of its double. -/
  | double (negative : Bool) (bits : Nat)
  | time (t : Timestamp)
  | text (t : Text)
  | sequence
  /-- A mapping, all keys of which are strings or not. -/
  | mapping (textual : Bool)

namespace Value

/-- Two values are the same key. What is no number is the same as nothing, and zero has no sign. -/
def isSame : Value → Value → Bool
  | null, null => true
  | bool a, bool b => a == b
  | integer m, integer n => m == n
  | double s a, double t b => a ≤ Decimal.infinityBits && a == b && (s == t || a == 0)
  | time s, time t => s.isSame t
  | text s, text t => s == t
  | _, _ => false

/-- The name of the type of a collection. -/
def collection? : Value → Option String
  | sequence => some "[]interface \x7b\x7d"
  | mapping true => some "map[string]interface \x7b\x7d"
  | mapping false => some "map[interface \x7b\x7d]interface \x7b\x7d"
  | _ => none

/-- The integer that a text spells; underscores in it do not count. -/
def integerOf (s : String) : Int :=
  (Tag.integer? (Tag.dropUnderscores s.toList)).getD 0

/-- The bits of the size of the decimal that a text spells, without its sign. -/
def doubleBits (cs : List Char) : Nat :=
  match Number.numeral? cs with
  | some d => Decimal.decimalBits d.mantissa d.exponent
  | none =>
    if Number.isWord ".inf" cs then Decimal.infinityBits else Number.nanBits

/-- The decimal that a text spells. An integer may stand for one. -/
def doubleOf (s : String) : Value :=
  let cs := Tag.dropUnderscores s.toList
  if Tag.resolveWith false s == .int then
    let n := integerOf s
    double (decide (n < 0)) (Decimal.decimalBits n.natAbs 0)
  else
    let (sign, body) := Number.splitSign cs
    double (sign == .minus) (doubleBits body)

/-- The value of a scalar whose text its tag accepts. -/
def ofScalar (tag : Tag) (s : String) : Value :=
  match tag with
  | .null => null
  | .bool => bool (s.toList.head?.any fun c => c == 't' || c == 'T')
  | .int => integer (integerOf s)
  | .float => doubleOf s
  | .timestamp => ((Timestamp.ofChars? s.toList).map time).getD (text s)
  | .str | .seq | .map | .merge | .binary | .other _ => text s

end Value

end PocketScheme.Yaml
