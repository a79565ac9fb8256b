import PocketScheme.Number.Basic
import PocketScheme.Decimal.Scientific

/-!
The text of a number: integers in decimal, doubles in signed scientific notation with four digits
after the point and an exponent without leading zeros (`+3.5000e0`, `-1.0000e-7`), and `NaN`,
`+inf`, `-inf`.

* `scientificChars`: scientific notation with a sign and two digits at least in the exponent;
* `shorten`: the same with a sign always in front, and no more in the exponent than it needs;
* `render`: the text of a number.
-/

namespace PocketScheme.Number

/-- The decimal digits of a natural. -/
def natChars (n : Nat) : List Char :=
  Nat.toDigits 10 n

/-- An integer in decimal, with a sign if it is negative. -/
def intChars : Int → List Char
  | .ofNat n => natChars n
  | .negSucc n => '-' :: natChars (n + 1)

/-- A natural in decimal. -/
def natText (n : Nat) : String :=
  String.ofList (natChars n)

/-- An integer in decimal. -/
def intText (n : Int) : String :=
  String.ofList (intChars n)

/-- The decimal digits of a natural, with zeros in front up to `width` of them. -/
def paddedChars (width n : Nat) : List Char :=
  let digits := natChars n
  List.replicate (width - digits.length) '0' ++ digits

/-- Digits after the point of a double. -/
def fractionDigits : Nat := 4

/-- Leading digits and exponent as text: a sign if the number is negative, one digit, a point, the
other digits, `e`, a sign and at least two digits of the exponent. -/
def scientificChars (negative : Bool) (s : Decimal.Scientific) : List Char :=
  (if negative then ['-'] else []) ++ natChars (s.digits / Nat.pow 10 fractionDigits) ++ '.' ::
    paddedChars fractionDigits (s.digits % Nat.pow 10 fractionDigits) ++
      'e' :: (if s.exponent < 0 then '-' else '+') :: paddedChars 2 s.exponent.natAbs

/-- An exponent without a plus and without leading zeros. -/
def shortExponent (exponent : List Char) : List Char :=
  let minus := if exponent.head? == some '-' then ['-'] else []
  let digits := (exponent.dropWhile fun c => c == '+' || c == '-').dropWhile (· == '0')
  if digits.isEmpty then ['0'] else minus ++ digits

/-- Scientific notation as it is shown: always with a sign, and with a short exponent. -/
def shorten (text : List Char) : List Char :=
  let mantissa := text.takeWhile (· != 'e')
  let exponent := (text.dropWhile (· != 'e')).drop 1
  (if mantissa.head? == some '-' then mantissa else '+' :: mantissa) ++
    'e' :: shortExponent exponent

/-- The text of a double given by its bits. -/
def floatChars (bits : Nat) : List Char :=
  let magnitude := bits % Nat.pow 2 63
  let negative := decide (Nat.pow 2 63 ≤ bits)
  if Decimal.infinityBits < magnitude then "NaN".toList
  else if magnitude == Decimal.infinityBits then (if negative then '-' else '+') :: "inf".toList
  else shorten (scientificChars negative (.ofBits fractionDigits magnitude))

/-- The text of a number. -/
def render : Number → String
  | int v => String.ofList (intChars v.toInt)
  | float v => String.ofList (floatChars v.toBits.toNat)

end PocketScheme.Number
