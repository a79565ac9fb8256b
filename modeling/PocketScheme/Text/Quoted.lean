import PocketScheme.Text.Printable
import PocketScheme.Text.Basic

/-!
Quoted text for messages: a text between double quotes in which the quote, the backslash, every
character that is not printable and every byte that spells none are escaped.

* `quote`: a text between double quotes;
* `quoteChar`: a character between single quotes;
* `quoteRaw`: a text between backquotes, where its characters allow it;
* `hexDigits`, `hexValue?`: hexadecimal numerals.
-/

namespace PocketScheme.Text

/-- The hexadecimal digits of `n`, most significant first, at least `width` of them. -/
def hexDigits (width n : Nat) : List Char :=
  let digits := Nat.toDigits 16 n
  List.replicate (width - digits.length) '0' ++ digits

/-- The value of a hexadecimal digit. -/
def hexDigit? (c : Char) : Option Nat :=
  if '0' ≤ c && c ≤ '9' then some (c.toNat - '0'.toNat)
  else if 'a' ≤ c && c ≤ 'f' then some (c.toNat - 'a'.toNat + 10)
  else if 'A' ≤ c && c ≤ 'F' then some (c.toNat - 'A'.toNat + 10)
  else none

/-- The natural that hexadecimal digits spell. -/
def hexValue? (cs : List Char) : Option Nat :=
  cs.foldlM (fun n c => (hexDigit? c).map (n * 16 + ·)) 0

/-- A character as it stands between quotes of the kind `mark`. -/
def escapeChar (mark c : Char) : List Char :=
  if c == mark || c == '\\' then ['\\', c]
  else if isPrintable c then [c]
  else
    let n := c.toNat
    if n == 7 then ['\\', 'a'] else if n == 8 then ['\\', 'b'] else if n == 9 then ['\\', 't']
    else if n == 10 then ['\\', 'n'] else if n == 11 then ['\\', 'v'] else if n ==
      12 then ['\\', 'f']
    else if n == 13 then ['\\', 'r']
    else if n < 0x80 then '\\' :: 'x' :: hexDigits 2 n
    else if n < 0x10000 then '\\' :: 'u' :: hexDigits 4 n
    else '\\' :: 'U' :: hexDigits 8 n

/-- A glyph as it stands between quotes of the kind `mark`. -/
def escapeGlyph (mark : Char) : Glyph → List Char
  | .char c => escapeChar mark c
  | .byte b => '\\' :: 'x' :: hexDigits 2 b.toNat

/-- A text between double quotes. -/
def quote (t : Text) : String :=
  String.ofList ('"' :: (t.toList.flatMap (escapeGlyph '"') ++ ['"']))

/-- A character between single quotes. -/
def quoteChar (c : Char) : String :=
  String.ofList ('\x27' :: (escapeChar '\x27' c ++ ['\x27']))

/-- The characters that may stand between backquotes: no control characters but the tab, no
backquote and no byte order mark. -/
def isRawChar (c : Char) : Bool :=
  let n := c.toNat
  n != 0xfeff && n != 0x7f && n != 0x60 && (0x20 ≤ n || n == 9)

/-- A text between backquotes, or between double quotes if it cannot stand between backquotes. -/
def quoteRaw (t : Text) : String :=
  if t.toList.all (Glyph.satisfies isRawChar) then
    String.ofList ('\x60' :: (t.chars ++ ['\x60']))
  else quote t

end PocketScheme.Text
