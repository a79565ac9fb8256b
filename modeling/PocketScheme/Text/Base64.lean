import PocketScheme.Text.Utf8

/-!
Base 64: groups of four characters of six bits each are three bytes, and a last group that ends in
one or two `=` is two bytes or one.

* `decode?`: the bytes that a text spells; line breaks in it do not count;
* `encode`: the spelling of bytes.
-/

namespace PocketScheme.Text.Base64

/-- The six bits of a character. -/
def bits? (c : Char) : Option Nat :=
  if 'A' ≤ c && c ≤ 'Z' then some (c.toNat - 'A'.toNat)
  else if 'a' ≤ c && c ≤ 'z' then some (c.toNat - 'a'.toNat + 26)
  else if c.isDigit then some (c.toNat - '0'.toNat + 52)
  else if c == '+' then some 62
  else if c == '/' then some 63
  else none

/-- The bytes of groups of four characters. -/
def groups : List Char → Option Bytes
  | [] => some []
  | [a, b, '=', '='] => do
    let x := (← bits? a) * 64 + (← bits? b)
    return [(x / 16).toUInt8]
  | [a, b, c, '='] => do
    let x := ((← bits? a) * 64 + (← bits? b)) * 64 + (← bits? c)
    return [(x / 1024).toUInt8, (x / 4).toUInt8]
  | a :: b :: c :: d :: rest => do
    let x := (((← bits? a) * 64 + (← bits? b)) * 64 + (← bits? c)) * 64 + (← bits? d)
    return (x / 65536).toUInt8 :: (x / 256).toUInt8 :: x.toUInt8 :: (← groups rest)
  | _ => none

/-- The bytes that a text spells in base 64. -/
def decode? (s : String) : Option Bytes :=
  groups (s.toList.filter (fun c => c != '\n' && c != '\r'))

/-- The character of six bits. -/
def digit (n : Nat) : Char :=
  let n := n % 64
  if n < 26 then Char.ofNat ('A'.toNat + n)
  else if n < 52 then Char.ofNat ('a'.toNat + n - 26)
  else if n < 62 then Char.ofNat ('0'.toNat + n - 52)
  else if n == 62 then '+'
  else '/'

/-- The spelling of bytes in base 64. -/
def encode : Bytes → List Char
  | [] => []
  | [a] =>
    let n := a.toNat * 16
    [digit (n / 64), digit n, '=', '=']
  | [a, b] =>
    let n := (a.toNat * 256 + b.toNat) * 4
    [digit (n / 4096), digit (n / 64), digit n, '=']
  | a :: b :: c :: rest =>
    let n := (a.toNat * 256 + b.toNat) * 256 + c.toNat
    digit (n / 262144) :: digit (n / 4096) :: digit (n / 64) :: digit n :: encode rest

end PocketScheme.Text.Base64
