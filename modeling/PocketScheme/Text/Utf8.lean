/-!
The spelling of characters in bytes. A sequence is well-formed when it is the shortest spelling of a
scalar value, so surrogates and values above U+10FFFF have none.

* `Bytes`: the contents of a file;
* `decodeChar`: the character at the front of a byte list, if the bytes there spell one.
-/

namespace PocketScheme.Text

/-- The contents of a file. -/
abbrev Bytes := List UInt8

/-- What stands for a byte that is not part of a well-formed sequence. -/
def replacement : Char := '�'

/-- The six bits of a continuation byte. -/
def continuation (b : UInt8) : Option Nat :=
  if 0x80 ≤ b.toNat && b.toNat < 0xc0 then some (b.toNat - 0x80) else none

/-- The scalar value `n`, provided that it is one and not below `least`. -/
def scalar (least n : Nat) : Option Char :=
  if least ≤ n && n < 0x110000 && !(0xd800 ≤ n && n < 0xe000) then some (Char.ofNat n) else none

/-- The character whose sequence starts with the byte `b` and goes on with `rest`, together with
the number of continuation bytes used. -/
def decodeChar (b : UInt8) (rest : Bytes) : Option (Char × Nat) :=
  let n := b.toNat
  if n < 0x80 then some (Char.ofNat n, 0)
  else if 0xc0 ≤ n && n < 0xe0 then
    match rest with
    | b1 :: _ => do
      let c1 ← continuation b1
      let c ← scalar 0x80 ((n - 0xc0) * 64 + c1)
      some (c, 1)
    | _ => none
  else if 0xe0 ≤ n && n < 0xf0 then
    match rest with
    | b1 :: b2 :: _ => do
      let c1 ← continuation b1
      let c2 ← continuation b2
      let c ← scalar 0x800 (((n - 0xe0) * 64 + c1) * 64 + c2)
      some (c, 2)
    | _ => none
  else if 0xf0 ≤ n && n < 0xf8 then
    match rest with
    | b1 :: b2 :: b3 :: _ => do
      let c1 ← continuation b1
      let c2 ← continuation b2
      let c3 ← continuation b3
      let c ← scalar 0x10000 ((((n - 0xf0) * 64 + c1) * 64 + c2) * 64 + c3)
      some (c, 3)
    | _ => none
  else none

end PocketScheme.Text
