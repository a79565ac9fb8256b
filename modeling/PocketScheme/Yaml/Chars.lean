import PocketScheme.Text.Utf8

/-!
The characters of a document. A document is well-formed UTF-8, or UTF-16 with a byte order mark,
without control characters.

* `isBreak`, `isGap`, `endsWord`: the classes that divide a line;
* `chunkChars`: the characters of a chunk of bytes.

A null character is none of a document, so that it can stand for the end of the text.
-/

namespace PocketScheme.Yaml

/-! ### Classes -/

/-- The characters that a document may hold. -/
def isAllowed (c : Char) : Bool :=
  let n := c.toNat
  n == 0x09 || n == 0x0a || n == 0x0d || (0x20 ≤ n && n ≤ 0x7e) || n == 0x85 ||
    (0xa0 ≤ n && n ≤ 0xfffd) || 0x10000 ≤ n

/-- What stands for the end of the text. -/
def endChar : Char := '\x00'

/-- A line break. -/
def isBreak (c : Char) : Bool :=
  c == '\n' || c == '\r' || c == '\u0085' || c == '\u2028' || c == '\u2029'

/-- What a line break is in a scalar. -/
def breakChar (c : Char) : Char :=
  if c == '\r' || c == '\u0085' then '\n' else c

/-- A space or a tab. -/
def isGap (c : Char) : Bool :=
  c == ' ' || c == '\t'

/-- A blank or a line break. -/
def isSeparator (c : Char) : Bool :=
  isGap c || isBreak c

/-- A line ends in front of these characters. -/
def endsLine (c : Char) : Bool :=
  isBreak c || c == endChar

/-- A word ends in front of these characters. -/
def endsWord (c : Char) : Bool :=
  isSeparator c || c == endChar

/-- The characters of names. -/
def isNameChar (c : Char) : Bool :=
  c.isAlphanum || c == '_' || c == '-'

/-! ### Bytes -/

/-- The ways in which characters are spelled. -/
inductive Encoding where
  | utf8
  | utf16 (bigEndian : Bool)
  deriving DecidableEq, Repr

/-- The encoding that a byte order mark at the front asks for, and the length of the mark. -/
def encodingOf : Text.Bytes → Encoding × Nat
  | 0xff :: 0xfe :: _ => (.utf16 false, 2)
  | 0xfe :: 0xff :: _ => (.utf16 true, 2)
  | 0xef :: 0xbb :: 0xbf :: _ => (.utf8, 3)
  | _ => (.utf8, 0)

/-- A character at the front of bytes, and how many more bytes it takes; or why there is none. -/
inductive Front where
  | char (c : Char) (more : Nat)
  /-- The bytes stop inside a character. -/
  | incomplete
  | malformed

/-- The number of bytes of a character that starts with a byte; 0 if none does. -/
def lengthOf (b : UInt8) : Nat :=
  let n := b.toNat
  if n < 0x80 then 1
  else if n < 0xc0 then 0
  else if n < 0xe0 then 2
  else if n < 0xf0 then 3
  else if n < 0xf8 then 4
  else 0

/-- The character in UTF-8 that starts with the byte `b`. -/
def front8 (b : UInt8) (rest : Text.Bytes) : Front :=
  let length := lengthOf b
  if length == 0 then .malformed
  else if 2 ≤ length && (rest.drop (length - 2)).isEmpty then .incomplete
  else match Text.decodeChar b rest with
    | some (c, n) => if isAllowed c then .char c n else .malformed
    | none => .malformed

/-- The unit of 16 bits that two bytes spell. -/
def unit16 (bigEndian : Bool) (a b : UInt8) : Nat :=
  if bigEndian then a.toNat * 256 + b.toNat else b.toNat * 256 + a.toNat

/-- The unit is the first half of a pair that spells one character. -/
def isLead (u : Nat) : Bool :=
  0xd800 ≤ u && u < 0xdc00

/-- The unit is the second half of a pair. -/
def isTrail (u : Nat) : Bool :=
  0xdc00 ≤ u && u < 0xe000

/-- The character in UTF-16 that starts with the byte `b`. -/
def front16 (bigEndian : Bool) (b : UInt8) (rest : Text.Bytes) : Front :=
  let allowed (n more : Nat) : Front :=
    if isAllowed (Char.ofNat n) then .char (Char.ofNat n) more else .malformed
  match rest with
  | [] => .incomplete
  | b' :: rest =>
    let u := unit16 bigEndian b b'
    if isTrail u then .malformed
    else if isLead u then
      match rest with
      | c :: c' :: _ =>
        let v := unit16 bigEndian c c'
        if isTrail v then allowed (0x10000 + (u - 0xd800) * 1024 + (v - 0xdc00)) 3 else .malformed
      | _ => .incomplete
    else allowed u 1

/-- The character that starts with the byte `b`. -/
def front (e : Encoding) (b : UInt8) (rest : Text.Bytes) : Front :=
  match e with
  | .utf8 => front8 b rest
  | .utf16 bigEndian => front16 bigEndian b rest

/-- The characters of a chunk behind its first `n` bytes, up to bytes that are only part of one or
malformed, and these bytes. -/
def chunkChars (e : Encoding) : Nat → Text.Bytes → List Char × Text.Bytes
  | _, [] => ([], [])
  | n + 1, _ :: rest => chunkChars e n rest
  | 0, b :: rest =>
    match front e b rest with
    | .char c more =>
      let (cs, left) := chunkChars e more rest
      (c :: cs, left)
    | .incomplete | .malformed => ([], b :: rest)

/-- The bytes start with something malformed. -/
def isBroken (e : Encoding) : Text.Bytes → Bool
  | [] => false
  | b :: rest =>
    match front e b rest with
    | .malformed => true
    | .char _ _ | .incomplete => false

end PocketScheme.Yaml
