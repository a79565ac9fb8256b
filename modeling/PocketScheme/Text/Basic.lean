import PocketScheme.Text.Utf8

/-!
Texts. What comes from outside is a list of bytes, most of which spell characters. A text is a list
of these characters, in which each byte that is not part of a well-formed sequence stands for
itself, so that nothing is lost.

* `Glyph`: a character, or a byte that spells none;
* `Text`: a list of glyphs, with `Text.ofBytes` and `Text.bytes`;
* `Text.chars`, `Text.shown`: a text with replacement characters for its bytes;
* `Text.string?`: a text without bytes as a string;
* `Text.comesFirst`: the order of texts by their bytes.

A string is a text by coercion, and a character a glyph.
-/

namespace PocketScheme

/-! ### Glyphs -/

/-- An element of a text: a character, or a byte that is not part of the spelling of one. -/
inductive Glyph where
  | char (c : Char)
  | byte (b : UInt8)
  deriving DecidableEq, Repr

namespace Glyph

instance : Coe Char Glyph := ⟨char⟩

/-- The bytes of a glyph. -/
def bytes : Glyph → Text.Bytes
  | char c => String.utf8EncodeChar c
  | byte b => [b]

/-- The character of a glyph, if it is one. -/
def char? : Glyph → Option Char
  | char c => some c
  | byte _ => none

/-- The character that shows a glyph. -/
def shown : Glyph → Char
  | char c => c
  | byte _ => Text.replacement

/-- The glyph is a character that satisfies `p`. -/
def satisfies (p : Char → Bool) : Glyph → Bool
  | char c => p c
  | byte _ => false

end Glyph

/-! ### Texts -/

/-- A list of glyphs. -/
structure Text where
  /-- The text of a list of glyphs. -/
  ofList ::
  /-- The glyphs of a text. -/
  toList : List Glyph
  deriving DecidableEq, Repr

namespace Text

/-- A text of characters. -/
def ofChars (cs : List Char) : Text :=
  ⟨cs.map .char⟩

/-- A string as a text. -/
def ofString (s : String) : Text :=
  ofChars s.toList

instance : Coe String Text := ⟨ofString⟩

instance : Append Text := ⟨fun s t => ⟨s.toList ++ t.toList⟩⟩

instance : Inhabited Text := ⟨⟨[]⟩⟩

/-- The text has no glyphs. -/
def isEmpty (t : Text) : Bool :=
  t.toList.isEmpty

/-- The number of glyphs. -/
def length (t : Text) : Nat :=
  t.toList.length

/-- Texts one after the other. -/
def join (ts : List Text) : Text :=
  ⟨ts.flatMap toList⟩

/-- Texts one after the other, with another text between any two. -/
def intercalate (between : Text) (ts : List Text) : Text :=
  ⟨between.toList.intercalate (ts.map toList)⟩

/-- What is left of a text behind another one, if it starts with that. -/
def dropFront? (front t : Text) : Option Text :=
  (front.toList.isPrefixOf? t.toList).map ofList

/-- The text starts with another one. -/
def startsWith (t front : Text) : Bool :=
  front.toList.isPrefixOf t.toList

/-! ### Bytes -/

/-- The glyphs of a byte list behind its first `n` bytes. -/
def glyphsFrom : Nat → Bytes → List Glyph
  | _, [] => []
  | n + 1, _ :: rest => glyphsFrom n rest
  | 0, b :: rest =>
    match decodeChar b rest with
    | some (c, n) => .char c :: glyphsFrom n rest
    | none => .byte b :: glyphsFrom 0 rest

/-- Any bytes as a text. -/
def ofBytes (bytes : Bytes) : Text :=
  ⟨glyphsFrom 0 bytes⟩

/-- The bytes of a text. -/
def bytes (t : Text) : Bytes :=
  t.toList.flatMap Glyph.bytes

/-- The characters that show a text. -/
def chars (t : Text) : List Char :=
  t.toList.map Glyph.shown

/-- A text as it is shown, with replacement characters for its bytes. -/
def shown (t : Text) : String :=
  String.ofList t.chars

/-- The characters of a byte list, one replacement character for each byte that is not part of a
well-formed sequence. -/
def decode (bytes : Bytes) : List Char :=
  (ofBytes bytes).chars

/-- The characters of a text in which every glyph is one. -/
def chars? (t : Text) : Option (List Char) :=
  t.toList.mapM Glyph.char?

/-- The string of a text in which every glyph is a character. -/
def string? (t : Text) : Option String :=
  t.chars?.map String.ofList

/-- The order of texts by their bytes. -/
def comesFirst (s t : Text) : Bool :=
  decide (s.bytes ≤ t.bytes)

/-! ### Lemmas -/

@[simp]
theorem toList_append (s t : Text) : (s ++ t).toList = s.toList ++ t.toList := rfl

@[simp]
theorem bytes_append (s t : Text) : (s ++ t).bytes = s.bytes ++ t.bytes := by
  simp [bytes]

@[simp]
theorem chars_append (s t : Text) : (s ++ t).chars = s.chars ++ t.chars := by
  simp [chars]

theorem chars_ofChars (cs : List Char) : (ofChars cs).chars = cs := by
  simp [chars, ofChars, Function.comp_def, Glyph.shown]

end Text

end PocketScheme
