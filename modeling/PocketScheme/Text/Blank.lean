import PocketScheme.Text.Basic

/-!
Blank characters, and the operations on texts that look at nothing else.

* `isBlank`: the characters with the property White_Space;
* `trim`: a text without the blanks at either end;
* `fields`: the maximal blank-free pieces of a text, in order.
-/

namespace PocketScheme.Text

/-- The characters with the property White_Space. -/
def isBlank (c : Char) : Bool :=
  let n := c.toNat
  (9 ≤ n && n ≤ 13) || n == 0x20 || n == 0x85 || n == 0xa0 || n == 0x1680 ||
    (0x2000 ≤ n && n ≤ 0x200a) || n == 0x2028 || n == 0x2029 || n == 0x202f || n == 0x205f ||
    n == 0x3000

/-- The glyph is a blank character. -/
def isBlankGlyph : Glyph → Bool :=
  Glyph.satisfies isBlank

/-- A text without the blanks at either end. -/
def trim (t : Text) : Text :=
  ⟨((t.toList.dropWhile isBlankGlyph).reverse.dropWhile isBlankGlyph).reverse⟩

/-- A text that holds nothing but blanks. -/
def isAllBlank (t : Text) : Bool :=
  t.toList.all isBlankGlyph

/-- The pieces of a list of glyphs between blanks; `word` is the piece being read, its last glyph
first. -/
def fieldsFrom (word : List Glyph) : List Glyph → List (List Glyph)
  | [] => if word.isEmpty then [] else [word.reverse]
  | g :: gs =>
    if isBlankGlyph g then
      if word.isEmpty then fieldsFrom [] gs else word.reverse :: fieldsFrom [] gs
    else fieldsFrom (g :: word) gs

/-- The maximal blank-free pieces of a text, in order. -/
def fields (t : Text) : List Text :=
  (fieldsFrom [] t.toList).map ofList

end PocketScheme.Text
