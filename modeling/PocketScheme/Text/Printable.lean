import PocketScheme.Text.Category

/-!
Printable characters: letters, marks, numbers, punctuation, symbols and the space U+0020. Control
and format characters, other separators, private use and unassigned code points are not printable.
-/

namespace PocketScheme.Text

/-- The printable characters. -/
def isPrintable (c : Char) : Bool :=
  let n := c.toNat
  if n < 0x80 then 0x20 ≤ n && n ≤ 0x7e
  else match Category.groupOf c with
    | .letter | .mark | .number | .punctuation | .symbol => true
    | .separator | .other => false

end PocketScheme.Text
