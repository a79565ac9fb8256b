import PocketScheme.Text.Category

/-!
Letters and numbers.

* `isLetter`: letters of all scripts;
* `isNumeric`: digits of all scripts, fractions, letter-like numbers.
-/

namespace PocketScheme.Text

/-- The letters. -/
def isLetter (c : Char) : Bool :=
  Category.groupOf c == .letter

/-- The numbers. -/
def isNumeric (c : Char) : Bool :=
  Category.groupOf c == .number

end PocketScheme.Text
