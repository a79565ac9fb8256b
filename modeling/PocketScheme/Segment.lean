import PocketScheme.Text.Blank

/-!
Names of packages and targets, and names of directories made from them.

* `Segment.sanitize`: the name under which a package or target is known;
* `Segment.directoryName`: a name that can stand as one component of a path.
-/

namespace PocketScheme.Segment

/-- A name without blanks around it and with underscores for dashes. -/
def sanitize (t : Text) : Text :=
  ⟨t.trim.toList.map fun (g : Glyph) => if g == '-' then .char '_' else g⟩

/-- The characters that stay in the name of a directory. -/
def isPlain (c : Char) : Bool :=
  c.isAlphanum || c == '.' || c == '-' || c == '_'

/-- A name without blanks around it and with underscores for everything but letters, digits, dots
and dashes; `head` if nothing is left. -/
def directoryName (t : Text) : Text :=
  let t := t.trim
  if t.isEmpty then "head"
  else ⟨t.toList.map fun g => if g.satisfies isPlain then g else .char '_'⟩

end PocketScheme.Segment
