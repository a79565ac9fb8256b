import PocketScheme.Text.Basic

/-!
Hashes of commits: forty hexadecimal digits.
-/

namespace PocketScheme

/-- The digits of hashes. -/
def hexDigits : List Glyph :=
  Text.toList "0123456789abcdef"

/-- The text is that of a hash. -/
structure IsHash (t : Text) : Prop where
  length_eq : t.toList.length = 40
  digits : ∀ g ∈ t.toList, g ∈ hexDigits

instance (t : Text) : Decidable (IsHash t) :=
  decidable_of_iff (t.toList.length = 40 ∧ ∀ g ∈ t.toList, g ∈ hexDigits)
    ⟨fun h => ⟨h.1, h.2⟩, fun h => ⟨h.length_eq, h.digits⟩⟩

/-- The hash of a commit. -/
structure Hash where
  text : Text
  isHash : IsHash text
  deriving DecidableEq

/-- The hash that a text spells. -/
def Hash.ofText? (t : Text) : Option Hash :=
  if h : IsHash t then some ⟨t, h⟩ else none

end PocketScheme
