import PocketScheme.Text.CaseFold
import PocketScheme.Text.Script

/-!
Sets of characters, as patterns name them.

* `Property`: sets that a standard name stands for, with `Property.ofName?`;
* `CharSet`: sets of characters, with `CharSet.has`;
* `CharSet.ofEscape?`, `CharSet.ofClass?`: the sets that short names stand for.
-/

namespace PocketScheme

/-- The sets of characters that have a standard name. -/
inductive Property where
  | any
  | ascii
  /-- Letters of which there are several cases. -/
  | cased
  | group (g : Text.Group)
  | category (c : Text.Category)
  | script (name : String)
  deriving DecidableEq, Repr

namespace Property

/-- The character has the property. -/
def has (c : Char) : Property → Bool
  | any => true
  | ascii => decide (c.toNat < 0x80)
  | cased =>
    match Text.Category.of c with
    | .uppercaseLetter | .lowercaseLetter | .titlecaseLetter => true
    | _ => false
  | group g => Text.Category.groupOf c == g
  | category k => Text.Category.of c == k
  | script name => Text.Script.isIn name c

/-! ### Names -/

/-- The names of the properties that are no scripts. -/
def named : List (String × Property) := [
  ("Any", any), ("ASCII", ascii), ("LC", cased), ("Cased_Letter", cased),
  ("L", group .letter), ("Letter", group .letter),
  ("Lu", category .uppercaseLetter), ("Uppercase_Letter", category .uppercaseLetter),
  ("Ll", category .lowercaseLetter), ("Lowercase_Letter", category .lowercaseLetter),
  ("Lt", category .titlecaseLetter), ("Titlecase_Letter", category .titlecaseLetter),
  ("Lm", category .modifierLetter), ("Modifier_Letter", category .modifierLetter),
  ("Lo", category .otherLetter), ("Other_Letter", category .otherLetter),
  ("M", group .mark), ("Mark", group .mark), ("Combining_Mark", group .mark),
  ("Mn", category .nonspacingMark), ("Nonspacing_Mark", category .nonspacingMark),
  ("Mc", category .spacingMark), ("Spacing_Mark", category .spacingMark),
  ("Me", category .enclosingMark), ("Enclosing_Mark", category .enclosingMark),
  ("N", group .number), ("Number", group .number),
  ("Nd", category .decimalNumber), ("Decimal_Number", category .decimalNumber),
  ("digit", category .decimalNumber),
  ("Nl", category .letterNumber), ("Letter_Number", category .letterNumber),
  ("No", category .otherNumber), ("Other_Number", category .otherNumber),
  ("P", group .punctuation), ("Punctuation", group .punctuation), ("punct", group .punctuation),
  ("Pc", category .connectorPunctuation),
  ("Connector_Punctuation", category .connectorPunctuation),
  ("Pd", category .dashPunctuation), ("Dash_Punctuation", category .dashPunctuation),
  ("Ps", category .openPunctuation), ("Open_Punctuation", category .openPunctuation),
  ("Pe", category .closePunctuation), ("Close_Punctuation", category .closePunctuation),
  ("Pi", category .initialPunctuation), ("Initial_Punctuation", category .initialPunctuation),
  ("Pf", category .finalPunctuation), ("Final_Punctuation", category .finalPunctuation),
  ("Po", category .otherPunctuation), ("Other_Punctuation", category .otherPunctuation),
  ("S", group .symbol), ("Symbol", group .symbol),
  ("Sm", category .mathSymbol), ("Math_Symbol", category .mathSymbol),
  ("Sc", category .currencySymbol), ("Currency_Symbol", category .currencySymbol),
  ("Sk", category .modifierSymbol), ("Modifier_Symbol", category .modifierSymbol),
  ("So", category .otherSymbol), ("Other_Symbol", category .otherSymbol),
  ("Z", group .separator), ("Separator", group .separator),
  ("Zs", category .spaceSeparator), ("Space_Separator", category .spaceSeparator),
  ("Zl", category .lineSeparator), ("Line_Separator", category .lineSeparator),
  ("Zp", category .paragraphSeparator), ("Paragraph_Separator", category .paragraphSeparator),
  ("C", group .other), ("Other", group .other),
  ("Cc", category .control), ("Control", category .control), ("cntrl", category .control),
  ("Cf", category .format), ("Format", category .format),
  ("Cs", category .surrogate), ("Surrogate", category .surrogate),
  ("Co", category .privateUse), ("Private_Use", category .privateUse),
  ("Cn", category .unassigned), ("Unassigned", category .unassigned)]

/-- A name as it is looked up: case, blanks, hyphens and underscores do not count. -/
def canonical (name : List Char) : List Char :=
  (name.filter fun c => c != '_' && c != '-' && c != ' ').map Char.toLower

/-- The property that a name stands for. -/
def ofName? (name : List Char) : Option Property :=
  let key := canonical name
  match named.find? fun (n, _) => canonical n.toList == key with
  | some (_, p) => some p
  | none =>
    (Text.Script.table.find? fun (n, _) => canonical n.toList == key).map fun (n, _) => script n

end Property

/-! ### Sets -/

/-- Sets of characters. -/
inductive CharSet where
  /-- The characters from one code to another. -/
  | range (first last : Nat)
  | property (p : Property)
  | union (sets : List CharSet)
  | complement (s : CharSet)
  /-- The characters that differ from some character of a set in case only. -/
  | folded (s : CharSet)

namespace CharSet

/-- The character is in the set. -/
def has (c : Char) : CharSet → Bool
  | range first last => decide (first ≤ c.toNat) && decide (c.toNat ≤ last)
  | property p => p.has c
  | union sets => anyHas c sets
  | complement s => !s.has c
  | folded s => (Text.foldOrbit c).any fun d => s.has d
where
  /-- The character is in one of the sets. -/
  anyHas (c : Char) : List CharSet → Bool
    | [] => false
    | s :: sets => s.has c || anyHas c sets

/-- The set of one character. -/
def single (code : Nat) : CharSet :=
  range code code

/-- The characters from one to another. -/
def span (first last : Char) : CharSet :=
  range first.toNat last.toNat

/-- The set with a sign, and up to case if case does not count. -/
def signed (fold positive : Bool) (s : CharSet) : CharSet :=
  let s := if fold then folded s else s
  if positive then s else complement s

/-- The decimal digits. -/
def digits : CharSet := span '0' '9'

/-- The characters of words. -/
def wordChars : CharSet :=
  union [digits, span 'A' 'Z', single '_'.toNat, span 'a' 'z']

/-- Tab, line feed, form feed, carriage return and space. -/
def blanks : CharSet :=
  union [range 0x9 0xa, range 0xc 0xd, single 0x20]

/-- The set that a letter behind a backslash stands for, and whether it is meant or its
complement. -/
def ofEscape? (c : Char) : Option (Bool × CharSet) :=
  match c with
  | 'd' => some (true, digits)
  | 'D' => some (false, digits)
  | 's' => some (true, blanks)
  | 'S' => some (false, blanks)
  | 'w' => some (true, wordChars)
  | 'W' => some (false, wordChars)
  | _ => none

/-- The sets with a name between colons. -/
def classes : List (String × CharSet) := [
  ("alnum", union [digits, span 'A' 'Z', span 'a' 'z']),
  ("alpha", union [span 'A' 'Z', span 'a' 'z']),
  ("ascii", range 0x0 0x7f),
  ("blank", union [single 0x9, single 0x20]),
  ("cntrl", union [range 0x0 0x1f, single 0x7f]),
  ("digit", digits),
  ("graph", span '!' '~'),
  ("lower", span 'a' 'z'),
  ("print", span ' ' '~'),
  ("punct", union [span '!' '/', span ':' '@', span '[' '\x60', span '\x7b' '~']),
  ("space", union [range 0x9 0xd, single 0x20]),
  ("upper", span 'A' 'Z'),
  ("word", wordChars),
  ("xdigit", union [digits, span 'A' 'F', span 'a' 'f'])]

/-- The set with a name between colons, and whether it is meant or its complement. -/
def ofClass? (name : List Char) : Option (Bool × CharSet) :=
  match name with
  | '^' :: name => (classes.lookup (String.ofList name)).map (false, ·)
  | name => (classes.lookup (String.ofList name)).map (true, ·)

end CharSet

end PocketScheme
