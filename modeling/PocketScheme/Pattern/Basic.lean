import PocketScheme.Pattern.CharSet

/-!
Patterns: regular expressions, and which texts they match. A pattern matches a text if it matches
any part of it.

* `Pattern`: the expressions;
* `Pattern.reach`: where a match that starts at some spots may end;
* `Pattern.isMatch`: whether a text has a part that the pattern matches.
-/

namespace PocketScheme

/-- The conditions on a spot of a text. -/
inductive Edge where
  | textStart
  | textEnd
  | lineStart
  | lineEnd
  /-- Between a character of a word and another one. -/
  | wordEdge
  | noWordEdge
  deriving DecidableEq, Repr

/-- Regular expressions. -/
inductive Pattern where
  /-- A character, of any case if case does not count. -/
  | literal (fold : Bool) (code : Nat)
  | one (set : CharSet)
  | edge (e : Edge)
  | group (p : Pattern)
  | seq (ps : List Pattern)
  | alt (ps : List Pattern)
  /-- At least so many times, and at most so many times if there is a bound. -/
  | repeated (p : Pattern) (least : Nat) (most : Option Nat)

namespace Pattern

instance : Inhabited Pattern := ⟨seq []⟩

/-! ### Matching -/

/-- A spot in a text: the character in front of it, and the rest. -/
structure Spot where
  before : Option Char
  rest : List Char
  deriving DecidableEq, Repr

namespace Spot

/-- The spots of a text from one on. -/
def along (before : Option Char) : List Char → List Spot
  | [] => [⟨before, []⟩]
  | c :: cs => ⟨before, c :: cs⟩ :: along (some c) cs

/-- The character belongs to a word. -/
def isWordChar (c : Char) : Bool :=
  CharSet.wordChars.has c

/-- The condition holds at a spot. -/
def satisfies (s : Spot) : Edge → Bool
  | .textStart => s.before.isNone
  | .textEnd => s.rest.isEmpty
  | .lineStart => s.before.all (· == '\n')
  | .lineEnd => s.rest.head?.all (· == '\n')
  | .wordEdge => s.before.any isWordChar != s.rest.head?.any isWordChar
  | .noWordEdge => s.before.any isWordChar == s.rest.head?.any isWordChar

/-- The spot behind a character that satisfies `p`. -/
def step? (p : Char → Bool) (s : Spot) : Option Spot :=
  match s.rest with
  | c :: cs => if p c then some ⟨some c, cs⟩ else none
  | [] => none

/-- The spots of two lists, each once. A spot of a text is known by what is left of it. -/
def merge (xs ys : List Spot) : List Spot :=
  xs ++ ys.filter fun y => !xs.any fun x => x.rest.length == y.rest.length

end Spot

/-- The set of characters that a literal stands for. -/
def literalSet (fold : Bool) (code : Nat) : CharSet :=
  CharSet.signed fold true (.single code)

/-- Applies `f` so many times. -/
def times (f : List Spot → List Spot) : Nat → List Spot → List Spot
  | 0, xs => xs
  | n + 1, xs => times f n (f xs)

/-- Applies `f` up to so many times, and keeps the spots of all times. -/
def upTo (f : List Spot → List Spot) : Nat → List Spot → List Spot
  | 0, xs => xs
  | n + 1, xs => Spot.merge xs (upTo f n (f xs))

/-- The number of further times that matter: as many as the bound allows, and without a bound as
many as there are characters left. -/
def furtherTimes (least : Nat) (most : Option Nat) (xs : List Spot) : Nat :=
  match most with
  | some n => n - least
  | none => xs.foldl (fun n x => max n x.rest.length) 0

mutual

/-- The spots at which matches that start at one of the given spots end. -/
def reach (p : Pattern) (xs : List Spot) : List Spot :=
  match p with
  | literal fold code => xs.filterMap (Spot.step? fun c => (literalSet fold code).has c)
  | one set => xs.filterMap (Spot.step? fun c => set.has c)
  | edge e => xs.filter fun x => x.satisfies e
  | group p => p.reach xs
  | seq ps => reachAll ps xs
  | alt ps => reachAny ps xs
  | repeated p least most =>
    let ys := times (fun zs => p.reach zs) least xs
    upTo (fun zs => p.reach zs) (furtherTimes least most ys) ys

/-- The spots behind patterns one after the other. -/
def reachAll (ps : List Pattern) (xs : List Spot) : List Spot :=
  match ps with
  | [] => xs
  | p :: ps => reachAll ps (p.reach xs)

/-- The spots behind any of the patterns. -/
def reachAny (ps : List Pattern) (xs : List Spot) : List Spot :=
  match ps with
  | [] => []
  | p :: ps => Spot.merge (p.reach xs) (reachAny ps xs)

end

/-- Some part of the text matches. -/
def isMatch (p : Pattern) (text : List Char) : Bool :=
  !(p.reach (Spot.along none text)).isEmpty

/-! ### Limits -/

mutual

/-- The depth of a pattern. Literals in a row count as one. -/
def height (p : Pattern) : Nat :=
  match p with
  | literal _ _ | one _ | edge _ => 1
  | group p | repeated p _ _ => p.height + 1
  | seq ps => if ps.length ≤ 1 then heights ps else heights ps + 1
  | alt ps => heights ps + 1

/-- The greatest depth of some patterns. -/
def heights (ps : List Pattern) : Nat :=
  match ps with
  | [] => 1
  | p :: ps => max p.height (heights ps)

end

mutual

/-- The number of steps that a pattern spells out. -/
def size (p : Pattern) : Nat :=
  match p with
  | literal _ _ | one _ | edge _ => 1
  | group p => p.size + 2
  | seq ps => max 1 (sizes ps)
  | alt ps => sizes ps + (ps.length - 1)
  | repeated p least most =>
    match most with
    | none => if least == 0 then p.size + 2 else least * p.size + 1
    | some n => max 1 (n * p.size + (n - least))

/-- The steps of some patterns together. -/
def sizes (ps : List Pattern) : Nat :=
  match ps with
  | [] => 0
  | p :: ps => p.size + sizes ps

end

mutual

/-- The repetitions in a pattern, those inside others multiplied, do not exceed `n`. -/
def repeatsWithin (p : Pattern) (n : Nat) : Bool :=
  match p with
  | literal _ _ | one _ | edge _ => true
  | group p => p.repeatsWithin n
  | seq ps | alt ps => allRepeatWithin ps n
  | repeated p least most =>
    let m := most.getD least
    most == some 0 || (m ≤ n && p.repeatsWithin (if m == 0 then n else n / m))

/-- The repetitions in some patterns do not exceed `n`. -/
def allRepeatWithin (ps : List Pattern) (n : Nat) : Bool :=
  match ps with
  | [] => true
  | p :: ps => p.repeatsWithin n && allRepeatWithin ps n

end

end Pattern

end PocketScheme
