import PocketScheme.Text.Quoted

/-!
Internet addresses in brackets, as in URLs. Only the new kind, of eight groups, may stand there; a
zone may follow it.

* `IpAddress.Fault`: what is wrong with a text;
* `IpAddress.check`: whether a text is an address, and of which kind.
-/

namespace PocketScheme.IpAddress

/-- The glyphs of an address. -/
abbrev Glyphs := List Glyph

/-- The two kinds of addresses: four numbers, or eight groups. -/
inductive Kind where
  | four
  | sixteen
  deriving DecidableEq, Repr

/-- What is wrong with an address. -/
inductive Cause where
  | unknown
  | noAddress
  | emptyZone
  | leadingZero
  | largeNumber
  | emptyNumber
  | tooManyNumbers
  | tooFewNumbers
  | strayCharacter
  | longGroup
  | emptyGroup
  | misplacedNumbers
  | noRoomForNumbers
  | noColon
  | lastColon
  | secondGap
  | leftover
  | tooFewGroups
  | emptyGap
  deriving DecidableEq, Repr

/-- The text of a cause. -/
def Cause.message : Cause → String
  | unknown => "unable to parse IP"
  | noAddress => "missing IPv6 address"
  | emptyZone => "zone must be a non-empty string"
  | leadingZero => "IPv4 field has octet with leading zero"
  | largeNumber => "IPv4 field has value >255"
  | emptyNumber => "IPv4 field must have at least one digit"
  | tooManyNumbers => "IPv4 address too long"
  | tooFewNumbers => "IPv4 address too short"
  | strayCharacter => "unexpected character"
  | longGroup => "each group must have 4 or less digits"
  | emptyGroup => "each colon-separated field must have at least one digit"
  | misplacedNumbers =>
    "embedded IPv4 address must replace the final 2 fields of the address"
  | noRoomForNumbers =>
    "too many hex fields to fit an embedded IPv4 at the end of the address"
  | noColon => "unexpected character, want colon"
  | lastColon => "colon must be followed by more characters"
  | secondGap => "multiple :: in address"
  | leftover => "trailing garbage after address"
  | tooFewGroups => "address string too short"
  | emptyGap => "the :: must expand to at least one field of zeros"

/-- A fault: the cause, the whole text, and the rest of it at which the fault shows. -/
structure Fault where
  cause : Cause
  text : Text
  rest : Text
  deriving DecidableEq, Repr

/-- The text of a fault. -/
def Fault.message (f : Fault) : String :=
  "ParseAddr(" ++ Text.quote f.text ++ "): " ++ f.cause.message ++
    (if f.rest.isEmpty then "" else " (at " ++ Text.quote f.rest ++ ")")

/-- Fails in a text, at some rest of it. -/
def fail {α : Type} (text : Glyphs) (cause : Cause) (rest : Glyphs) : Except Fault α :=
  .error ⟨cause, ⟨text⟩, ⟨rest⟩⟩

/-! ### Four numbers -/

/-- A place among four numbers: how many are finished, and the value and the number of digits of the
present one. -/
structure Count where
  finished : Nat
  value : Nat
  digits : Nat

/-- Reads on among four numbers. The text is the whole one, for faults. -/
def numbersFrom (text : Glyphs) (n : Count) : Glyphs → Except Fault Unit
  | [] => if n.finished < 3 then fail text .tooFewNumbers [] else .ok ()
  | g :: gs =>
    if g.satisfies Char.isDigit then
      if n.digits == 1 && n.value == 0 then fail text .leadingZero []
      else
        let value := n.value * 10 + (g.shown.toNat - '0'.toNat)
        if 255 < value then fail text .largeNumber []
        else numbersFrom text ⟨n.finished, value, n.digits + 1⟩ gs
    else if g == .char '.' then
      if gs.isEmpty || n.digits == 0 then fail text .emptyNumber (g :: gs)
      else if n.finished == 3 then fail text .tooManyNumbers []
      else numbersFrom text ⟨n.finished + 1, 0, 0⟩ gs
    else fail text .strayCharacter (g :: gs)

/-- Checks four numbers, which are the last part of a text. -/
def checkNumbers (text gs : Glyphs) : Except Fault Unit :=
  numbersFrom text ⟨0, 0, 0⟩ gs

/-! ### Eight groups -/

/-- The end of the groups: all of the text is read, and there are eight of them, or fewer and a gap
that stands for the others. -/
def checkEnd (text : Glyphs) (groups : Nat) (gap : Bool) (rest : Glyphs) : Except Fault Unit :=
  if !rest.isEmpty then fail text .leftover rest
  else if groups < 8 then if gap then .ok () else fail text .tooFewGroups []
  else if gap then fail text .emptyGap []
  else .ok ()

/-- Reads groups, of which `groups` are read. At the end four numbers may stand for two groups. -/
def groupsFrom (text : Glyphs) : Nat → Nat → Bool → Glyphs → Except Fault Unit
  | 0, groups, gap, gs => checkEnd text groups gap gs
  | fuel + 1, groups, gap, gs =>
    if 8 ≤ groups then checkEnd text groups gap gs
    else
      let isHex (g : Glyph) : Bool := g.satisfies fun c => (Text.hexDigit? c).isSome
      let digits := gs.takeWhile isHex
      let rest := gs.dropWhile isHex
      if 4 < digits.length then fail text .longGroup gs
      else if digits.isEmpty then fail text .emptyGroup gs
      else match rest with
        | [] => checkEnd text (groups + 1) gap []
        | g :: after =>
          if g == .char '.' then
            if !gap && groups != 6 then fail text .misplacedNumbers gs
            else if 6 < groups then fail text .noRoomForNumbers gs
            else do
              checkNumbers text gs
              checkEnd text (groups + 2) gap []
          else if g != .char ':' then fail text .noColon rest
          else match after with
            | [] => fail text .lastColon rest
            | h :: more =>
              if h == .char ':' then
                if gap then fail text .secondGap after
                else if more.isEmpty then checkEnd text (groups + 1) true []
                else groupsFrom text fuel (groups + 1) true more
              else groupsFrom text fuel (groups + 1) gap after

/-- Checks eight groups with a zone behind a percent sign. -/
def checkGroups (text : Glyphs) : Except Fault Unit :=
  let address := text.takeWhile (· != .char '%')
  let zone := text.dropWhile (· != .char '%')
  if zone.length == 1 then fail text .emptyZone []
  else match address with
    | .char ':' :: .char ':' :: [] => .ok ()
    | .char ':' :: .char ':' :: gs => groupsFrom text 8 0 true gs
    | gs => groupsFrom text 8 0 false gs

/-- Checks an address. The first point, colon or percent sign says which kind it is. -/
def check (address : Text) : Except Fault Kind :=
  let text := address.toList
  match text.find? fun g => g == .char '.' || g == .char ':' || g == .char '%' with
  | some (.char '.') => do
    checkNumbers text text
    return .four
  | some (.char ':') => do
    checkGroups text
    return .sixteen
  | some _ => fail text .noAddress []
  | none => fail text .unknown []

end PocketScheme.IpAddress
