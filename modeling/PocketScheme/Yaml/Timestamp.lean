/-!
Timestamps: a date `YYYY-M-D`, alone or followed by a time of day. The time follows a `T` and ends
in a zone, or follows spaces and has none.

* `Timestamp`: date, time and zone, with `Timestamp.ofChars?`;
* `Timestamp.isSame`: when two timestamps are the same key of a mapping.
-/

namespace PocketScheme.Yaml

/-- The zone of a time: the universal one, one that is spelled as an offset of zero, or another
one. -/
inductive Zone where
  | universal
  | zero
  | shifted
  deriving DecidableEq, Repr

/-- A time of day. -/
structure Clock where
  hour : Nat
  minute : Nat
  second : Nat
  /-- The digits of the fraction of a second, nine of them. -/
  fraction : Nat
  deriving DecidableEq, Repr

/-- A timestamp. -/
structure Timestamp where
  year : Nat
  month : Nat
  day : Nat
  clock : Clock
  zone : Zone
  deriving DecidableEq, Repr

namespace Timestamp

/-- The start of a day. -/
def midnight : Clock := ⟨0, 0, 0, 0⟩

/-- Two timestamps are the same key if they agree in all parts; each offset other than zero makes a
zone of its own. -/
def isSame (s t : Timestamp) : Bool :=
  s.zone != .shifted && s == t

/-! ### Reading -/

/-- The value of a digit. -/
def digit (c : Char) : Nat :=
  c.toNat - '0'.toNat

/-- One or two digits in front of a text. -/
def number? : List Char → Option (Nat × List Char)
  | a :: b :: cs =>
    if a.isDigit then
      if b.isDigit then some (digit a * 10 + digit b, cs) else some (digit a, b :: cs)
    else none
  | [a] => if a.isDigit then some (digit a, []) else none
  | [] => none

/-- A number below `bound` in front of a text. -/
def below? (bound : Nat) (cs : List Char) : Option (Nat × List Char) :=
  (number? cs).filter fun (n, _) => n < bound

/-- The text behind a character that it has to start with. -/
def expect? (c : Char) : List Char → Option (List Char)
  | d :: cs => if c == d then some cs else none
  | [] => none

/-- The number of days of a month. -/
def daysIn (year month : Nat) : Nat :=
  if month == 2 then
    if year % 4 == 0 && (year % 100 != 0 || year % 400 == 0) then 29 else 28
  else if month == 4 || month == 6 || month == 9 || month == 11 then 30
  else 31

/-- A year, a month and a day in front of a text; the year has four digits. -/
def date? : List Char → Option ((Nat × Nat × Nat) × List Char)
  | a :: b :: c :: d :: cs =>
    if [a, b, c, d].all Char.isDigit then do
      let year := [a, b, c, d].foldl (fun n x => n * 10 + digit x) 0
      let cs ← expect? '-' cs
      let (month, cs) ← number? cs
      let cs ← expect? '-' cs
      let (day, cs) ← number? cs
      if 1 ≤ month && month ≤ 12 && 1 ≤ day && day ≤ daysIn year month then
        some ((year, month, day), cs)
      else none
    else none
  | _ => none

/-- Nine digits of a fraction. -/
def fractionOf (ds : List Char) : Nat :=
  (ds ++ List.replicate 9 '0').take 9 |>.foldl (fun n d => n * 10 + digit d) 0

/-- The fraction of a second in front of a text, and what follows it. -/
def fraction : List Char → Nat × List Char
  | p :: d :: cs =>
    if (p == '.' || p == ',') && d.isDigit then
      (fractionOf (d :: cs.takeWhile Char.isDigit), cs.dropWhile Char.isDigit)
    else (0, p :: d :: cs)
  | cs => (0, cs)

/-- A time of day in front of a text. -/
def clock? (cs : List Char) : Option (Clock × List Char) := do
  let (hour, cs) ← below? 24 cs
  let cs ← expect? ':' cs
  let (minute, cs) ← below? 60 cs
  let cs ← expect? ':' cs
  let (second, cs) ← below? 60 cs
  let (part, cs) := fraction cs
  return (⟨hour, minute, second, part⟩, cs)

/-- The zone that a text spells: `Z`, or a sign, two digits, a colon and two digits. -/
def zone? : List Char → Option Zone
  | ['Z'] => some .universal
  | [s, a, b, ':', c, d] =>
    let hours := digit a * 10 + digit b
    let minutes := digit c * 10 + digit d
    if (s == '+' || s == '-') && [a, b, c, d].all Char.isDigit && hours ≤ 24 && minutes ≤ 60 then
      some (if hours == 0 && minutes == 0 then .zero else .shifted)
    else none
  | _ => none

/-- The time and the zone that follow a date. -/
def tail? : List Char → Option (Clock × Zone)
  | [] => some (midnight, .universal)
  | c :: cs =>
    if c == 'T' || c == 't' then do
      let (clock, cs) ← clock? cs
      return (clock, ← zone? cs)
    else if c == ' ' then do
      let (clock, cs) ← clock? (cs.dropWhile (· == ' '))
      if cs.isEmpty then some (clock, .universal) else none
    else none

/-- The timestamp that a text spells. -/
def ofChars? (cs : List Char) : Option Timestamp := do
  let ((year, month, day), cs) ← date? cs
  let (clock, zone) ← tail? cs
  return ⟨year, month, day, clock, zone⟩

end Timestamp

end PocketScheme.Yaml
