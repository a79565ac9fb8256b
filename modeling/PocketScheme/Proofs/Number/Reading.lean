import PocketScheme.Number.Reader
import Mathlib

/-!
Numbers by their parts. Reading goes over a text several times: it looks for an integer, then asks
whether the text looks like a double, then for one of the words, and then it collects digits. Here
all this is one definition that is shaped like the texts themselves.

* `Number.decimal?`, `Number.spelledDouble?`: doubles by the parts of their texts;
* `Number.spelled?`: numbers by the parts of their texts;
* `Number.numeral?_eq`, `Number.double?_eq`: this is what is read.
-/

namespace PocketScheme.Number

/-! ### The parts of a number -/

/-- An unsigned decimal with an optional point and an optional exponent. -/
def decimal? (cs : List Char) : Option Numeral :=
  let whole := cs.takeWhile Char.isDigit
  let (fraction, rest) := match cs.dropWhile Char.isDigit with
    | '.' :: ds => (ds.takeWhile Char.isDigit, ds.dropWhile Char.isDigit)
    | ds => ([], ds)
  if whole.isEmpty && fraction.isEmpty then none
  else (exponent? rest).map fun e => ⟨digitsValue (whole ++ fraction), e - fraction.length⟩

/-- The double that a text spells: a decimal or a word for infinity behind an optional sign, or the
word for what is no number. -/
def spelledDouble? (cs : List Char) : Option Float :=
  let (sign, body) := splitSign cs
  match decimal? body with
  | some d =>
    some (Decimal.signedDouble (sign == .minus) (Decimal.decimalBits d.mantissa d.exponent))
  | none =>
    if isWord "inf" body || isWord "infinity" body then
      some (Decimal.signedDouble (sign == .minus) Decimal.infinityBits)
    else if isWord "nan" cs then some (Decimal.signedDouble false nanBits)
    else none

/-- The number that a text spells: an integer behind an optional sign if it fits, or a double. -/
def spelled? (cs : List Char) : Option Number :=
  match integer? cs with
  | some v => some (int v)
  | none => (spelledDouble? cs).map float

/-! ### Integers -/

/-- Only digits behind at most one sign are taken for an integer. -/
lemma isDecimalInteger_eq (cs : List Char) : isDecimalInteger cs = isDigits (splitSign cs).2 := by
  have hsign : Char.isDigit '+' = false := by decide
  fun_cases splitSign cs with
  | case1 ds => simp [isDecimalInteger, trimFront, isDigits]
  | case2 ds =>
      cases ds with
      | nil => rfl
      | cons d ds =>
          by_cases hd : d = '+'
          · subst hd
            simp [isDecimalInteger, trimFront, isDigits, hsign]
          · simp [isDecimalInteger, trimFront, isDigits, hd]
  | case3 _ hplus hminus =>
      cases cs with
      | nil => rfl
      | cons c cs =>
          have hplus' : c ≠ '+' := fun h => hplus cs (by rw [h])
          have hminus' : c ≠ '-' := fun h => hminus cs (by rw [h])
          simp [isDecimalInteger, trimFront, isDigits, hplus', hminus']

lemma integer?_of_not_isDecimalInteger {cs : List Char} (h : isDecimalInteger cs = false) :
    integer? cs = none := by
  rw [isDecimalInteger_eq] at h
  simp [integer?, h]

lemma fits_toInt (v : Int64) : fits v.toInt = true := by
  have hlo := v.le_toInt
  have hhi := v.toInt_lt
  simp only [fits, Bool.and_eq_true, decide_eq_true_eq]
  omega

/-! ### Digits -/

/-- Digits are collected one after the other. -/
lemma read_digits {ds : List Char} (hds : ∀ d ∈ ds, d.isDigit = true) (r : DigitRun)
    (cs : List Char) : r.read (ds ++ cs) = (ds.foldl DigitRun.push r).read cs := by
  induction ds generalizing r with
  | nil => rfl
  | cons d ds ih =>
      have hd := hds d (by simp)
      have hpoint : d ≠ '.' := by
        rintro rfl
        exact absurd hd (by decide)
      rw [List.cons_append, DigitRun.read, if_neg (by simpa using hpoint), if_pos hd,
        ih fun c hc => hds c (by simp [hc]), List.foldl_cons]

lemma foldl_push (ds : List Char) (r : DigitRun) :
    ds.foldl DigitRun.push r =
      ⟨ds.foldl (fun n c => n * 10 + (c.toNat - '0'.toNat)) r.mantissa, r.pointed,
        if r.pointed then r.places + ds.length else r.places, r.any || !ds.isEmpty⟩ := by
  induction ds generalizing r with
  | nil => simp
  | cons d ds ih =>
      rw [List.foldl_cons, ih, DigitRun.push]
      cases r.pointed <;> simp [Nat.add_comm, Nat.add_left_comm]

/-- What is neither a digit nor a point in its place ends a run. -/
lemma read_stop {r : DigitRun} {cs : List Char} (hdigit : ∀ c ∈ cs.head?, c.isDigit = false)
    (hpoint : r.pointed = true ∨ '.' ∉ cs.head?) : r.read cs = (r, cs) := by
  cases cs with
  | nil => rfl
  | cons c cs =>
      have hc : c.isDigit = false := hdigit c rfl
      rw [DigitRun.read]
      split
      · rename_i hdot
        rcases hpoint with hr | hno
        · simp [hr]
        · exact absurd (by simpa using hdot) hno
      · simp [hc]

/-- Digits without a point. -/
lemma read_whole {whole rest : List Char} (hwhole : ∀ d ∈ whole, d.isDigit = true)
    (hrest : ∀ c ∈ rest.head?, c.isDigit = false) (hpoint : '.' ∉ rest.head?) :
    DigitRun.start.read (whole ++ rest) =
      (⟨digitsValue whole, false, 0, !whole.isEmpty⟩, rest) := by
  rw [read_digits hwhole, foldl_push, read_stop hrest (.inr hpoint)]
  simp [DigitRun.start, digitsValue]

/-- Digits with a point before, among or behind them. -/
lemma read_fraction {whole fraction rest : List Char} (hwhole : ∀ d ∈ whole, d.isDigit = true)
    (hfraction : ∀ d ∈ fraction, d.isDigit = true) (hrest : ∀ c ∈ rest.head?, c.isDigit = false) :
    DigitRun.start.read (whole ++ '.' :: (fraction ++ rest)) =
      (⟨digitsValue (whole ++ fraction), true, fraction.length, !(whole ++ fraction).isEmpty⟩,
        rest) := by
  have hpoint (r : DigitRun) (hr : r.pointed = false) (cs : List Char) :
      r.read ('.' :: cs) = DigitRun.read { r with pointed := true } cs := by
    simp [DigitRun.read, hr]
  rw [read_digits hwhole, foldl_push, hpoint _ rfl, read_digits hfraction, foldl_push,
    read_stop hrest (.inl rfl)]
  cases whole <;> simp [DigitRun.start, digitsValue]

lemma isDigit_head?_dropWhile (cs : List Char) :
    ∀ c ∈ (cs.dropWhile Char.isDigit).head?, c.isDigit = false := by
  intro c hc
  have h := List.head?_dropWhile_not Char.isDigit cs
  rw [Option.mem_def] at hc
  rw [hc] at h
  simpa using h

/-- The digits of a decimal are those before and behind its point. -/
lemma numeral?_eq (cs : List Char) : numeral? cs = decimal? cs := by
  have hcs := List.takeWhile_append_dropWhile (p := Char.isDigit) (l := cs)
  have hwhole : ∀ c ∈ cs.takeWhile Char.isDigit, c.isDigit = true := fun c => List.mem_takeWhile_imp
  have hrest := isDigit_head?_dropWhile cs
  rw [eq_comm, decimal?]
  generalize cs.takeWhile Char.isDigit = whole at hcs hwhole
  generalize cs.dropWhile Char.isDigit = rest at hcs hrest
  subst hcs
  -- the digits go on behind a point, or they end
  dsimp only
  split
  · rename_i ds
    have hfraction : ∀ c ∈ ds.takeWhile Char.isDigit, c.isDigit = true :=
      fun c => List.mem_takeWhile_imp
    have hread := read_fraction hwhole hfraction (isDigit_head?_dropWhile ds)
    rw [List.takeWhile_append_dropWhile] at hread
    rw [numeral?, hread]
    cases whole <;> cases ds.takeWhile Char.isDigit <;> rfl
  · rename_i hpoint
    have hno : '.' ∉ rest.head? := by
      intro h
      obtain ⟨ds, rfl⟩ := List.head?_eq_some_iff.mp h
      exact hpoint ds rfl
    rw [numeral?, read_whole hwhole hrest hno]
    cases whole <;> simp

/-! ### Words -/

/-- As many characters agree with a word as are the same once they are made small. -/
lemma le_agreement_iff {n : Nat} {word cs : List Char} (hn : n ≤ word.length) :
    n ≤ agreement word cs ↔ (cs.take n).map Char.toLower = word.take n := by
  induction word generalizing n cs with
  | nil =>
      obtain rfl : n = 0 := by simpa using hn
      simp
  | cons l ls ih =>
      cases n with
      | zero => simp
      | succ n =>
          rw [List.length_cons, Nat.add_le_add_iff_right] at hn
          cases cs with
          | nil => simp [agreement]
          | cons c cs =>
              rw [agreement]
              by_cases hc : c.toLower = l
              · simp [hc, ih hn]
              · simp [hc]

lemma agreement_le (word cs : List Char) : agreement word cs ≤ cs.length := by
  fun_induction agreement word cs with
  | case1 => simp_all
  | case2 => simp
  | case3 => simp

/-- A text is a word if it agrees with it and ends there. -/
lemma isWord_iff_agreement {word : String} {cs : List Char} :
    isWord word cs = true ↔
      word.toList.length ≤ agreement word.toList cs ∧ cs.length = word.toList.length := by
  rw [isWord, beq_iff_eq, le_agreement_iff (Nat.le_refl _), List.take_length]
  constructor
  · intro h
    have hlength : cs.length = word.toList.length := by rw [← h, List.length_map]
    exact ⟨by rw [← hlength, List.take_length, h], hlength⟩
  · rintro ⟨h, hlength⟩
    rwa [← hlength, List.take_length] at h

lemma agreement_le_word (word cs : List Char) : agreement word cs ≤ word.length := by
  fun_induction agreement word cs with
  | case1 => simp_all
  | case2 => simp
  | case3 => simp

/-- A text that agrees with a word in its first letter. -/
lemma exists_cons_of_agreement (l : Char) (ls : List Char) {cs : List Char}
    (h : 0 < agreement (l :: ls) cs) : ∃ c ds, cs = c :: ds ∧ c.toLower = l := by
  cases cs with
  | nil => simp [agreement] at h
  | cons c ds =>
      refine ⟨c, ds, rfl, ?_⟩
      by_contra hc
      simp [agreement, hc] at h

/-- Letters are none of the other characters of numbers, and each takes one byte. -/
lemma of_isAlpha {c : Char} (h : c.isAlpha = true) :
    c.isDigit = false ∧ c ≠ '.' ∧ c ≠ '+' ∧ c ≠ '-' ∧ c ≠ '_' ∧ c.toNat < 128 := by
  have hrange : 65 ≤ c.toNat ∧ c.toNat < 128 := by
    simp only [Char.isAlpha, Char.isUpper, Char.isLower, Bool.or_eq_true, Bool.and_eq_true,
      decide_eq_true_eq, ge_iff_le, UInt32.le_iff_toNat_le] at h
    rcases h with ⟨hlo, hhi⟩ | ⟨hlo, hhi⟩
    · have hlo : 65 ≤ c.toNat := hlo
      have hhi : c.toNat ≤ 90 := hhi
      omega
    · have hlo : 97 ≤ c.toNat := hlo
      have hhi : c.toNat ≤ 122 := hhi
      omega
  refine ⟨?_, ?_, ?_, ?_, ?_, hrange.2⟩
  · by_contra hdigit
    simp only [Char.isDigit, Bool.not_eq_false, Bool.and_eq_true, decide_eq_true_eq, ge_iff_le,
      UInt32.le_iff_toNat_le] at hdigit
    have hhi : c.toNat ≤ 57 := hdigit.2
    omega
  all_goals
    rintro rfl
    exact absurd h (by decide)

lemma isAlpha_of_toLower {c l : Char} (h : c.toLower = l) (hl : l.isLower = true) :
    c.isAlpha = true := by
  rw [← Char.isLower_toLower_eq_isAlpha, h, hl]

lemma decimal?_of_isAlpha {c : Char} (h : c.isAlpha = true) (cs : List Char) :
    decimal? (c :: cs) = none := by
  obtain ⟨hdigit, hpoint, -⟩ := of_isAlpha h
  rw [← numeral?_eq, numeral?, read_stop (by simpa using hdigit) (.inr (by simpa using hpoint))]
  rfl

lemma splitSign_of_isAlpha {c : Char} (h : c.isAlpha = true) (cs : List Char) :
    splitSign (c :: cs) = (.none, c :: cs) := by
  obtain ⟨-, -, hplus, hminus, -⟩ := of_isAlpha h
  rw [splitSign]
  · exact fun _ h => hplus (List.cons.inj h).1
  · exact fun _ h => hminus (List.cons.inj h).1

/-- The word for what is no number has no sign. -/
lemma not_isWord_nan {cs : List Char} (h : 0 < agreement "infinity".toList (splitSign cs).2) :
    isWord "nan" cs = false := by
  by_contra hnan
  rw [Bool.not_eq_false, isWord_iff_agreement] at hnan
  obtain ⟨c, ds, rfl, hc⟩ := exists_cons_of_agreement 'n' ['a', 'n']
    (Nat.lt_of_lt_of_le (by decide) hnan.1)
  rw [splitSign_of_isAlpha (isAlpha_of_toLower hc (by decide))] at h
  obtain ⟨d, es, heq, hd⟩ := exists_cons_of_agreement 'i' "nfinity".toList h
  obtain rfl := (List.cons.inj heq).1
  exact absurd (hc.symm.trans hd) (by decide)

/-! ### Doubles -/

/-- What is read as a double is what its parts spell. -/
lemma double?_eq (cs : List Char) : double? cs = spelledDouble? cs := by
  have hinf : isWord "inf" (splitSign cs).2 = true ↔
      3 ≤ agreement "infinity".toList (splitSign cs).2 ∧ (splitSign cs).2.length = 3 := by
    rw [isWord_iff_agreement, show "inf".toList.length = 3 by rfl, le_agreement_iff (by decide),
      le_agreement_iff (by decide)]
    rfl
  have hinfinity : isWord "infinity" (splitSign cs).2 = true ↔
      8 ≤ agreement "infinity".toList (splitSign cs).2 ∧ (splitSign cs).2.length = 8 :=
    isWord_iff_agreement
  have hnan : isWord "nan" cs = true ↔ 3 ≤ agreement "nan".toList cs ∧ cs.length = 3 :=
    isWord_iff_agreement
  have hmost : agreement "infinity".toList (splitSign cs).2 ≤ 8 := agreement_le_word _ _
  have hmost' : agreement "nan".toList cs ≤ 3 := agreement_le_word _ _
  have hfew := agreement_le "infinity".toList (splitSign cs).2
  have hfew' := agreement_le "nan".toList cs
  rw [double?, spelledDouble?, special?]
  dsimp only
  by_cases hn : 3 ≤ agreement "infinity".toList (splitSign cs).2
  · -- a word for infinity, or a text that only starts with one
    have hno := not_isWord_nan (Nat.lt_of_lt_of_le (by decide) hn)
    obtain ⟨c, ds, hbody, hc⟩ := exists_cons_of_agreement 'i' "nfinity".toList
      (Nat.lt_of_lt_of_le (by decide) hn)
    have hdecimal : decimal? (splitSign cs).2 = none := by
      rw [hbody, decimal?_of_isAlpha (isAlpha_of_toLower hc (by decide))]
    rw [if_pos hn, hdecimal]
    have hends : ((splitSign cs).2.drop
        (if agreement "infinity".toList (splitSign cs).2 == 8 then 8 else 3)).isEmpty =
          (isWord "inf" (splitSign cs).2 || isWord "infinity" (splitSign cs).2) := by
      rw [Bool.eq_iff_iff, Bool.or_eq_true, hinf, hinfinity, List.isEmpty_iff, List.drop_eq_nil_iff]
      split
      · rename_i h
        rw [beq_iff_eq] at h
        omega
      · rename_i h
        rw [beq_iff_eq] at h
        omega
    simp only [hends, hno, Bool.false_eq_true, if_false]
  · have hnoinf :
        (isWord "inf" (splitSign cs).2 || isWord "infinity" (splitSign cs).2) = false := by
      rw [Bool.or_eq_false_iff, ← Bool.not_eq_true, ← Bool.not_eq_true, hinf, hinfinity]
      omega
    rw [if_neg hn, hnoinf]
    by_cases hn' : agreement "nan".toList cs = 3
    · -- the word for what is no number, or a text that only starts with it
      obtain ⟨c, ds, hbody, hc⟩ := exists_cons_of_agreement 'n' ['a', 'n']
        (Nat.lt_of_lt_of_le (by decide) hn'.ge)
      have halpha := isAlpha_of_toLower hc (by decide)
      have hdecimal : decimal? (splitSign cs).2 = none := by
        rw [hbody, splitSign_of_isAlpha halpha, decimal?_of_isAlpha halpha]
      have hends : (cs.drop 3).isEmpty = isWord "nan" cs := by
        rw [Bool.eq_iff_iff, hnan, List.isEmpty_iff, List.drop_eq_nil_iff]
        omega
      rw [if_pos (by simpa using hn'), hdecimal]
      simp only [hends, Bool.false_eq_true, if_false]
    · -- no word
      have hno : isWord "nan" cs = false := by
        rw [← Bool.not_eq_true, hnan]
        omega
      rw [if_neg (by simpa using hn'), hno, numeral?_eq]
      cases decimal? (splitSign cs).2 <;> rfl

end PocketScheme.Number
