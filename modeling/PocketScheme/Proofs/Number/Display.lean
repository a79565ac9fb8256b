import PocketScheme.Proofs.Decimal.Scientific
import PocketScheme.Proofs.Number.Grammar
import PocketScheme.Proofs.Token.Lexer

/-!
How numbers are displayed.

* `Number.ShowsExponent`, `Number.Displays`: the form of a displayed double;
* `Number.showsExponent_intChars`, `Number.displays_floatChars`: doubles are displayed in this form;
* `Number.displayed_read_back`: a displayed number is one token and is read as a number of its kind.
-/

namespace PocketScheme.Number

/-! ### The form of a double -/

/-- Digits without a zero in front. -/
structure LeadingDigits (cs : List Char) : Prop extends Digits cs where
  head : cs.head? ≠ some '0'

/-- A displayed exponent: no zero in front, and a sign only on a negative one. -/
inductive ShowsExponent : List Char → Prop
  | zero : ShowsExponent ['0']
  | positive {cs : List Char} (h : LeadingDigits cs) : ShowsExponent cs
  | negative {cs : List Char} (h : LeadingDigits cs) : ShowsExponent ('-' :: cs)

/-- How a double is displayed: one digit, which is zero in zeros only, four digits behind the point
and an exponent. -/
inductive Displays (bits : Nat) : List Char → Prop
  | nan (h : Decimal.infinityBits < magnitude bits) : Displays bits ['N', 'a', 'N']
  | infinity (h : magnitude bits = Decimal.infinityBits) :
      Displays bits [signChar bits, 'i', 'n', 'f']
  | finite (h : magnitude bits < Decimal.infinityBits) {d : Char} {ds xs : List Char}
      (hd : d.isDigit = true) (hzero : d = '0' ↔ magnitude bits = 0) (hds : Digits ds)
      (hlength : ds.length = 4) (hxs : ShowsExponent xs) :
      Displays bits (signChar bits :: d :: '.' :: (ds ++ 'e' :: xs))

/-! ### Digits -/

lemma digits_natChars (n : Nat) : Digits (natChars n) :=
  isDigits_iff.mp (isDigits_natChars n)

lemma leadingDigits_natChars {n : Nat} (hn : 0 < n) : LeadingDigits (natChars n) :=
  ⟨digits_natChars n, head?_natChars hn⟩

lemma showsExponent_intChars (i : Int) : ShowsExponent (intChars i) := by
  match i with
  | .ofNat 0 => exact .zero
  | .ofNat (n + 1) => exact .positive (leadingDigits_natChars (by omega))
  | .negSucc n => exact .negative (leadingDigits_natChars (by omega))

lemma length_paddedChars {width n : Nat} (hwidth : 0 < width) (hn : n < 10 ^ width) :
    (paddedChars width n).length = width := by
  have hle : (natChars n).length ≤ width := Nat.toDigits_length 10 n width hwidth hn
  rw [paddedChars, List.length_append, List.length_replicate]
  omega

lemma digits_paddedChars (width n : Nat) : Digits (paddedChars width n) :=
  ⟨by simp [paddedChars, natChars_ne_nil], fun _ hc => isDigit_of_mem_paddedChars hc⟩

/-! ### Doubles -/

/-- The leading digits of a finite double: five of them, unless it is zero. -/
lemma digits_ofBits {bits : Nat} (hfinite : bits < Decimal.infinityBits) :
    (Decimal.Scientific.ofBits fractionDigits bits).digits / 10 ^ 4 < 10 ∧
      ((Decimal.Scientific.ofBits fractionDigits bits).digits / 10 ^ 4 = 0 ↔ bits = 0) := by
  rcases Nat.eq_zero_or_pos bits with rfl | hpos
  · have hnone : (Decimal.Scientific.ofBits fractionDigits 0).digits = 0 := rfl
    simp [hnone]
  · have hdigits := Decimal.ofBits_digits hpos hfinite fractionDigits
    rw [fractionDigits] at hdigits ⊢
    omega

/-- Doubles are displayed in their form. -/
lemma displays_floatChars (bits : Nat) : Displays bits (floatChars bits) := by
  rw [floatChars_eq]
  split
  · rename_i hnan
    exact .nan hnan
  · rename_i hnan
    split
    · rename_i hinfinite
      exact .infinity (by simpa using hinfinite)
    · rename_i hinfinite
      have hfinite : magnitude bits < Decimal.infinityBits :=
        lt_of_le_of_ne (not_lt.mp hnan) (by simpa using hinfinite)
      obtain ⟨hlt, hzero⟩ := digits_ofBits hfinite
      rw [← digitChar_eq_zero_iff hlt] at hzero
      generalize Decimal.Scientific.ofBits fractionDigits (magnitude bits) = s at hlt hzero ⊢
      rw [shownChars, fractionDigits, Nat.pow_eq, natChars_of_lt hlt, List.append_assoc,
        List.singleton_append, List.cons_append]
      have hdigit := isDigit_of_mem_natChars (natChars_of_lt hlt ▸ List.mem_singleton_self _)
      exact .finite hfinite hdigit hzero (digits_paddedChars _ _)
        (length_paddedChars (by omega) (Nat.mod_lt _ (by omega))) (showsExponent_intChars _)

end PocketScheme.Number

/-! ### Reading displayed numbers -/

namespace PocketScheme

/-- The text of a number by itself is one token. -/
lemma Token.scan_render {n m : Number} (h : Number.ofString? n.render = some m) :
    scan n.render.toList = [⟨.number n.render m, .start⟩] := by
  have hword := scanFrom_word (isWord_render n) stops_nil .start
  rw [List.append_nil] at hword
  rw [Number.ofString?] at h
  rw [scan, hword, word, h, scanFrom, String.ofList_toList]

/-- A displayed integer is read as this integer. A displayed double has its form, is one token, and
is read as a double. -/
theorem Number.displayed_read_back :
    (∀ v : Int64, ofString? (render (.int v)) = some (.int v)) ∧
      ∀ x : Float, Displays x.toBits.toNat (render (.float x)).toList ∧
        ∃ y, ofString? (render (.float x)) = some (.float y) ∧
          Token.scan (render (.float x)).toList =
            [⟨.number (render (.float x)) (.float y), .start⟩] := by
  refine ⟨fun v => ?_, fun x => ?_⟩
  · rw [ofString?, render, String.toList_ofList, ofChars?_intChars]
  · obtain ⟨y, hy⟩ : ∃ y, ofString? (render (.float x)) = some (.float y) := by
      rw [ofString?, render, String.toList_ofList]
      exact ofChars?_floatChars _
    refine ⟨?_, y, hy, Token.scan_render hy⟩
    rw [render, String.toList_ofList]
    exact displays_floatChars _

end PocketScheme
