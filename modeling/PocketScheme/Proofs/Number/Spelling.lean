import PocketScheme.Proofs.Number.Grammar
import PocketScheme.Token.Lexer

/-!
What the text of a number spells.

* `shownChars`, `floatChars_eq`: a double is shown by its digits and its exponent, with a sign;
* `ofChars?_intChars`: the text of an integer spells that integer;
* `ofChars?_floatChars`: the text of a double spells a double;
* `isWord_render`: the text of a number is a run of characters that can stand by itself.
-/

namespace PocketScheme

/-! ### Decimal digits -/

namespace Number

lemma isDigit_of_mem_natChars {n : Nat} {c : Char} (hc : c ∈ natChars n) : c.isDigit = true :=
  Nat.isDigit_of_mem_toDigits (by omega) (by omega) hc

lemma natChars_ne_nil (n : Nat) : natChars n ≠ [] :=
  List.length_pos_iff.mp Nat.length_toDigits_pos

lemma isDigits_natChars (n : Nat) : isDigits (natChars n) = true := by
  rw [isDigits, Bool.and_eq_true, Bool.not_eq_true', List.isEmpty_eq_false_iff, List.all_eq_true]
  exact ⟨natChars_ne_nil n, fun c hc => isDigit_of_mem_natChars hc⟩

/-- The digits of a natural spell it. -/
lemma digitsValue_natChars (n : Nat) : digitsValue (natChars n) = n := by
  have h : Nat.ofDigitChars 10 (natChars n) 0 = n := Nat.ofDigitChars_ten_toDigits
  rw [Nat.ofDigitChars] at h
  simpa only [digitsValue, Nat.mul_comm] using h

/-- A text that starts with a digit has no sign. -/
lemma splitSign_of_isDigit {c : Char} (cs : List Char) (hc : c.isDigit = true) :
    splitSign (c :: cs) = (.none, c :: cs) := by
  have hplus : c ≠ '+' := by rintro rfl; exact absurd hc (by decide)
  have hminus : c ≠ '-' := by rintro rfl; exact absurd hc (by decide)
  rw [splitSign]
  · exact fun _ h => hplus (List.cons.inj h).1
  · exact fun _ h => hminus (List.cons.inj h).1

lemma splitSign_natChars_append (n : Nat) (cs : List Char) :
    splitSign (natChars n ++ cs) = (.none, natChars n ++ cs) := by
  obtain ⟨c, ds, hds⟩ := List.exists_cons_of_ne_nil (natChars_ne_nil n)
  have hc : c.isDigit = true := isDigit_of_mem_natChars (n := n) (by simp [hds])
  rw [hds, List.cons_append, splitSign_of_isDigit _ hc]

lemma isDigit_of_mem_paddedChars {width n : Nat} {c : Char} (hc : c ∈ paddedChars width n) :
    c.isDigit = true := by
  rw [paddedChars, List.mem_append, List.mem_replicate] at hc
  rcases hc with ⟨-, rfl⟩ | hc
  · decide
  · exact isDigit_of_mem_natChars hc

/-! ### Integers -/

/-- The text of an integer spells that integer. -/
lemma ofChars?_intChars (v : Int64) : ofChars? (intChars v.toInt) = some (.int v) := by
  suffices hinteger : integer? (intChars v.toInt) = some v by rw [ofChars?_eq, spelled?, hinteger]
  have hfits := fits_toInt v
  have hv := v.ofInt_toInt
  generalize v.toInt = i at hfits hv
  cases i with
  | ofNat n =>
      have hsign := splitSign_natChars_append n []
      rw [List.append_nil] at hsign
      simp only [integer?, intChars, hsign]
      rw [if_pos (by simpa [isDigits_natChars, digitsValue_natChars] using hfits)]
      simpa [digitsValue_natChars] using hv
  | negSucc n =>
      simp only [integer?, intChars, splitSign]
      rw [if_pos (by simpa [isDigits_natChars, digitsValue_natChars, Int.negSucc_eq] using hfits)]
      simpa [digitsValue_natChars, Int.negSucc_eq] using hv

/-! ### Doubles -/

/-- Digits and exponent of a double as they are shown. -/
def shownChars (s : Decimal.Scientific) : List Char :=
  natChars (s.digits / Nat.pow 10 fractionDigits) ++ '.' ::
    paddedChars fractionDigits (s.digits % Nat.pow 10 fractionDigits) ++ 'e' :: intChars s.exponent

lemma digitChar_eq_zero_iff {n : Nat} (hn : n < 10) : n.digitChar = '0' ↔ n = 0 := by
  interval_cases n <;> decide

lemma natChars_of_lt {n : Nat} (hn : n < 10) : natChars n = [n.digitChar] :=
  Nat.toDigits_of_lt_base hn

/-- The digits of a natural start with the first one that is not zero. -/
lemma head?_natChars {n : Nat} (hn : 0 < n) : (natChars n).head? ≠ some '0' := by
  induction n using Nat.strongRecOn with
  | ind n ih =>
      by_cases hlt : n < 10
      · rw [natChars_of_lt hlt, List.head?_cons, ne_eq, Option.some.injEq,
          digitChar_eq_zero_iff hlt]
        omega
      · have happend : natChars n = natChars (n / 10) ++ [(n % 10).digitChar] :=
          Nat.toDigits_of_base_le (by omega) (by omega)
        rw [happend, List.head?_append_of_ne_nil _ (natChars_ne_nil _)]
        exact ih (n / 10) (by omega) (by omega)

/-- Without the zeros in front, the padded digits of a natural are its digits, and none for zero. -/
lemma dropWhile_paddedChars (width n : Nat) :
    (paddedChars width n).dropWhile (· == '0') = if n = 0 then [] else natChars n := by
  have hzeros (k : Nat) : ∀ c ∈ List.replicate k '0', (c == '0') = true := by
    intro c hc
    rw [(List.mem_replicate.mp hc).2]
    rfl
  rw [paddedChars, List.dropWhile_append_of_pos (hzeros _)]
  split
  · rename_i hn
    subst hn
    rfl
  · rename_i hn
    obtain ⟨c, cs, hcs⟩ := List.exists_cons_of_ne_nil (natChars_ne_nil n)
    have hhead := head?_natChars (Nat.pos_of_ne_zero hn)
    rw [hcs, List.head?_cons, ne_eq, Option.some.injEq] at hhead
    rw [hcs, List.dropWhile_cons_of_neg (by simpa using hhead)]

/-- Behind its sign, an exponent is digits. -/
lemma dropWhile_exponent {c : Char} (hc : c = '+' ∨ c = '-') (width n : Nat) :
    (c :: paddedChars width n).dropWhile (fun c => c == '+' || c == '-') = paddedChars width n := by
  obtain ⟨d, ds, hds⟩ : ∃ d ds, paddedChars width n = d :: ds :=
    List.exists_cons_of_ne_nil (by simp [paddedChars, natChars_ne_nil])
  have hmem : d ∈ paddedChars width n := by simp [hds]
  have hd : d.isDigit = true := isDigit_of_mem_paddedChars hmem
  have hplus : d ≠ '+' := by
    rintro rfl
    exact absurd hd (by decide)
  have hminus : d ≠ '-' := by
    rintro rfl
    exact absurd hd (by decide)
  rw [List.dropWhile_cons, if_pos (by simpa using hc), hds,
    List.dropWhile_cons_of_neg (by simp [hplus, hminus])]

/-- A short exponent is an integer in decimal. -/
lemma shortExponent_eq (i : Int) :
    shortExponent ((if i < 0 then '-' else '+') :: paddedChars 2 i.natAbs) = intChars i := by
  cases i with
  | ofNat n =>
      have hnonneg : ¬ (Int.ofNat n < 0) := by simp
      rw [if_neg hnonneg, shortExponent, dropWhile_exponent (.inl rfl), dropWhile_paddedChars]
      rcases Nat.eq_zero_or_pos n with rfl | hn
      · rfl
      · simp [hn.ne', natChars_ne_nil, intChars]
  | negSucc n =>
      rw [if_pos (Int.negSucc_lt_zero n), shortExponent, dropWhile_exponent (.inr rfl),
        dropWhile_paddedChars]
      simp [natChars_ne_nil, intChars]

/-- The mantissa goes up to the letter in front of the exponent. -/
lemma shorten_append {mantissa : List Char} (h : ∀ c ∈ mantissa, c ≠ 'e') (exponent : List Char) :
    shorten (mantissa ++ 'e' :: exponent) =
      (if mantissa.head? == some '-' then mantissa else '+' :: mantissa) ++
        'e' :: shortExponent exponent := by
  have hplain : ∀ c ∈ mantissa, (c != 'e') = true := fun c hc => by simpa using h c hc
  rw [shorten, List.takeWhile_append_of_pos hplain, List.dropWhile_append_of_pos hplain]
  simp

/-- Scientific notation is shown by its digits and its exponent, with a sign. -/
lemma shorten_scientificChars (negative : Bool) (s : Decimal.Scientific) :
    shorten (scientificChars negative s) = (if negative then '-' else '+') :: shownChars s := by
  obtain ⟨d, ds, hds⟩ :=
    List.exists_cons_of_ne_nil (natChars_ne_nil (s.digits / Nat.pow 10 fractionDigits))
  have hdigit : ∀ c ∈ d :: ds, c.isDigit = true := fun c hc => isDigit_of_mem_natChars (hds ▸ hc)
  have hminus : d ≠ '-' := by
    rintro rfl
    exact absurd (hdigit '-' (by simp)) (by decide)
  have hplain : ∀ c ∈ (if negative then ['-'] else []) ++ d :: ds ++ '.' ::
      paddedChars fractionDigits (s.digits % Nat.pow 10 fractionDigits), c ≠ 'e' := by
    rintro c hc rfl
    simp only [List.mem_append, List.mem_cons] at hc
    rcases hc with (hc | hc) | hc | hc
    · cases negative <;> simp at hc
    · exact absurd (hdigit 'e' (by simpa using hc)) (by decide)
    · simp at hc
    · exact absurd (isDigit_of_mem_paddedChars hc) (by decide)
  rw [scientificChars, hds, shorten_append hplain, shortExponent_eq, shownChars, hds]
  cases negative <;> simp [hminus]

/-- The bits of a double without its sign. -/
def magnitude (bits : Nat) : Nat :=
  bits % Nat.pow 2 63

/-- The sign of a double. -/
def signChar (bits : Nat) : Char :=
  if bits < Nat.pow 2 63 then '+' else '-'

lemma signChar_eq (bits : Nat) : signChar bits = '+' ∨ signChar bits = '-' := by
  rw [signChar]
  split <;> simp

/-- A double is shown by its digits and its exponent, with a sign. -/
lemma floatChars_eq (bits : Nat) :
    floatChars bits =
      if Decimal.infinityBits < magnitude bits then "NaN".toList
      else if magnitude bits == Decimal.infinityBits then signChar bits :: "inf".toList
      else signChar bits :: shownChars (.ofBits fractionDigits (magnitude bits)) := by
  have hsign : (if decide (Nat.pow 2 63 ≤ bits) = true then '-' else '+') = signChar bits := by
    rw [signChar]
    simp only [decide_eq_true_eq, ← Nat.not_lt, ite_not]
  rw [floatChars, shorten_scientificChars, hsign, magnitude]

/-- The exponent of a double is read. -/
lemma exponent?_intChars (i : Int) : ∃ x, exponent? ('e' :: intChars i) = some x := by
  cases i with
  | ofNat n =>
      have hsign := splitSign_natChars_append n []
      rw [List.append_nil] at hsign
      simp [exponent?, intChars, hsign, isDigits_natChars]
  | negSucc n => simp [exponent?, intChars, splitSign, isDigits_natChars]

/-- Digits, a point, digits and an exponent are read as an unsigned decimal. -/
lemma decimal?_append {whole fraction : List Char} (hne : whole ≠ [])
    (hwhole : ∀ c ∈ whole, c.isDigit = true) (hfraction : ∀ c ∈ fraction, c.isDigit = true)
    (i : Int) : ∃ d, decimal? (whole ++ '.' :: (fraction ++ 'e' :: intChars i)) = some d := by
  obtain ⟨x, hx⟩ := exponent?_intChars i
  have hpoint : Char.isDigit '.' = false := by decide
  have he : Char.isDigit 'e' = false := by decide
  simp [decimal?, List.takeWhile_append_of_pos hwhole, List.dropWhile_append_of_pos hwhole,
    List.takeWhile_append_of_pos hfraction, List.dropWhile_append_of_pos hfraction, hpoint, he, hne,
    hx]

lemma decimal?_shownChars (s : Decimal.Scientific) : ∃ d, decimal? (shownChars s) = some d := by
  rw [shownChars, List.append_assoc, List.cons_append]
  exact decimal?_append (natChars_ne_nil _) (fun c hc => isDigit_of_mem_natChars hc)
    (fun c hc => isDigit_of_mem_paddedChars hc) s.exponent

lemma isDigits_shownChars (s : Decimal.Scientific) : isDigits (shownChars s) = false := by
  have hpoint : Char.isDigit '.' = false := by decide
  simp [isDigits, shownChars, hpoint]

/-- Where digits and exponent follow a sign, a double is read. -/
lemma ofChars?_signed {sign : Char} (hsign : sign = '+' ∨ sign = '-') (s : Decimal.Scientific) :
    ∃ x, ofChars? (sign :: shownChars s) = some (.float x) := by
  obtain ⟨d, hd⟩ := decimal?_shownChars s
  rw [ofChars?_eq]
  rcases hsign with rfl | rfl <;>
    simp [spelled?, integer?, spelledDouble?, splitSign, isDigits_shownChars, hd]

/-- The text of a double spells a double. -/
lemma ofChars?_floatChars (bits : Nat) : ∃ x, ofChars? (floatChars bits) = some (.float x) := by
  rw [floatChars_eq]
  split
  · exact ⟨_, rfl⟩
  · split
    · rcases signChar_eq bits with hsign | hsign <;> rw [hsign] <;> exact ⟨_, rfl⟩
    · exact ofChars?_signed (signChar_eq bits) _

end Number

/-! ### Words -/

namespace Token

/-- Characters that make up an identifier or a number: none of them ends it, and the first one opens
no string. -/
def IsWord (cs : List Char) : Prop :=
  cs ≠ [] ∧ cs.head? ≠ some '"' ∧ ∀ c ∈ cs, isPlain c = true

instance (cs : List Char) : Decidable (IsWord cs) :=
  decidable_of_iff (cs ≠ [] ∧ cs.head? ≠ some '"' ∧ cs.all isPlain = true) (by
    rw [IsWord, List.all_eq_true])

lemma isPlain_of_isDigit {c : Char} (hc : c.isDigit = true) : isPlain c = true := by
  simp only [Char.isDigit, Bool.and_eq_true, decide_eq_true_eq, ge_iff_le, UInt32.le_iff_toNat_le]
    at hc
  have hlo : 48 ≤ c.toNat := hc.1
  have hhi : c.toNat ≤ 57 := hc.2
  have hopen : c ≠ '(' := by rintro rfl; exact absurd hlo (by decide)
  have hclose : c ≠ ')' := by rintro rfl; exact absurd hlo (by decide)
  simp only [isPlain, Text.isBlank, beq_eq_false_iff_ne.mpr hopen, beq_eq_false_iff_ne.mpr hclose,
    Bool.not_eq_true', Bool.or_false, Bool.or_eq_false_iff, Bool.and_eq_false_iff,
    decide_eq_false_iff_not, beq_eq_false_iff_ne]
  omega

lemma isWord_cons_of_isDigit {c : Char} {cs : List Char} (hc : c = '+' ∨ c = '-' ∨ c.isDigit = true)
    (hcs : ∀ d ∈ cs, d = '.' ∨ d = 'e' ∨ d = '-' ∨ d.isDigit = true) : IsWord (c :: cs) := by
  have hquote : Char.isDigit '"' = false := by decide
  refine ⟨List.cons_ne_nil _ _, ?_, fun d hd => ?_⟩
  · rw [List.head?_cons, ne_eq, Option.some.injEq]
    rintro rfl
    simp [hquote] at hc
  · rcases List.mem_cons.mp hd with rfl | hd
    · rcases hc with rfl | rfl | hc
      · decide
      · decide
      · exact isPlain_of_isDigit hc
    · rcases hcs d hd with rfl | rfl | rfl | hd
      · decide
      · decide
      · decide
      · exact isPlain_of_isDigit hd

lemma mem_intChars {i : Int} {c : Char} (hc : c ∈ Number.intChars i) :
    c = '-' ∨ c.isDigit = true := by
  cases i with
  | ofNat n => exact .inr (Number.isDigit_of_mem_natChars hc)
  | negSucc n =>
      rcases List.mem_cons.mp hc with rfl | hc
      · exact .inl rfl
      · exact .inr (Number.isDigit_of_mem_natChars hc)

lemma isWord_intChars (i : Int) : IsWord (Number.intChars i) := by
  cases i with
  | ofNat n =>
      obtain ⟨c, cs, hcs⟩ := List.exists_cons_of_ne_nil (Number.natChars_ne_nil n)
      have hdigit : ∀ d ∈ c :: cs, d.isDigit = true := fun d hd =>
        Number.isDigit_of_mem_natChars (n := n) (hcs ▸ hd)
      rw [Number.intChars, hcs]
      exact isWord_cons_of_isDigit (.inr (.inr (hdigit c (by simp)))) fun d hd =>
        .inr (.inr (.inr (hdigit d (by simp [hd]))))
  | negSucc n =>
      exact isWord_cons_of_isDigit (.inr (.inl rfl)) fun d hd =>
        .inr (.inr (.inr (Number.isDigit_of_mem_natChars hd)))

lemma isWord_floatChars (bits : Nat) : IsWord (Number.floatChars bits) := by
  rw [Number.floatChars_eq]
  have hsign := Number.signChar_eq bits
  have hwords :
      IsWord "NaN".toList ∧ IsWord ('+' :: "inf".toList) ∧ IsWord ('-' :: "inf".toList) := by
    decide
  split
  · exact hwords.1
  · split
    · rcases hsign with hsign | hsign <;> rw [hsign]
      · exact hwords.2.1
      · exact hwords.2.2
    · refine isWord_cons_of_isDigit (hsign.imp_right .inl) fun d hd => ?_
      simp only [Number.shownChars, List.mem_append, List.mem_cons] at hd
      rcases hd with (hd | rfl | hd) | rfl | hd
      · exact .inr (.inr (.inr (Number.isDigit_of_mem_natChars hd)))
      · exact .inl rfl
      · exact .inr (.inr (.inr (Number.isDigit_of_mem_paddedChars hd)))
      · exact .inr (.inl rfl)
      · exact .inr (.inr (mem_intChars hd))

/-- The text of a number is a word. -/
lemma isWord_render (n : Number) : IsWord n.render.toList := by
  cases n with
  | int v =>
      rw [Number.render, String.toList_ofList]
      exact isWord_intChars v.toInt
  | float x =>
      rw [Number.render, String.toList_ofList]
      exact isWord_floatChars x.toBits.toNat

end Token

end PocketScheme
