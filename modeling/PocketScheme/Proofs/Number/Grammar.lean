import PocketScheme.Proofs.Number.Reading
import PocketScheme.Proofs.Decimal.Nearest

/-!
The texts that spell numbers.

* `Number.Digits`, `Number.Mantissa`, `Number.Exponent`, `Number.EitherCase`: parts of such texts;
* `Number.Spells`: the texts as a whole;
* `Number.SpellsInteger`: those of integers, with their values;
* `Number.exists_decimal?_iff`, `Number.isWord_iff`: the readers of the parts accept these and no
  others;
* `Number.looksLikeFloat_of_spells`, `Number.ofChars?_eq`: no text that spells a number is turned
  away before it is read, so reading goes by the parts;
* `Number.reads_exactly`: which texts are read, and which of them as integers;
* `Number.reads_nearest`: decimals are read as the doubles nearest to them.
-/

namespace PocketScheme.Number

/-! ### Parts of a number -/

/-- How a sign is written. -/
def Sign.chars : Sign → List Char
  | none => []
  | plus => ['+']
  | minus => ['-']

/-- The number with a sign in front of it. -/
def Sign.apply (s : Sign) (n : Nat) : Int :=
  if s = minus then -n else n

/-- One or more decimal digits. -/
structure Digits (cs : List Char) : Prop where
  nonempty : cs ≠ []
  isDigit : ∀ c ∈ cs, c.isDigit = true

/-- The natural that digits spell: the last one counts once, the one before it ten times, and so
on. -/
def worth (cs : List Char) : Nat :=
  Nat.ofDigits 10 (cs.reverse.map fun c => c.toNat - '0'.toNat)

/-- Digits, with a point between, before or behind them or without one. -/
inductive Mantissa : List Char → Prop
  | whole {ds : List Char} (hds : Digits ds) : Mantissa ds
  | pointed {ds fs : List Char} (h : Digits (ds ++ fs)) : Mantissa (ds ++ '.' :: fs)

/-- Nothing, or the letter `e`, an optional sign and digits. -/
inductive Exponent : List Char → Prop
  | none : Exponent []
  | marked {mark : Char} (hmark : mark = 'e' ∨ mark = 'E') (s : Sign) {ds : List Char}
      (hds : Digits ds) :
      Exponent (mark :: (s.chars ++ ds))

/-- The word, each letter of it small or capital. -/
def EitherCase (word : String) (cs : List Char) : Prop :=
  List.Forall₂ (fun c l => c = l ∨ c = l.toUpper) cs word.toList

/-- The texts that spell numbers. -/
inductive Spells : List Char → Prop
  | integer (s : Sign) {ds : List Char} (hds : Digits ds) : Spells (s.chars ++ ds)
  | decimal (s : Sign) {m x : List Char} (hm : Mantissa m) (hx : Exponent x) :
      Spells (s.chars ++ (m ++ x))
  | infinity (s : Sign) {cs : List Char} (h : EitherCase "inf" cs ∨ EitherCase "infinity" cs) :
      Spells (s.chars ++ cs)
  | nan {cs : List Char} (h : EitherCase "nan" cs) : Spells cs

/-- The text spells an integer: an optional sign and digits. -/
inductive SpellsInteger : List Char → Int → Prop
  | mk (s : Sign) {ds : List Char} (hds : Digits ds) :
      SpellsInteger (s.chars ++ ds) (s.apply (worth ds))

/-! ### Signs -/

/-- The text does not start with a sign. -/
def Unsigned (cs : List Char) : Prop :=
  '+' ∉ cs.head? ∧ '-' ∉ cs.head?

lemma unsigned_cons {c : Char} (cs : List Char) (hplus : c ≠ '+') (hminus : c ≠ '-') :
    Unsigned (c :: cs) := by
  simp [Unsigned, hplus, hminus]

lemma unsigned_of_isDigit {c : Char} (cs : List Char) (hc : c.isDigit = true) :
    Unsigned (c :: cs) := by
  refine unsigned_cons cs ?_ ?_
  · rintro rfl
    exact absurd hc (by decide)
  · rintro rfl
    exact absurd hc (by decide)

lemma Digits.unsigned_append {ds : List Char} (h : Digits ds) (cs : List Char) :
    Unsigned (ds ++ cs) := by
  obtain ⟨d, ds, rfl⟩ := List.exists_cons_of_ne_nil h.nonempty
  exact unsigned_of_isDigit _ (h.isDigit d (by simp))

lemma Digits.unsigned {ds : List Char} (h : Digits ds) : Unsigned ds := by
  simpa using h.unsigned_append []

lemma Mantissa.unsigned {m : List Char} (h : Mantissa m) (cs : List Char) : Unsigned (m ++ cs) := by
  cases h with
  | whole hds => exact hds.unsigned_append cs
  | @pointed ds fs h =>
      cases ds with
      | nil => exact unsigned_cons _ (by decide) (by decide)
      | cons d ds => exact unsigned_of_isDigit _ (h.isDigit d (by simp))

lemma splitSign_append (s : Sign) {cs : List Char} (h : Unsigned cs) :
    splitSign (s.chars ++ cs) = (s, cs) := by
  cases s with
  | none =>
      rw [Sign.chars, List.nil_append, splitSign]
      · rintro ds rfl
        exact h.1 rfl
      · rintro ds rfl
        exact h.2 rfl
  | plus => rfl
  | minus => rfl

lemma chars_splitSign (cs : List Char) : (splitSign cs).1.chars ++ (splitSign cs).2 = cs := by
  fun_cases splitSign cs <;> rfl

/-! ### Digits -/

lemma isDigits_iff {cs : List Char} : isDigits cs = true ↔ Digits cs := by
  rw [isDigits, Bool.and_eq_true, Bool.not_eq_true', List.isEmpty_eq_false_iff, List.all_eq_true]
  exact ⟨fun h => ⟨h.1, h.2⟩, fun h => ⟨h.nonempty, h.isDigit⟩⟩

/-- Reading digits from the left gives what they spell. -/
lemma digitsValue_eq (cs : List Char) : digitsValue cs = worth cs := by
  induction cs using List.reverseRecOn with
  | nil => rfl
  | append_singleton cs c ih =>
      rw [worth, List.reverse_append, List.reverse_singleton, List.singleton_append, List.map_cons,
        Nat.ofDigits_cons, ← worth, ← ih, digitsValue, List.foldl_append, ← digitsValue]
      simp only [List.foldl_cons, List.foldl_nil]
      omega

/-! ### Decimals -/

lemma exists_exponent?_iff {cs : List Char} : (∃ e, exponent? cs = some e) ↔ Exponent cs := by
  constructor
  · rintro ⟨e, h⟩
    cases cs with
    | nil => exact .none
    | cons c cs =>
        rw [exponent?] at h
        split at h
        · rename_i hmark
          dsimp only at h
          split at h
          · rename_i hds
            rw [← chars_splitSign cs]
            exact .marked (by simpa using hmark) _ (isDigits_iff.mp hds)
          · cases h
        · cases h
  · intro h
    cases h with
    | none => exact ⟨0, rfl⟩
    | marked hmark s hds =>
        have hsplit := splitSign_append s hds.unsigned
        rw [exponent?, if_pos (by simpa using hmark), hsplit]
        dsimp only
        rw [if_pos (isDigits_iff.mpr hds)]
        exact ⟨_, rfl⟩

/-- An exponent does not go on the digits in front of it. -/
lemma Exponent.head {cs : List Char} (h : Exponent cs) :
    ∀ c ∈ cs.head?, c.isDigit = false ∧ c ≠ '.' := by
  cases h with
  | none => simp
  | marked hmark s hds =>
      rintro c hc
      obtain rfl := Option.some.inj hc
      rcases hmark with rfl | rfl <;> decide

/-- Characters up to the first one that is no digit. -/
lemma takeWhile_isDigit {ds cs : List Char} (hds : ∀ d ∈ ds, d.isDigit = true)
    (hcs : ∀ c ∈ cs.head?, c.isDigit = false) :
    (ds ++ cs).takeWhile Char.isDigit = ds ∧ (ds ++ cs).dropWhile Char.isDigit = cs := by
  rw [List.takeWhile_append_of_pos hds, List.dropWhile_append_of_pos hds]
  cases cs with
  | nil => simp
  | cons c cs => simp [hcs c rfl]

/-- Digits with or without a point and an exponent are what is read as an unsigned decimal. -/
lemma exists_decimal?_iff {cs : List Char} :
    (∃ d, decimal? cs = some d) ↔ ∃ m x, cs = m ++ x ∧ Mantissa m ∧ Exponent x := by
  constructor
  · rintro ⟨d, h⟩
    have hcs := List.takeWhile_append_dropWhile (p := Char.isDigit) (l := cs)
    have hwhole : ∀ c ∈ cs.takeWhile Char.isDigit, c.isDigit = true :=
      fun c => List.mem_takeWhile_imp
    rw [decimal?] at h
    generalize cs.takeWhile Char.isDigit = whole at hcs hwhole h
    generalize cs.dropWhile Char.isDigit = rest at hcs h
    -- the rest starts with a point, or it is an exponent
    dsimp only at h
    split at h
    · rename_i ds
      obtain ⟨hsome, hmap⟩ := Option.ite_none_left_eq_some.mp h
      obtain ⟨e, he, -⟩ := Option.map_eq_some_iff.mp hmap
      refine ⟨whole ++ '.' :: ds.takeWhile Char.isDigit, ds.dropWhile Char.isDigit, ?_,
        .pointed ⟨by simpa using hsome, ?_⟩, exists_exponent?_iff.mp ⟨e, he⟩⟩
      · rw [← hcs, List.append_assoc, List.cons_append, List.takeWhile_append_dropWhile]
      · exact List.forall_mem_append.mpr ⟨hwhole, fun c => List.mem_takeWhile_imp⟩
    · obtain ⟨hsome, hmap⟩ := Option.ite_none_left_eq_some.mp h
      obtain ⟨e, he, -⟩ := Option.map_eq_some_iff.mp hmap
      exact ⟨whole, rest, hcs.symm, .whole ⟨by simpa using hsome, hwhole⟩,
        exists_exponent?_iff.mp ⟨e, he⟩⟩
  · rintro ⟨m, x, rfl, hm, hx⟩
    obtain ⟨e, he⟩ := exists_exponent?_iff.mpr hx
    have hhead := fun c hc => (hx.head c hc).1
    cases hm with
    | whole hds =>
        obtain ⟨htake, hdrop⟩ := takeWhile_isDigit hds.isDigit hhead
        rw [decimal?, htake, hdrop]
        dsimp only
        split
        · exact absurd rfl (hx.head '.' rfl).2
        · exact ⟨_, Option.ite_none_left_eq_some.mpr ⟨by simp [hds.nonempty], by rw [he]; rfl⟩⟩
    | @pointed ds fs h =>
        obtain ⟨hds, hfs⟩ := List.forall_mem_append.mp h.isDigit
        have hpoint : ∀ c ∈ ('.' :: (fs ++ x)).head?, c.isDigit = false := by simp
        obtain ⟨htake, hdrop⟩ := takeWhile_isDigit hds hpoint
        obtain ⟨htake', hdrop'⟩ := takeWhile_isDigit hfs hhead
        rw [List.append_assoc, List.cons_append, decimal?, htake, hdrop]
        dsimp only
        split
        · rename_i heq
          obtain rfl := (List.cons.inj heq).2
          rw [htake', hdrop']
          exact ⟨_, Option.ite_none_left_eq_some.mpr ⟨by simpa using h.nonempty, by rw [he]; rfl⟩⟩
        · rename_i hno
          exact absurd rfl (hno _)

/-! ### Words -/

/-- A letter is small or capital if it is the small one once it is made small. -/
lemma toLower_eq_iff {c l : Char} (hl : l.isLower = true) :
    c.toLower = l ↔ c = l ∨ c = l.toUpper := by
  obtain ⟨hlo, hhi⟩ : 'a'.val ≤ l.val ∧ l.val ≤ 'z'.val := by simpa [Char.isLower] using hl
  rw [Char.toUpper, dif_pos ⟨hlo, hhi⟩, Char.toLower]
  have hlo : 97 ≤ l.val.toNat := hlo
  have hhi : l.val.toNat ≤ 122 := hhi
  have hup : ('A'.val - 'a'.val).toNat = 4294967264 := by decide
  have hdown : ('a'.val - 'A'.val).toNat = 32 := by decide
  split
  · rename_i hcapital
    have hcapital : 65 ≤ c.val.toNat ∧ c.val.toNat ≤ 90 := hcapital
    rw [Char.ext_iff, Char.ext_iff, Char.ext_iff, ← UInt32.toNat_inj, ← UInt32.toNat_inj,
      ← UInt32.toNat_inj, UInt32.toNat_add, UInt32.toNat_add]
    omega
  · rename_i hcapital
    have hcapital : ¬ (65 ≤ c.val.toNat ∧ c.val.toNat ≤ 90) := hcapital
    rw [Char.ext_iff, Char.ext_iff, ← UInt32.toNat_inj, ← UInt32.toNat_inj, UInt32.toNat_add]
    omega

lemma isWord_iff {word : String} (hword : word.toList.all Char.isLower = true) {cs : List Char} :
    isWord word cs = true ↔ EitherCase word cs := by
  rw [List.all_eq_true] at hword
  rw [isWord, beq_iff_eq, EitherCase]
  generalize word.toList = ls at hword ⊢
  induction cs generalizing ls with
  | nil => rw [List.map_nil, List.forall₂_nil_left_iff, eq_comm]
  | cons c cs ih =>
      cases ls with
      | nil => rw [List.map_cons, List.forall₂_nil_right_iff]; simp
      | cons l ls =>
          obtain ⟨hl, hls⟩ := List.forall_mem_cons.mp hword
          rw [List.map_cons, List.cons.injEq, List.forall₂_cons, toLower_eq_iff hl, ih ls hls]

/-- A word does not start with a sign. -/
lemma EitherCase.unsigned {word : String} {cs : List Char} (h : EitherCase word cs)
    (hword : word.toList.all Char.isLower = true) : Unsigned cs := by
  rw [List.all_eq_true] at hword
  rw [EitherCase] at h
  generalize word.toList = ls at hword h
  cases h with
  | nil => simp [Unsigned]
  | @cons c l cs ls hc _ =>
      have hl := hword l (by simp)
      have hlower : c.toLower = l := (toLower_eq_iff hl).mpr hc
      refine unsigned_cons cs ?_ ?_
      · rintro rfl
        exact absurd (hlower ▸ hl) (by decide)
      · rintro rfl
        exact absurd (hlower ▸ hl) (by decide)

/-! ### Numbers -/

/-- What the reader takes: behind a sign, a decimal or a word for infinity, and by itself the word
for what is no number. -/
def Readable (cs : List Char) : Prop :=
  (∃ d, decimal? (splitSign cs).2 = some d) ∨ isWord "inf" (splitSign cs).2 = true ∨
    isWord "infinity" (splitSign cs).2 = true ∨ isWord "nan" cs = true

lemma spells_iff {cs : List Char} : Spells cs ↔ Readable cs := by
  constructor
  · intro h
    cases h with
    | integer s hds =>
        have hsplit := splitSign_append s hds.unsigned
        rw [Readable, hsplit]
        exact .inl (exists_decimal?_iff.mpr ⟨_, [], (List.append_nil _).symm, .whole hds, .none⟩)
    | decimal s hm hx =>
        rw [Readable, splitSign_append s (hm.unsigned _)]
        exact .inl (exists_decimal?_iff.mpr ⟨_, _, rfl, hm, hx⟩)
    | infinity s h =>
        rcases h with h | h
        · rw [Readable, splitSign_append s (h.unsigned (by decide))]
          exact .inr (.inl ((isWord_iff (by decide)).mpr h))
        · rw [Readable, splitSign_append s (h.unsigned (by decide))]
          exact .inr (.inr (.inl ((isWord_iff (by decide)).mpr h)))
    | nan h => exact .inr (.inr (.inr ((isWord_iff (by decide)).mpr h)))
  · have hcs := chars_splitSign cs
    rintro (h | h | h | h)
    · obtain ⟨m, x, hbody, hm, hx⟩ := exists_decimal?_iff.mp h
      rw [hbody] at hcs
      exact hcs ▸ .decimal _ hm hx
    · exact hcs ▸ .infinity _ (.inl ((isWord_iff (by decide)).mp h))
    · exact hcs ▸ .infinity _ (.inr ((isWord_iff (by decide)).mp h))
    · exact .nan ((isWord_iff (by decide)).mp h)

lemma spellsInteger_iff {cs : List Char} {i : Int} :
    SpellsInteger cs i ↔ isDigits (splitSign cs).2 = true ∧
      (splitSign cs).1.apply (digitsValue (splitSign cs).2) = i := by
  rw [isDigits_iff, digitsValue_eq]
  constructor
  · rintro ⟨s, hds⟩
    rw [splitSign_append s hds.unsigned]
    exact ⟨hds, rfl⟩
  · rintro ⟨hds, rfl⟩
    have h := SpellsInteger.mk (splitSign cs).1 hds
    rwa [chars_splitSign] at h

lemma SpellsInteger.spells {cs : List Char} {i : Int} (h : SpellsInteger cs i) : Spells cs := by
  obtain ⟨s, hds⟩ := h
  exact .integer s hds

/-! ### What looks like a double -/

/-- The characters of a decimal. -/
def OfDecimal (c : Char) : Prop :=
  c.isDigit = true ∨ c = '.' ∨ c = 'e' ∨ c = 'E' ∨ c = '+' ∨ c = '-'

lemma Mantissa.ofDecimal {m : List Char} (h : Mantissa m) : ∀ c ∈ m, OfDecimal c := by
  intro c hc
  cases h with
  | whole hds => exact .inl (hds.isDigit c hc)
  | pointed h =>
      rw [List.mem_append, List.mem_cons] at hc
      rcases hc with hc | rfl | hc
      · exact .inl (h.isDigit c (by simp [hc]))
      · exact .inr (.inl rfl)
      · exact .inl (h.isDigit c (by simp [hc]))

lemma Exponent.ofDecimal {x : List Char} (h : Exponent x) : ∀ c ∈ x, OfDecimal c := by
  intro c hc
  cases h with
  | none => simp at hc
  | marked hmark s hds =>
      rw [List.mem_cons, List.mem_append] at hc
      rcases hc with rfl | hc | hc
      · rcases hmark with rfl | rfl <;> simp [OfDecimal]
      · cases s <;> simp_all [Sign.chars, OfDecimal]
      · exact .inl (hds.isDigit c hc)

lemma toNat_lt_of_isDigit {c : Char} (h : c.isDigit = true) : c.toNat < 128 ∧ c ≠ '_' := by
  simp only [Char.isDigit, Bool.and_eq_true, decide_eq_true_eq, ge_iff_le,
    UInt32.le_iff_toNat_le] at h
  have hhi : c.toNat ≤ 57 := h.2
  refine ⟨by omega, ?_⟩
  rintro rfl
  exact absurd hhi (by decide)

lemma OfDecimal.toNat_lt {c : Char} (h : OfDecimal c) : c.toNat < 128 ∧ c ≠ '_' := by
  rcases h with h | rfl | rfl | rfl | rfl | rfl
  · exact toNat_lt_of_isDigit h
  all_goals decide

/-- The letter of an exponent is the only one in a decimal. -/
lemma OfDecimal.toLower_ne {c : Char} (h : OfDecimal c) : c.toLower ≠ 'x' := by
  rcases h with h | rfl | rfl | rfl | rfl | rfl
  · intro hx
    have hdigit := (of_isAlpha (isAlpha_of_toLower hx (by decide))).1
    exact absurd h (by simp [hdigit])
  all_goals decide

lemma byteLength_eq {cs : List Char} (h : ∀ c ∈ cs, c.toNat < 128) : byteLength cs = cs.length := by
  have hsize : ∀ n, cs.foldl (fun n c => n + c.utf8Size) n = n + cs.length := by
    induction cs with
    | nil => simp
    | cons c cs ih =>
        intro n
        have hc : c.utf8Size = 1 :=
          Char.utf8Size_eq_one_iff.mpr
            (UInt32.le_iff_toNat_le.mpr (Nat.le_of_lt_succ (h c (by simp))))
        rw [List.foldl_cons, ih (fun d hd => h d (by simp [hd])), hc, List.length_cons]
        omega
  rw [byteLength, hsize, Nat.zero_add]

lemma lowerChar_toNat_lt {c : Char} (h : c.toNat < 128) : (Text.lowerChar c).toNat < 128 := by
  rw [Text.lowerChar_of_lt h]
  by_cases hupper : c.isUpper = true
  · have hrange : 65 ≤ c.toNat ∧ c.toNat ≤ 90 := by
      simp only [Char.isUpper, decide_eq_true_eq, ge_iff_le, UInt32.le_iff_toNat_le] at hupper
      exact hupper
    rw [Char.toLower_eq_of_isUpper hupper, Char.toNat_ofNat]
    split <;> omega
  · rw [Char.toLower_eq_of_not_isUpper hupper]
    exact h

lemma dropWhile_sign (s : Sign) {cs : List Char} (h : Unsigned cs) :
    (s.chars ++ cs).dropWhile (fun c => c == '+' || c == '-') = cs := by
  have hcs : cs.dropWhile (fun c => c == '+' || c == '-') = cs := by
    cases cs with
    | nil => rfl
    | cons c cs =>
        have hc : c ≠ '+' ∧ c ≠ '-' := by simpa [Unsigned] using h
        simp [hc]
  cases s <;> simp [Sign.chars, hcs]

/-- One-byte characters behind at most one sign look like a double, unless a base is in front. -/
lemma looksLikeFloat_append (s : Sign) {cs : List Char} (hne : cs ≠ []) (hunsigned : Unsigned cs)
    (hcs : ∀ c ∈ cs, c.toNat < 128 ∧ c ≠ '_')
    (hbase : cs.map Text.lowerChar = "inf".toList ∨ cs.map Text.lowerChar = "infinity".toList ∨
      cs.map Text.lowerChar = "nan".toList ∨ ¬ "0x".toList <+: cs.map Text.lowerChar) :
    looksLikeFloat (s.chars ++ cs) = true := by
  have hs : ∀ c ∈ s.chars, c.toNat < 128 ∧ c ≠ '_' := by cases s <;> simp [Sign.chars]
  have hall := List.forall_mem_append.mpr ⟨hs, hcs⟩
  have hbytes := byteLength_eq fun c hc => (hall c hc).1
  have hbytes' : byteLength (cs.map Text.lowerChar) = cs.length := by
    rw [byteLength_eq, List.length_map]
    intro c hc
    obtain ⟨d, hd, rfl⟩ := List.mem_map.mp hc
    exact lowerChar_toNat_lt (hcs d hd).1
  have hsign : s.chars.length ≤ 1 := by cases s <;> simp [Sign.chars]
  have hfilled : (s.chars ++ cs).isEmpty = false := by simp [hne]
  have hunder : (s.chars ++ cs).contains '_' = false := by
    rw [← Bool.not_eq_true, List.contains_iff_mem]
    exact fun h => (hall _ h).2 rfl
  have hlength : (s.chars ++ cs).length ≤ cs.length + 1 := by
    rw [List.length_append]
    omega
  rw [looksLikeFloat, dropWhile_sign s hunsigned, hbytes, hbytes', hfilled, hunder,
    decide_eq_true hlength]
  simp only [Bool.not_false, Bool.true_and, Bool.or_eq_true, beq_iff_eq, Bool.not_eq_true',
    ← Bool.not_eq_true, List.isPrefixOf_iff_prefix]
  tauto

lemma EitherCase.map_lowerChar {word : String} (hword : word.toList.all Char.isLower = true)
    {cs : List Char} (h : EitherCase word cs) :
    cs.map Text.lowerChar = word.toList ∧ ∀ c ∈ cs, c.toNat < 128 ∧ c ≠ '_' := by
  have hlower : cs.map Char.toLower = word.toList := by
    simpa [isWord] using (isWord_iff hword).mpr h
  have hcs : ∀ c ∈ cs, c.toNat < 128 ∧ c ≠ '_' := by
    intro c hc
    have hmem : c.toLower ∈ word.toList := by
      rw [← hlower]
      exact List.mem_map_of_mem hc
    obtain ⟨-, -, -, -, hunder, hlt⟩ :=
      of_isAlpha (isAlpha_of_toLower rfl (List.all_eq_true.mp hword _ hmem))
    exact ⟨hlt, hunder⟩
  refine ⟨?_, hcs⟩
  rw [← hlower]
  exact List.map_congr_left fun c hc => Text.lowerChar_of_lt (hcs c hc).1

/-- A decimal looks like a double. -/
lemma looksLikeFloat_decimal (s : Sign) {m x : List Char} (hm : Mantissa m) (hx : Exponent x) :
    looksLikeFloat (s.chars ++ (m ++ x)) = true := by
  have hchars := List.forall_mem_append.mpr ⟨hm.ofDecimal, hx.ofDecimal⟩
  have hne : m ++ x ≠ [] := by
    cases hm with
    | whole hds => simp [hds.nonempty]
    | pointed h => simp
  refine looksLikeFloat_append s hne (hm.unsigned x) (fun c hc => (hchars c hc).toNat_lt)
    (.inr (.inr (.inr fun hbase => ?_)))
  obtain ⟨c, hc, hx⟩ := List.mem_map.mp (hbase.subset (by decide : 'x' ∈ "0x".toList))
  rw [Text.lowerChar_of_lt (hchars c hc).toNat_lt.1] at hx
  exact (hchars c hc).toLower_ne hx

/-- Every text that spells a number looks like a double. -/
lemma looksLikeFloat_of_spells {cs : List Char} (h : Spells cs) : looksLikeFloat cs = true := by
  cases h with
  | integer s hds => simpa using looksLikeFloat_decimal s (.whole hds) .none
  | decimal s hm hx => exact looksLikeFloat_decimal s hm hx
  | @infinity s cs h =>
      rcases h with h | h
      · obtain ⟨hword, hcs⟩ := h.map_lowerChar (by decide)
        have hne : cs ≠ [] := by
          rintro rfl
          exact absurd hword (by decide)
        exact looksLikeFloat_append s hne (h.unsigned (by decide)) hcs (.inl hword)
      · obtain ⟨hword, hcs⟩ := h.map_lowerChar (by decide)
        have hne : cs ≠ [] := by
          rintro rfl
          exact absurd hword (by decide)
        exact looksLikeFloat_append s hne (h.unsigned (by decide)) hcs (.inr (.inl hword))
  | nan h =>
      obtain ⟨hword, hcs⟩ := h.map_lowerChar (by decide)
      have hne : cs ≠ [] := by
        rintro rfl
        exact absurd hword (by decide)
      exact looksLikeFloat_append .none hne (h.unsigned (by decide)) hcs (.inr (.inr (.inl hword)))

/-! ### What is read -/

/-- A double is spelled by every text that spells a number. -/
lemma exists_spelledDouble?_iff {cs : List Char} :
    (∃ x, spelledDouble? cs = some x) ↔ Spells cs := by
  rw [spells_iff, Readable, spelledDouble?]
  dsimp only
  cases decimal? (splitSign cs).2 with
  | some d => simp
  | none =>
      cases isWord "inf" (splitSign cs).2 <;> cases isWord "infinity" (splitSign cs).2 <;>
        cases isWord "nan" cs <;> simp

/-- Reading goes by the parts of a text. -/
lemma ofChars?_eq (cs : List Char) : ofChars? cs = spelled? cs := by
  have hinteger : (if isDecimalInteger cs then integer? cs else none) = integer? cs := by
    split
    · rfl
    · rename_i h
      rw [integer?_of_not_isDecimalInteger (Bool.eq_false_iff.mpr h)]
  rw [ofChars?, spelled?, hinteger, double?_eq]
  cases integer? cs with
  | some v => rfl
  | none =>
      dsimp only
      split
      · rfl
      · rename_i hlooks
        cases hdouble : spelledDouble? cs with
        | none => rfl
        | some x =>
            exact absurd (looksLikeFloat_of_spells (exists_spelledDouble?_iff.mp ⟨x, hdouble⟩))
              hlooks

lemma toInt_ofInt_of_fits {i : Int} (h : fits i = true) : (Int64.ofInt i).toInt = i := by
  rw [fits, Bool.and_eq_true, decide_eq_true_eq, decide_eq_true_eq] at h
  exact Int64.toInt_ofInt_of_le h.1 h.2

/-- The integers that are read are those that fit. -/
lemma integer?_eq_some_iff {cs : List Char} {v : Int64} :
    integer? cs = some v ↔ SpellsInteger cs v.toInt := by
  have hvalue : (if ((splitSign cs).1 == Sign.minus) = true
        then -(digitsValue (splitSign cs).2 : Int)
      else digitsValue (splitSign cs).2) =
        (splitSign cs).1.apply (digitsValue (splitSign cs).2) := by
    simp [Sign.apply]
  rw [integer?, spellsInteger_iff]
  dsimp only
  rw [hvalue, Option.ite_none_right_eq_some, Bool.and_eq_true, Option.some.injEq]
  generalize (splitSign cs).1.apply (digitsValue (splitSign cs).2) = i
  constructor
  · rintro ⟨⟨hds, hfits⟩, rfl⟩
    exact ⟨hds, (toInt_ofInt_of_fits hfits).symm⟩
  · rintro ⟨hds, rfl⟩
    exact ⟨⟨hds, fits_toInt v⟩, v.ofInt_toInt⟩

/-- A text is read iff it spells a number: as an integer of 64 bits iff it spells that integer, and
as a double in all other cases. -/
theorem reads_exactly (s : String) :
    ((∃ n, ofString? s = some n) ↔ Spells s.toList) ∧
      (∀ v : Int64, ofString? s = some (.int v) ↔ SpellsInteger s.toList v.toInt) ∧
      ((∃ x, ofString? s = some (.float x)) ↔
        Spells s.toList ∧ ∀ v : Int64, ¬ SpellsInteger s.toList v.toInt) := by
  rw [ofString?, ofChars?_eq, spelled?]
  generalize s.toList = cs
  simp only [← integer?_eq_some_iff]
  -- an integer, or perhaps a double
  cases hint : integer? cs with
  | some v =>
      have hspells := (integer?_eq_some_iff.mp hint).spells
      simp [hspells]
  | none =>
      rw [← exists_spelledDouble?_iff]
      simp

/-- What is no integer that fits is read by its digits and its exponent. -/
lemma ofChars?_of_decimal? (s : Sign) {cs : List Char} {d : Numeral} (hunsigned : Unsigned cs)
    (hd : decimal? cs = some d) (hinteger : integer? (s.chars ++ cs) = none) :
    ofChars? (s.chars ++ cs) =
      some (.float (Decimal.signedDouble (s == .minus)
        (Decimal.decimalBits d.mantissa d.exponent))) := by
  have hsplit := splitSign_append s hunsigned
  rw [ofChars?_eq, spelled?, hinteger]
  simp only [spelledDouble?, hsplit, hd, Option.map_some]

/-- A decimal with digits before or behind its point is read as the double nearest to it. So is one
without a point, unless it is read as an integer. -/
theorem reads_nearest (s : Sign) {whole fraction rest : List Char} {e : Int}
    (hwhole : ∀ c ∈ whole, c.isDigit = true) (hfraction : ∀ c ∈ fraction, c.isDigit = true)
    (he : exponent? rest = some e) :
    (whole ++ fraction ≠ [] →
      ∃ bits, Decimal.IsNearest bits (worth (whole ++ fraction) * 10 ^ (e - fraction.length)) ∧
        ofChars? (s.chars ++ (whole ++ '.' :: (fraction ++ rest))) =
          some (.float (Decimal.signedDouble (s == .minus) bits))) ∧
      (whole ≠ [] →
        (∃ v, ofChars? (s.chars ++ (whole ++ rest)) = some (.int v)) ∨
        ∃ bits, Decimal.IsNearest bits (worth whole * 10 ^ e) ∧
          ofChars? (s.chars ++ (whole ++ rest)) =
            some (.float (Decimal.signedDouble (s == .minus) bits))) := by
  have hexponent := exists_exponent?_iff.mp ⟨e, he⟩
  have hhead := fun c hc => (hexponent.head c hc).1
  constructor
  · intro hne
    have hdigits : Digits (whole ++ fraction) :=
      ⟨hne, List.forall_mem_append.mpr ⟨hwhole, hfraction⟩⟩
    have hd : decimal? (whole ++ '.' :: (fraction ++ rest)) =
        some ⟨worth (whole ++ fraction), e - fraction.length⟩ := by
      rw [← numeral?_eq, numeral?, read_fraction hwhole hfraction hhead, ← digitsValue_eq]
      simp only [he, List.isEmpty_eq_false_iff.mpr hne]
      rfl
    have hunsigned : Unsigned (whole ++ '.' :: (fraction ++ rest)) := by
      simpa using (Mantissa.pointed hdigits).unsigned rest
    -- a point is no digit
    have hinteger : integer? (s.chars ++ (whole ++ '.' :: (fraction ++ rest))) = none := by
      refine integer?_of_not_isDecimalInteger ?_
      rw [isDecimalInteger_eq, splitSign_append s hunsigned]
      simp [isDigits]
    have hread := ofChars?_of_decimal? s hunsigned hd hinteger
    dsimp only at hread
    exact ⟨Decimal.decimalBits (worth (whole ++ fraction)) (e - fraction.length),
      Decimal.decimalBits_isNearest _ _, hread⟩
  · intro hne
    have hd : decimal? (whole ++ rest) = some ⟨worth whole, e⟩ := by
      have hpoint : '.' ∉ rest.head? := fun h => (hexponent.head '.' h).2 rfl
      rw [← numeral?_eq, numeral?, read_whole hwhole hhead hpoint, ← digitsValue_eq]
      simp [he, hne]
    have hunsigned := Digits.unsigned_append ⟨hne, hwhole⟩ rest
    cases hinteger : integer? (s.chars ++ (whole ++ rest)) with
    | some v => exact .inl ⟨v, by rw [ofChars?_eq, spelled?, hinteger]⟩
    | none =>
        have hread := ofChars?_of_decimal? s hunsigned hd hinteger
        dsimp only at hread
        exact .inr ⟨Decimal.decimalBits (worth whole) e, Decimal.decimalBits_isNearest _ _, hread⟩

end PocketScheme.Number
