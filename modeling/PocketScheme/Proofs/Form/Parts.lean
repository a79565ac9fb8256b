import PocketScheme.Proofs.Form.Printing

/-!
Texts that are read in parts. Where a line break stands outside all parentheses and strings, the
text can be cut there: both parts can be read, and give the forms of the whole.

* `IsWhole`: lexemes whose parentheses are all closed;
* `isWhole_or_isEnd`: what can be completed is complete, or stops inside a form;
* `Outside`: the end of a text stands outside all parentheses and strings;
* `KeepsStrings`: no string outside all parentheses has a line break;
* `cut_newline`: where a text that can be read is cut.
-/

namespace PocketScheme.Form

open Token

/-! ### Whole texts -/

/-- All parentheses are closed. -/
def IsWhole (ls : List Lexeme) : Prop :=
  IsBalanced (ls.map Lexeme.kind)

lemma kinds_scan (cs : List Char) : kinds (scan cs) = (lexemes cs).map Lexeme.kind := by
  simp [kinds, lexemes, Function.comp_def]

lemma map_symbol_scan (cs : List Char) :
    (scan cs).map symbol = (lexemes cs).map fun l => symbol ⟨l, .start⟩ := by
  simp [lexemes, Function.comp_def, symbol]

lemma balanced_scan_iff {cs : List Char} : Balanced (scan cs) ↔ IsWhole (lexemes cs) := by
  rw [balanced_iff_isBalanced, kinds_scan, IsWhole]

/-- A whole text is read as the forms that its lexemes spell. -/
lemma readAll_of_isWhole {cs : List Char} (h : IsWhole (lexemes cs)) :
    ∃ es, readAll cs = (es, none) ∧
      (lexemes cs).map (fun l => symbol ⟨l, .start⟩) = flattenList es := by
  obtain ⟨es, hes⟩ := (balanced_scan_iff.mpr h).exists_flattenList
  refine ⟨es, ?_, by rw [← map_symbol_scan, hes]⟩
  rw [readAll, readEach_flattenList hes, untilFault_map_ok]

/-- A text that is read without a fault is whole. -/
lemma isWhole_of_readAll {cs : List Char} (h : (readAll cs).2 = none) : IsWhole (lexemes cs) := by
  obtain ⟨bs, hbs⟩ := exists_factors (scan cs)
  have hforms := (fault_eq_none_iff (untilFault_blocks hbs.readEach).2).mp h
  exact balanced_scan_iff.mp (hbs.balanced_of_isForm hforms)

/-- The forms of a text in two whole parts. -/
lemma readAll_append {cs ds es : List Char} (hcs : IsWhole (lexemes cs))
    (hds : IsWhole (lexemes ds)) (h : lexemes es = lexemes cs ++ lexemes ds) :
    (readAll es).1 = (readAll cs).1 ++ (readAll ds).1 := by
  obtain ⟨fs, hfs, hcs⟩ := readAll_of_isWhole hcs
  obtain ⟨gs, hgs, hds⟩ := readAll_of_isWhole hds
  have hsymbols : (scan es).map symbol = flattenList (fs ++ gs) := by
    rw [map_symbol_scan, h, List.map_append, hcs, hds, flattenList_append]
  rw [readAll, readEach_flattenList hsymbols, untilFault_map_ok, hfs, hgs]

/-! ### Texts that stop too early -/

/-- Where no more close than open, the only thing that can be wrong is a parenthesis that is never
closed. -/
lemma Factors.unclosed_of_closes_le {ts : List Token} {bs : List Block} (h : Factors ts bs)
    (hts : ∀ p q, kinds ts = p ++ q → p.count .closeParen ≤ p.count .openParen) :
    ∀ b, bs.find? (fun b => !b.isForm) = some b → ∃ us, b = .unclosed us := by
  induction h with
  | nil => simp
  | form hform _ ih =>
      rw [kinds_append] at hts
      exact ih (closes_le_of_append hform.balanced.isBalanced hts)
  | @stray t us bs hc _ _ =>
      have hcount := hts [.closeParen] (kinds us) (by rw [kinds_closes hc]; rfl)
      simp at hcount
  | @unclosed o us _ _ =>
      intro b hb
      have hb : Block.unclosed (o :: us) = b := by simpa [Block.isForm] using hb
      exact ⟨o :: us, hb.symm⟩

/-- What some further lexemes may make whole is whole, or it stops inside a form. -/
lemma isWhole_or_isEnd {cs : List Char} {more : List Lexeme.Kind}
    (h : ∀ p q, (lexemes cs).map Lexeme.kind ++ more = p ++ q →
      p.count .closeParen ≤ p.count .openParen) :
    IsWhole (lexemes cs) ∨ ∃ fault, (readAll cs).2 = some fault ∧ fault.isEnd = true := by
  obtain ⟨bs, hbs⟩ := exists_factors (scan cs)
  have hfault := (untilFault_blocks hbs.readEach).2
  rw [← readAll] at hfault
  have hunclosed := hbs.unclosed_of_closes_le fun p q hpq => by
    rw [kinds_scan] at hpq
    exact h p (q ++ more) (by rw [hpq, List.append_assoc])
  rcases hread : (readAll cs).2 with _ | fault
  · exact .inl (isWhole_of_readAll hread)
  · rw [hread] at hfault
    generalize hb : bs.find? (fun b => !b.isForm) = found at hfault
    cases hfault with
    | @some b _ hyields =>
        obtain ⟨us, rfl⟩ := hunclosed b hb
        cases hyields
        exact .inr ⟨_, rfl, rfl⟩

/-! ### Where a text can be cut -/

/-- The end of the text stands outside all parentheses and strings: all parentheses are closed, and
whatever follows is scanned by itself. -/
def Outside (cs : List Char) : Prop :=
  IsWhole (lexemes cs) ∧ ∀ rest, lexemes (cs ++ rest) = lexemes cs ++ lexemes rest

lemma outside_nil : Outside [] := by
  refine ⟨?_, fun rest => ?_⟩
  · rw [IsWhole, lexemes_nil]
    exact .nil
  · rw [lexemes_nil, List.nil_append, List.nil_append]

lemma IsWhole.append {ks ls : List Lexeme} (hks : IsWhole ks) (hls : IsWhole ls) :
    IsWhole (ks ++ ls) := by
  rw [IsWhole, List.map_append]
  exact IsBalanced.append hks hls

lemma Outside.append {cs ds : List Char} (hcs : Outside cs) (hds : Outside ds) :
    Outside (cs ++ ds) := by
  refine ⟨?_, fun rest => ?_⟩
  · rw [hcs.2]
    exact hcs.1.append hds.1
  · rw [List.append_assoc, hcs.2, hds.2, hcs.2, List.append_assoc]

/-- No string outside all parentheses has a line break. -/
def KeepsStrings (cs : List Char) : Prop :=
  ∀ front v back, lexemes cs = front ++ .string v :: back → IsWhole front → '\n' ∉ v.toList

/-- A text that can be read is cut at any line break where the text in front of it does not stop too
early. -/
lemma cut_newline {cs ds : List Char} (hwhole : IsWhole (lexemes (cs ++ '\n' :: ds)))
    (hstrings : KeepsStrings (cs ++ '\n' :: ds))
    (hend : ∀ fault, (readAll cs).2 = some fault → fault.isEnd = false) :
    Outside (cs ++ ['\n']) ∧ IsWhole (lexemes cs) ∧ IsWhole (lexemes ds) ∧
      lexemes (cs ++ '\n' :: ds) = lexemes cs ++ lexemes ds := by
  have hcases : ∀ more, (∀ p q, (lexemes cs).map Lexeme.kind ++ more = p ++ q →
      p.count .closeParen ≤ p.count .openParen) → IsWhole (lexemes cs) := by
    intro more hmore
    refine (isWhole_or_isEnd hmore).resolve_right ?_
    rintro ⟨fault, hfault, hisEnd⟩
    rw [hend fault hfault] at hisEnd
    exact Bool.false_ne_true hisEnd
  rcases (lexes_iff.mpr (Eq.refl (lexemes cs))).breaks with hcut | ⟨front, v, hlexemes, hcut⟩
  · have hsplit : ∀ rest, lexemes (cs ++ '\n' :: rest) = lexemes cs ++ lexemes rest := fun rest =>
      (lexes_iff.mp (hcut rest _ (lexes_iff.mpr rfl))).symm
    rw [hsplit, IsWhole, List.map_append] at hwhole
    have hcs : IsWhole (lexemes cs) := hcases _ hwhole.2
    have hbreak : lexemes (cs ++ ['\n']) = lexemes cs := by
      rw [hsplit, lexemes_nil, List.append_nil]
    refine ⟨⟨by rwa [hbreak], fun rest => ?_⟩, hcs, hwhole.of_append hcs, hsplit ds⟩
    rw [List.append_assoc, List.singleton_append, hsplit, hbreak]
  · -- the line break stands in a string, which is outside all parentheses as the text is whole
    exfalso
    obtain ⟨w, ms, hw, hlexes⟩ := hcut ds
    have hlexes := (lexes_iff.mp hlexes).symm
    rw [hlexes, IsWhole, List.map_append, List.map_cons] at hwhole
    have hcs : IsWhole (lexemes cs) := by
      refine hcases (ms.map Lexeme.kind) ?_
      rw [hlexemes, List.map_append, List.append_assoc]
      exact hwhole.2
    have hfront : IsWhole front := by
      rw [hlexemes, IsWhole, List.map_append] at hcs
      refine ⟨?_, fun p q hpq => hcs.2 p (q ++ [.string]) ?_⟩
      · simpa [Lexeme.kind] using hcs.1
      · rw [hpq, List.append_assoc]
        rfl
    exact hstrings front w ms hlexes hfront hw

end PocketScheme.Form
