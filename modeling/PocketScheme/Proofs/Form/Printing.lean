import PocketScheme.Proofs.Form.Blocks
import PocketScheme.Proofs.Text.Utf8
import PocketScheme.Proofs.Token.Lexer

/-!
The text of a form that was read spells that form again.

* `Spells`: characters that are read as given symbols, whatever follows them;
* `Symbol.Legible`: the symbols that a text can spell;
* `IsRead`, `IsRead.legible`: the forms of a text are made of these;
* `Reread`: what a form comes back as, once it is printed;
* `spells_render`: the text of a legible form spells what it comes back as;
* `Spaced`: the texts of forms with blanks between any two;
* `readAll_printed`: reading them gives back the forms.
-/

namespace PocketScheme.Form

open Token

/-! ### What characters spell -/

/-- The characters are read as the given symbols, wherever they stand in front of something that
ends a word. -/
def Spells (cs : List Char) (ys : List Symbol) : Prop :=
  ∀ p rest, Stops rest →
    ∃ ts q, scanFrom p (cs ++ rest) = ts ++ scanFrom q rest ∧ ts.map symbol = ys

lemma Spells.append {cs ds : List Char} {xs ys : List Symbol} (hcs : Spells cs xs)
    (hds : Spells ds ys) (hstop : ∀ rest, Stops rest → Stops (ds ++ rest)) :
    Spells (cs ++ ds) (xs ++ ys) := by
  intro p rest hrest
  obtain ⟨ts, q, hts, rfl⟩ := hcs p (ds ++ rest) (hstop rest hrest)
  obtain ⟨us, r, hus, rfl⟩ := hds q rest hrest
  refine ⟨ts ++ us, r, ?_, List.map_append⟩
  rw [List.append_assoc, hts, hus, List.append_assoc]

lemma spells_nil : Spells [] [] :=
  fun p _ _ => ⟨[], p, rfl, rfl⟩

/-- Blanks in front do not count. -/
lemma Spells.blank_append {gap cs : List Char} {ys : List Symbol}
    (hgap : ∀ c ∈ gap, Text.isBlank c = true) (h : Spells cs ys) : Spells (gap ++ cs) ys := by
  intro p rest hrest
  induction gap generalizing p with
  | nil => exact h p rest hrest
  | cons c gap ih =>
      obtain ⟨ts, q, hts, hsymbols⟩ := ih (fun d hd => hgap d (by simp [hd])) (p.next c)
      refine ⟨ts, q, ?_, hsymbols⟩
      have hc : Text.isBlank c = true := hgap c (by simp)
      rw [List.cons_append, List.cons_append, scanFrom_blank hc, hts]

/-- A parenthesis in front opens. -/
lemma Spells.open_cons {cs : List Char} {ys : List Symbol} (h : Spells cs ys) :
    Spells ('(' :: cs) (.opening :: ys) := by
  intro p rest hrest
  obtain ⟨ts, q, hts, rfl⟩ := h (p.next '(') rest hrest
  refine ⟨⟨.openParen, p⟩ :: ts, q, ?_, rfl⟩
  rw [List.cons_append, scanFrom_open, hts, List.cons_append]

lemma spells_close : Spells [')'] [.closing] := by
  intro p rest _
  exact ⟨[⟨.closeParen, p⟩], p.next ')', scanFrom_close p rest, rfl⟩

/-- Characters in quotes spell a string. -/
lemma spells_string {body : List Char} (hbody : '"' ∉ body) :
    Spells ('"' :: (body ++ ['"'])) [.leaf (.string (String.ofList body))] := by
  intro p rest _
  refine ⟨[⟨.string (String.ofList body), p⟩], (p.next '"').after (body ++ ['"']), ?_, rfl⟩
  rw [List.cons_append, List.append_assoc, List.singleton_append, scanFrom_string hbody,
    List.singleton_append]

/-- A word spells a leaf. -/
lemma spells_word {cs : List Char} (hcs : IsWord cs) : Spells cs [.leaf (atom (word cs))] := by
  intro p rest hrest
  refine ⟨[⟨word cs, p⟩], p.after cs, scanFrom_word hcs hrest p, ?_⟩
  rw [List.map_singleton, word]
  split <;> rfl

/-! ### Legible forms -/

/-- A symbol that a text can spell: an identifier is a word that spells no number, and a string has
no quotes inside. -/
def Symbol.Legible : Symbol → Prop
  | .opening | .closing => True
  | .leaf (.identifier name) => IsWord name.toList ∧ Number.ofChars? name.toList = none
  | .leaf (.string value) => '"' ∉ value.toList
  | .leaf (.number _) => True
  | .leaf _ => False

/-- A form that a text can spell. -/
def Legible (e : Expr) : Prop :=
  ∀ y ∈ flatten e, y.Legible

lemma legible_word {cs : List Char} (hcs : IsWord cs) (p : Position) :
    (symbol ⟨word cs, p⟩).Legible := by
  rw [word]
  split
  · trivial
  · exact ⟨by rwa [String.toList_ofList], by rwa [String.toList_ofList]⟩

/-- Every token is legible. -/
lemma legible_of_mem_scanFrom (p : Position) (cs : List Char) :
    ∀ t ∈ scanFrom p cs, (symbol t).Legible := by
  fun_induction scanFrom p cs with
  | case1 p => simp
  | case2 p c cs hblank ih => exact ih
  | case3 p c cs hblank hopen ih =>
      intro t ht
      rcases List.mem_cons.mp ht with rfl | ht
      · trivial
      · exact ih t ht
  | case4 p c cs hblank hopen hclose ih =>
      intro t ht
      rcases List.mem_cons.mp ht with rfl | ht
      · trivial
      · exact ih t ht
  | case5 p c cs hblank hopen hclose hquote body rest ih =>
      intro t ht
      rcases List.mem_cons.mp ht with rfl | ht
      · intro hmem
        rw [String.toList_ofList] at hmem
        simpa using List.mem_takeWhile_imp hmem
      · exact ih t ht
  | case6 p c cs hblank hopen hclose hquote run ih =>
      intro t ht
      rcases List.mem_cons.mp ht with rfl | ht
      · refine legible_word ⟨List.cons_ne_nil _ _, by simpa using hquote, fun d hd => ?_⟩ p
        rcases List.mem_cons.mp hd with rfl | hd
        · simp_all [isPlain]
        · exact List.mem_takeWhile_imp hd
      · exact ih t ht

lemma Factors.mem_of_mem_tokens {ts : List Token} {bs : List Block} (h : Factors ts bs) :
    ∀ b ∈ bs, ∀ t ∈ b.tokens, t ∈ ts := by
  induction h with
  | nil => simp
  | form _ _ ih =>
      intro b hb t ht
      rcases List.mem_cons.mp hb with rfl | hb
      · exact List.mem_append_left _ ht
      · exact List.mem_append_right _ (ih b hb t ht)
  | stray _ _ ih =>
      intro b hb t ht
      rcases List.mem_cons.mp hb with rfl | hb
      · simp_all [Block.tokens]
      · exact List.mem_cons_of_mem _ (ih b hb t ht)
  | unclosed _ _ =>
      intro b hb t ht
      obtain rfl := List.mem_singleton.mp hb
      exact ht

/-- The form is read from some text. -/
def IsRead (e : Expr) : Prop :=
  ∃ cs, .ok e ∈ readEach (Token.scan cs)

/-- What is read from a text is legible. -/
lemma IsRead.legible {e : Expr} (h : IsRead e) : Legible e := by
  obtain ⟨cs, he⟩ := h
  obtain ⟨bs, hbs⟩ := exists_factors (Token.scan cs)
  obtain ⟨b, hb, hyields⟩ : ∃ b ∈ bs, b.Yields (.ok e) := by
    obtain ⟨i, hi, heq⟩ := List.mem_iff_getElem.mp he
    have hi' : i < bs.length := by
      rw [hbs.readEach.length_eq]
      exact hi
    have hyields := hbs.readEach.get hi' hi
    rw [List.get_eq_getElem, List.get_eq_getElem, heq] at hyields
    exact ⟨bs[i], List.getElem_mem hi', hyields⟩
  cases hyields with
  | form hflatten =>
      intro y hy
      rw [← hflatten] at hy
      obtain ⟨t, ht, rfl⟩ := List.mem_map.mp hy
      exact legible_of_mem_scanFrom _ _ t (hbs.mem_of_mem_tokens _ hb t ht)

/-- The forms in front of the first fault are read. -/
lemma mem_of_mem_untilFault {rs : List (Except SyntaxFault Expr)} {e : Expr}
    (he : e ∈ (untilFault rs).1) : .ok e ∈ rs := by
  fun_induction untilFault rs with
  | case1 => simp at he
  | case2 => simp at he
  | case3 d rest es fault hrest ih =>
      rcases List.mem_cons.mp he with rfl | he
      · exact List.mem_cons_self
      · exact List.mem_cons_of_mem _ (ih (by rw [hrest]; exact he))

lemma isRead_of_mem_readAll {cs : List Char} {e : Expr} (he : e ∈ (readAll cs).1) : IsRead e :=
  ⟨cs, mem_of_mem_untilFault he⟩

/-! ### What comes back -/

/-- What a form comes back as once it is printed: the same tree with the same identifiers, strings
and integers, and for a double the one that its text spells. -/
inductive Reread : Expr → Expr → Prop where
  | identifier (name : String) : Reread (.identifier name) (.identifier name)
  | string (value : String) : Reread (.string value) (.string value)
  | int (v : Int64) : Reread (.number (.int v)) (.number (.int v))
  | float {x y : Float}
      (h : Number.ofString? (Number.float x).render = some (.float y)) :
      Reread (.number (.float x)) (.number (.float y))
  | combination {es es' : List Expr} (h : List.Forall₂ Reread es es') :
      Reread (.combination es) (.combination es')

/-- The form has no doubles. -/
def FloatFree (e : Expr) : Prop :=
  ∀ x : Float, Symbol.leaf (.number (.float x)) ∉ flatten e

lemma mem_flattenList {y : Symbol} {es : List Expr} :
    y ∈ flattenList es ↔ ∃ e ∈ es, y ∈ flatten e := by
  induction es with
  | nil => simp [flattenList]
  | cons e es ih => simp [flattenList, ih]

lemma mem_flatten_combination {y : Symbol} {e : Expr} {es : List Expr} (he : e ∈ es)
    (hy : y ∈ flatten e) : y ∈ flatten (.combination es) := by
  rw [flatten]
  exact List.mem_cons_of_mem _ (List.mem_append_left _ (mem_flattenList.mpr ⟨e, he, hy⟩))

lemma Legible.part {e : Expr} {es : List Expr} (h : Legible (.combination es)) (he : e ∈ es) :
    Legible e :=
  fun y hy => h y (mem_flatten_combination he hy)

lemma legible_combination {es : List Expr} : Legible (.combination es) ↔ ∀ e ∈ es, Legible e := by
  refine ⟨fun h e he => h.part he, fun h y hy => ?_⟩
  rw [flatten] at hy
  rcases List.mem_cons.mp hy with rfl | hy
  · trivial
  rcases List.mem_append.mp hy with hy | hy
  · obtain ⟨e, he, hy⟩ := mem_flattenList.mp hy
    exact h e he y hy
  · obtain rfl := List.mem_singleton.mp hy
    trivial

lemma legible_identifier {name : String} : Legible (.identifier name) ↔
    IsWord name.toList ∧ (Number.ofChars? name.toList).isNone = true := by
  rw [Option.isNone_iff_eq_none]
  exact List.forall_mem_singleton

lemma legible_string {value : String} : Legible (.string value) ↔ '"' ∉ value.toList :=
  List.forall_mem_singleton

lemma FloatFree.part {e : Expr} {es : List Expr} (h : FloatFree (.combination es)) (he : e ∈ es) :
    FloatFree e :=
  fun x hx => h x (mem_flatten_combination he hx)

lemma rereads_eq {es es' : List Expr} (h : List.Forall₂ Reread es es')
    (hes : ∀ e ∈ es, ∀ e', Reread e e' → e' = e) : es' = es := by
  induction h with
  | nil => rfl
  | cons he _ ih =>
      rw [hes _ (by simp) _ he, ih fun e hmem => hes e (List.mem_cons_of_mem _ hmem)]

/-- A form without doubles comes back as it was. -/
lemma Reread.eq_of_floatFree {e e' : Expr} (h : Reread e e') (he : FloatFree e) : e' = e := by
  induction e using treeInduction generalizing e' with
  | leaf e hleaf =>
      cases h with
      | identifier | string | int => rfl
      | @float x _ _ => exact absurd (by simp [flatten]) (he x)
      | combination _ => simp [flatten] at hleaf
  | combination es ih =>
      cases h with
      | combination h =>
          rw [rereads_eq h fun e hmem e' h => ih e hmem h (he.part hmem)]

/-! ### The text of a form -/

/-- A legible leaf comes back. -/
lemma spells_leaf {e : Expr} (hleaf : flatten e = [.leaf e]) (he : Legible e) :
    ∃ e', Reread e e' ∧ Spells e.render.toList (flatten e') := by
  have he := he (.leaf e) (by simp [hleaf])
  cases e with
  | combination es => simp [flatten] at hleaf
  | identifier name =>
      refine ⟨_, .identifier name, ?_⟩
      have h := spells_word he.1
      rw [word, he.2] at h
      simpa [atom, Expr.render, Expr.renderAtom, flatten] using h
  | string value =>
      refine ⟨_, .string value, ?_⟩
      simpa [Expr.render, Expr.renderAtom, flatten] using spells_string he
  | number n =>
      have hword := spells_word (isWord_render n)
      cases n with
      | int v =>
          refine ⟨_, .int v, ?_⟩
          have hread : Number.ofChars? (Number.int v).render.toList = some (.int v) := by
            rw [Number.render, String.toList_ofList]
            exact Number.ofChars?_intChars v
          rw [word, hread] at hword
          exact hword
      | float x =>
          obtain ⟨y, hy⟩ := Number.ofChars?_floatChars x.toBits.toNat
          have hread : Number.ofChars? (Number.float x).render.toList = some (.float y) := by
            rw [Number.render, String.toList_ofList]
            exact hy
          refine ⟨_, .float hread, ?_⟩
          rw [word, hread] at hword
          exact hword
  | boolean _ | procedure _ _ _ | builtin _ _ | void => exact he.elim

/-- The texts of forms with blanks between any two, at least one. -/
inductive Spaced : List Expr → List Char → Prop where
  | nil : Spaced [] []
  | single (e : Expr) : Spaced [e] e.render.toList
  | cons {e d : Expr} {es : List Expr} {gap cs : List Char} (hne : gap ≠ [])
      (hgap : ∀ c ∈ gap, Text.isBlank c = true) (h : Spaced (d :: es) cs) :
      Spaced (e :: d :: es) (e.render.toList ++ (gap ++ cs))

lemma spaced_renderList (es : List Expr) : Spaced es (Expr.renderList es).toList := by
  induction es with
  | nil => exact .nil
  | cons e es ih =>
      cases es with
      | nil => exact .single e
      | cons d es =>
          have h : Spaced (e :: d :: es) _ :=
            .cons (List.cons_ne_nil ' ' []) (List.all_eq_true.mp (by decide)) ih
          simpa [Expr.renderList] using h

/-- Spaced texts of forms that come back spell what they come back as. -/
lemma Spaced.spells {es : List Expr} {cs : List Char} (h : Spaced es cs)
    (hes : ∀ e ∈ es, ∃ e', Reread e e' ∧ Spells e.render.toList (flatten e')) :
    ∃ es', List.Forall₂ Reread es es' ∧ Spells cs (flattenList es') := by
  induction h with
  | nil => exact ⟨[], .nil, spells_nil⟩
  | single e =>
      obtain ⟨e', hreread, he⟩ := hes e (by simp)
      exact ⟨[e'], .cons hreread .nil, by simpa [flattenList] using he⟩
  | @cons e d es gap cs hne hgap _ ih =>
      obtain ⟨e', hreread, he⟩ := hes e (by simp)
      obtain ⟨es', hrereads, hspells⟩ := ih fun d hd => hes d (List.mem_cons_of_mem _ hd)
      refine ⟨e' :: es', .cons hreread hrereads, he.append (hspells.blank_append hgap) ?_⟩
      -- the gap ends whatever stands in front of it
      obtain ⟨c, gap, rfl⟩ := List.exists_cons_of_ne_nil hne
      exact fun rest _ => stops_blank _ (hgap c (by simp))

/-- The text of a legible form spells what it comes back as. -/
lemma spells_render {e : Expr} (he : Legible e) :
    ∃ e', Reread e e' ∧ Spells e.render.toList (flatten e') := by
  induction e using treeInduction with
  | leaf e hleaf => exact spells_leaf hleaf he
  | combination es ih =>
      obtain ⟨es', hrereads, hspells⟩ :=
        (spaced_renderList es).spells fun e hmem => ih e hmem (he.part hmem)
      refine ⟨.combination es', .combination hrereads, ?_⟩
      have h := (hspells.append spells_close fun rest _ => stops_close rest).open_cons
      simpa [Expr.render, flatten] using h

/-! ### Reading what was printed -/

/-- Tokens that spell forms are read as these forms, whatever follows. -/
lemma readEach_append {ts : List Token} {es : List Expr} (h : ts.map symbol = flattenList es)
    (us : List Token) : readEach (ts ++ us) = es.map .ok ++ readEach us := by
  induction es generalizing ts with
  | nil =>
      obtain rfl := List.map_eq_nil_iff.mp h
      rfl
  | cons e es ih =>
      obtain ⟨vs, ws, rfl, hvs, hws⟩ := List.map_eq_append_iff.mp h
      rw [List.append_assoc, readEach_of_next? (next?_flatten hvs (ws ++ us)), ih hws,
        List.map_cons, List.cons_append]

lemma readEach_flattenList {ts : List Token} {es : List Expr} (h : ts.map symbol = flattenList es) :
    readEach ts = es.map .ok := by
  have happend := readEach_append h []
  rwa [List.append_nil, readEach_nil, List.append_nil] at happend

lemma untilFault_append (es : List Expr) (rs : List (Except SyntaxFault Expr)) :
    untilFault (es.map .ok ++ rs) = (es ++ (untilFault rs).1, (untilFault rs).2) := by
  induction es with
  | nil => rfl
  | cons e es ih => rw [List.map_cons, List.cons_append, untilFault, ih, List.cons_append]

lemma untilFault_map_ok (es : List Expr) : untilFault (es.map .ok) = (es, none) := by
  have happend := untilFault_append es []
  rwa [List.append_nil, untilFault, List.append_nil] at happend

/-- Characters that spell forms are read as these forms, without a fault. -/
lemma readAll_of_spells {cs : List Char} {es : List Expr} (h : Spells cs (flattenList es)) :
    readAll cs = (es, none) := by
  obtain ⟨ts, q, hts, hsymbols⟩ := h .start [] stops_nil
  have hscan : Token.scan cs = ts := by simpa [Token.scan, scanFrom] using hts
  rw [readAll, hscan, readEach_flattenList hsymbols, untilFault_map_ok]

/-- Legible forms without doubles are read from their own texts. -/
lemma readAll_of_spaced {es : List Expr} {cs : List Char} (h : Spaced es cs)
    (hes : ∀ e ∈ es, Legible e ∧ FloatFree e) : readAll cs = (es, none) := by
  obtain ⟨es', hrereads, hspells⟩ := h.spells fun e he => spells_render (hes e he).1
  rw [rereads_eq hrereads fun e he e' h => h.eq_of_floatFree (hes e he).2] at hspells
  exact readAll_of_spells hspells

lemma Legible.isRead {e : Expr} (he : Legible e) (hfree : FloatFree e) : IsRead e := by
  have hread : readAll e.render.toList = ([e], none) :=
    readAll_of_spaced (.single e) (by simp [he, hfree])
  have hmem : e ∈ (readAll e.render.toList).1 := by
    rw [hread]
    exact List.mem_singleton_self e
  exact isRead_of_mem_readAll hmem

/-- **Printing and reading**. Take the forms of any bytes, as far as they can be read, and print
them with any blanks between. These bytes are read without a fault, as forms of the same shape with
the same identifiers, strings and integers; in the place of a double stands the double that its text
spells, and every double has one. Forms without doubles come back as they were. -/
theorem readAll_printed (content : Text.Bytes) {cs : List Char}
    (h : Spaced (readAll (Text.decode content)).1 cs) :
    ∃ es, readAll (Text.decode (Text.ofChars cs).bytes) = (es, none) ∧
      List.Forall₂ Reread (readAll (Text.decode content)).1 es ∧
      ((∀ e ∈ (readAll (Text.decode content)).1, FloatFree e) →
        es = (readAll (Text.decode content)).1) := by
  obtain ⟨es, hrereads, hspells⟩ := h.spells fun e he =>
    spells_render (isRead_of_mem_readAll he).legible
  refine ⟨es, ?_, hrereads, fun hfree => ?_⟩
  · rw [Text.decode_bytes_ofChars, readAll_of_spells hspells]
  · exact rereads_eq hrereads fun e he e' h => h.eq_of_floatFree (hfree e he)

/-- A text with a number that is written with a sign and a zero, and a quote inside an
identifier. -/
def quotedName : List Char := "(+07 x\"y)".toList

lemma readAll_quotedName :
    readAll quotedName = ([.combination [.number (.int 7), .identifier "x\"y"]], none) := by
  have hwords : IsWord "+07".toList ∧ IsWord "x\"y".toList := by decide
  have hnumber : Spells "+07".toList [.leaf (.number (.int 7))] := spells_word hwords.1
  have hname : Spells "x\"y".toList [.leaf (.identifier "x\"y")] := by
    have h := spells_word hwords.2
    rwa [word,
      Option.isNone_iff_eq_none.mp (by decide : (Number.ofChars? "x\"y".toList).isNone)] at h
  have hgap : Spells (" ".toList ++ "x\"y".toList) _ :=
    hname.blank_append (List.all_eq_true.mp (by decide))
  have h := ((hnumber.append hgap fun rest _ => stops_blank _ (by decide)).append spells_close
    fun rest _ => stops_close rest).open_cons
  exact readAll_of_spells h

/-- The number is printed without sign and zero, and the form comes back. -/
theorem readAll_printed_quotedName :
    Spaced (readAll (Text.decode (Text.ofChars quotedName).bytes)).1 "(7 x\"y)".toList ∧
      readAll (Text.decode (Text.ofChars "(7 x\"y)".toList).bytes) =
        ([.combination [.number (.int 7), .identifier "x\"y"]], none) := by
  have hread : (readAll (Text.decode (Text.ofChars quotedName).bytes)).1 =
      [.combination [.number (.int 7), .identifier "x\"y"]] := by
    rw [Text.decode_bytes_ofChars, readAll_quotedName]
  have hspaced : Spaced (readAll (Text.decode (Text.ofChars quotedName).bytes)).1
      "(7 x\"y)".toList := by
    rw [hread]
    exact .single (.combination [.number (.int 7), .identifier "x\"y"])
  obtain ⟨es, hes, -, hfree⟩ := readAll_printed _ hspaced
  refine ⟨hspaced, ?_⟩
  rw [hes, hfree, hread]
  rw [hread]
  simp [FloatFree, flatten, flattenList]

end PocketScheme.Form
