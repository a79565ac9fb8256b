import PocketScheme.Proofs.Form.Grammar
import Mathlib.Data.List.Forall2

/-!
Every sequence of tokens falls into blocks, and reading gives back one answer for each.

* `Block`, `Factors`: complete forms, closing parentheses that close nothing, and at the end perhaps
  a parenthesis that is never closed;
* `Block.Yields`: the answer that belongs to a block;
* `exists_factors`, `Factors.unique`: a sequence falls into blocks in exactly one way;
* `Factors.readEach`: reading answers block by block;
* `IsBalanced`, `balanced_iff_isBalanced`: balance by counting;
* `read_blocks`: what reading a text comes to.
-/

namespace PocketScheme.Form

open Token

/-! ### Blocks -/

/-- A block of tokens. -/
inductive Block where
  /-- A complete form. -/
  | form (tokens : List Token)
  /-- A closing parenthesis that closes nothing. -/
  | stray (token : Token)
  /-- A parenthesis that is never closed, with all that follows it. -/
  | unclosed (tokens : List Token)

namespace Block

/-- The tokens of a block. -/
def tokens : Block → List Token
  | form ts => ts
  | stray t => [t]
  | unclosed ts => ts

/-- The block is a complete form. -/
def isForm : Block → Bool
  | form _ => true
  | _ => false

/-- What reading answers to a block: the tree that its tokens spell, or a fault at the stray
parenthesis, or one at the innermost parenthesis that is still open at the end. -/
inductive Yields : Block → Except SyntaxFault Expr → Prop where
  | form {ts : List Token} {e : Expr} (h : ts.map symbol = flatten e) : Yields (.form ts) (.ok e)
  | stray {t : Token} : Yields (.stray t) (.error (.unexpectedClose t.position))
  | unclosed {ts : List Token} {o : Token} (h : Innermost o ts) :
      Yields (.unclosed ts) (.error (.unexpectedEnd o.position))

end Block

/-- The tokens fall into the blocks, in this order. -/
inductive Factors : List Token → List Block → Prop where
  | nil : Factors [] []
  | form {ts us : List Token} {bs : List Block} (h : IsForm ts) (hus : Factors us bs) :
      Factors (ts ++ us) (.form ts :: bs)
  | stray {t : Token} {us : List Token} {bs : List Block} (h : t.Closes) (hus : Factors us bs) :
      Factors (t :: us) (.stray t :: bs)
  | unclosed {o : Token} {us : List Token} (h : o.Opens) (hus : NeverClosed us) :
      Factors (o :: us) [.unclosed (o :: us)]

/-- Every sequence of tokens falls into blocks. -/
lemma exists_factors (ts : List Token) : ∃ bs, Factors ts bs := by
  induction hn : ts.length using Nat.strong_induction_on generalizing ts with
  | _ n ih =>
    subst hn
    cases ts with
    | nil => exact ⟨[], .nil⟩
    | cons t us =>
        have hrest : ∀ vs : List Token, vs.length ≤ us.length → ∃ bs, Factors vs bs :=
          fun vs hvs => ih vs.length (Nat.lt_succ_of_le hvs) vs rfl
        rcases t.opens_or_closes_or_isLeaf with ht | ht | ht
        · by_cases hus : NeverClosed us
          · exact ⟨_, .unclosed ht hus⟩
          · obtain ⟨body, c, rest, rfl, hbody, hc⟩ := exists_closes_of_not_neverClosed hus
            have hlen : rest.length ≤ (body ++ c :: rest).length := by
              rw [List.length_append, List.length_cons]
              omega
            obtain ⟨bs, hbs⟩ := hrest rest hlen
            have h := Factors.form (.group ht hc hbody) hbs
            rw [List.cons_append, List.append_assoc, List.singleton_append] at h
            exact ⟨_, h⟩
        · obtain ⟨bs, hbs⟩ := hrest us (Nat.le_refl _)
          exact ⟨_, .stray ht hbs⟩
        · obtain ⟨bs, hbs⟩ := hrest us (Nat.le_refl _)
          exact ⟨_, .form (.atom ht) hbs⟩

/-- Reading the first form takes the first block and answers to it. -/
lemma Factors.next? {ts : List Token} {b : Block} {bs : List Block} (h : Factors ts (b :: bs)) :
    ∃ r us, Form.next? ts = some (r, us) ∧ b.Yields r ∧ ts = b.tokens ++ us ∧ Factors us bs := by
  cases h with
  | @form ts us _ h hus =>
      obtain ⟨e, he⟩ := h.exists_flatten
      exact ⟨.ok e, us, next?_flatten he us, .form he, rfl, hus⟩
  | @stray t us _ h hus => exact ⟨_, us, next?_closes h us, .stray, rfl, hus⟩
  | @unclosed o us h hus =>
      rw [next?_opens h]
      rcases group_neverClosed hus ⟨o.position, []⟩ [] with
        ⟨hb, heq⟩ | ⟨o', ⟨pre, post, rfl, ho', hpost⟩, heq⟩
      · exact ⟨_, [], congrArg some heq, .unclosed ⟨[], us, rfl, h, hb⟩, by simp [Block.tokens],
          .nil⟩
      · exact ⟨_, [], congrArg some heq, .unclosed ⟨o :: pre, post, rfl, ho', hpost⟩,
          by simp [Block.tokens], .nil⟩

lemma Factors.ne_nil {ts : List Token} {b : Block} {bs : List Block} (h : Factors ts (b :: bs)) :
    ts ≠ [] := by
  obtain ⟨r, us, hnext, -⟩ := h.next?
  rintro rfl
  simp [Form.next?] at hnext

/-- A block is determined by its tokens and the answer to it. -/
lemma Block.eq_of_yields {b b' : Block} {r : Except SyntaxFault Expr} (h : b.Yields r)
    (h' : b'.Yields r) (htokens : b.tokens = b'.tokens) : b = b' := by
  generalize hr : r = r' at h'
  cases h <;> cases h' <;> simp_all [Block.tokens]

/-- A sequence of tokens falls into blocks in one way only. -/
lemma Factors.unique {ts : List Token} {bs bs' : List Block} (h : Factors ts bs)
    (h' : Factors ts bs') : bs = bs' := by
  induction bs generalizing ts bs' with
  | nil =>
      cases h
      cases bs' with
      | nil => rfl
      | cons b' bs' => exact absurd rfl h'.ne_nil
  | cons b bs ih =>
      cases bs' with
      | nil =>
          cases h'
          exact absurd rfl h.ne_nil
      | cons b' bs' =>
          obtain ⟨r, us, hnext, hb, hts, hus⟩ := h.next?
          obtain ⟨r', us', hnext', hb', hts', hus'⟩ := h'.next?
          -- both first blocks are what reading takes
          obtain ⟨rfl, rfl⟩ : r = r' ∧ us = us' := by simpa [hnext] using hnext'
          have htokens : b.tokens = b'.tokens := List.append_cancel_right (hts.symm.trans hts')
          rw [Block.eq_of_yields hb hb' htokens, ih hus hus']

/-- Reading answers block by block. -/
lemma Factors.readEach {ts : List Token} {bs : List Block} (h : Factors ts bs) :
    List.Forall₂ Block.Yields bs (Form.readEach ts) := by
  induction bs generalizing ts with
  | nil =>
      cases h
      rw [readEach_nil]
      exact .nil
  | cons b bs ih =>
      obtain ⟨r, us, hnext, hb, -, hus⟩ := h.next?
      rw [readEach_of_next? hnext]
      exact .cons hb (ih hus)

/-! ### Balance by counting -/

/-- As many parentheses open as close, and at no point more have closed than opened. -/
def IsBalanced (ks : List Lexeme.Kind) : Prop :=
  ks.count .closeParen = ks.count .openParen ∧
    ∀ p q, ks = p ++ q → p.count .closeParen ≤ p.count .openParen

/-- The kinds of tokens. -/
def kinds (ts : List Token) : List Lexeme.Kind :=
  ts.map (·.lexeme.kind)

@[simp] lemma kinds_append (ts us : List Token) : kinds (ts ++ us) = kinds ts ++ kinds us :=
  List.map_append

lemma kind_eq_openParen {t : Token} : t.lexeme.kind = .openParen ↔ t.Opens := by
  unfold Opens
  cases t.lexeme <;> simp [Lexeme.kind]

lemma kind_eq_closeParen {t : Token} : t.lexeme.kind = .closeParen ↔ t.Closes := by
  unfold Closes
  cases t.lexeme <;> simp [Lexeme.kind]

lemma kinds_opens {t : Token} (ht : t.Opens) (ts : List Token) :
    kinds (t :: ts) = .openParen :: kinds ts := by
  rw [kinds, List.map_cons, kind_eq_openParen.mpr ht, ← kinds]

lemma kinds_closes {t : Token} (ht : t.Closes) (ts : List Token) :
    kinds (t :: ts) = .closeParen :: kinds ts := by
  rw [kinds, List.map_cons, kind_eq_closeParen.mpr ht, ← kinds]

lemma IsBalanced.nil : IsBalanced [] := by
  refine ⟨rfl, fun p q h => ?_⟩
  obtain ⟨rfl, -⟩ := List.nil_eq_append_iff.mp h
  exact Nat.le_refl _

lemma IsBalanced.append {ks ls : List Lexeme.Kind} (hks : IsBalanced ks) (hls : IsBalanced ls) :
    IsBalanced (ks ++ ls) := by
  refine ⟨by rw [List.count_append, List.count_append, hks.1, hls.1], fun p q h => ?_⟩
  rcases List.append_eq_append_iff.mp h with ⟨p', rfl, hq⟩ | ⟨q', rfl, -⟩
  · have hp' := hls.2 p' q hq
    rw [List.count_append, List.count_append, hks.1]
    omega
  · exact hks.2 p q' rfl

/-- What follows a balanced sequence never closes more than it opens, if the whole does not. -/
lemma closes_le_of_append {ks ls : List Lexeme.Kind} (hks : IsBalanced ks)
    (h : ∀ p q, ks ++ ls = p ++ q → p.count .closeParen ≤ p.count .openParen) :
    ∀ p q, ls = p ++ q → p.count .closeParen ≤ p.count .openParen := by
  intro p q hpq
  have hp := h (ks ++ p) q (by rw [hpq, List.append_assoc])
  rw [List.count_append, List.count_append, hks.1] at hp
  omega

lemma IsBalanced.of_append {ks ls : List Lexeme.Kind} (h : IsBalanced (ks ++ ls))
    (hks : IsBalanced ks) : IsBalanced ls := by
  refine ⟨?_, closes_le_of_append hks h.2⟩
  have hcount := h.1
  rw [List.count_append, List.count_append, hks.1] at hcount
  omega

lemma IsBalanced.cons {k : Lexeme.Kind} {ks : List Lexeme.Kind} (ho : k ≠ .openParen)
    (hc : k ≠ .closeParen) (hks : IsBalanced ks) : IsBalanced (k :: ks) := by
  refine ⟨by rw [List.count_cons_of_ne hc, List.count_cons_of_ne ho, hks.1], fun p q h => ?_⟩
  cases p with
  | nil => simp
  | cons l p =>
      obtain ⟨rfl, hpq⟩ := List.cons.inj h
      rw [List.count_cons_of_ne hc, List.count_cons_of_ne ho]
      exact hks.2 p q hpq

lemma IsBalanced.group {ks : List Lexeme.Kind} (hks : IsBalanced ks) :
    IsBalanced (.openParen :: (ks ++ [.closeParen])) := by
  refine ⟨by simp [List.count_append, hks.1], fun p q h => ?_⟩
  cases p with
  | nil => simp
  | cons l p =>
      obtain ⟨rfl, hpq⟩ := List.cons.inj h
      rw [List.count_cons_self, List.count_cons_of_ne (by simp)]
      rcases List.append_eq_append_iff.mp hpq with ⟨p', rfl, hq⟩ | ⟨q', rfl, -⟩
      · have hp' : p'.count .closeParen ≤ [Lexeme.Kind.closeParen].count .closeParen := by
          rw [hq]
          exact (List.sublist_append_left p' q).count_le _
        rw [List.count_singleton_self] at hp'
        rw [List.count_append, List.count_append, hks.1]
        omega
      · exact Nat.le_succ_of_le (hks.2 p q' rfl)

/-- A sequence of complete forms is balanced by count. -/
lemma Balanced.isBalanced {ts : List Token} (h : Balanced ts) : IsBalanced (kinds ts) := by
  induction h with
  | nil => exact .nil
  | atom ht _ ih => exact ih.cons (mt kind_eq_openParen.mp ht.1) (mt kind_eq_closeParen.mp ht.2)
  | @group o c body ts ho hc _ _ ihbody ih =>
      rw [kinds_opens ho, kinds_append, kinds_closes hc]
      have h := ihbody.group.append ih
      rwa [List.cons_append, List.append_assoc, List.singleton_append] at h

/-- Where a parenthesis is never closed, no more close than open. -/
lemma NeverClosed.count_le {ts : List Token} (h : NeverClosed ts) :
    (kinds ts).count .closeParen ≤ (kinds ts).count .openParen := by
  refine NeverClosed.induction (fun ts hb => ?_) (fun body o us hb ho ih => ?_) h
  · exact Nat.le_of_eq hb.isBalanced.1
  · have hbody := hb.isBalanced.1
    rw [kinds_append, kinds_opens ho, List.count_append, List.count_append,
      List.count_cons_self, List.count_cons_of_ne (by simp)]
    omega

/-- Tokens that are balanced by count fall into complete forms alone. -/
lemma Factors.isForm_of_isBalanced {ts : List Token} {bs : List Block} (h : Factors ts bs)
    (hts : IsBalanced (kinds ts)) : ∀ b ∈ bs, b.isForm = true := by
  induction h with
  | nil => simp
  | @form ts us bs hform _ ih =>
      rw [kinds_append] at hts
      have hus : IsBalanced (kinds us) := hts.of_append hform.balanced.isBalanced
      intro b hb
      rcases List.mem_cons.mp hb with rfl | hb
      · rfl
      · exact ih hus b hb
  | @stray t us bs hc _ _ =>
      have h1 := hts.2 [.closeParen] (kinds us) (by rw [kinds_closes hc]; rfl)
      simp at h1
  | @unclosed o us ho hus =>
      have h1 := hts.1
      have h2 := hus.count_le
      rw [kinds_opens ho, List.count_cons_self, List.count_cons_of_ne (by simp)] at h1
      omega

lemma Factors.balanced_of_isForm {ts : List Token} {bs : List Block} (h : Factors ts bs)
    (hbs : ∀ b ∈ bs, b.isForm = true) : Balanced ts := by
  induction h with
  | nil => exact .nil
  | form hform _ ih => exact hform.balanced.append (ih fun b hb => hbs b (by simp [hb]))
  | stray _ _ _ => simp [Block.isForm] at hbs
  | unclosed _ _ => simp [Block.isForm] at hbs

/-- Balance by the grammar is balance by count. -/
lemma balanced_iff_isBalanced (ts : List Token) : Balanced ts ↔ IsBalanced (kinds ts) := by
  refine ⟨Balanced.isBalanced, fun h => ?_⟩
  obtain ⟨bs, hbs⟩ := exists_factors ts
  exact hbs.balanced_of_isForm (hbs.isForm_of_isBalanced h)

/-! ### One answer for each block -/

/-- In a balanced sequence no parenthesis is followed by complete forms alone. -/
lemma Balanced.not_innermost {ts : List Token} (h : Balanced ts) (o : Token) :
    ¬ Innermost o ts := by
  rintro ⟨pre, post, rfl, ho, hpost⟩
  have hcount := h.isBalanced.1
  have hpre := h.isBalanced.2 (kinds pre) (kinds (o :: post)) (kinds_append _ _)
  have hcount' := hpost.isBalanced.1
  rw [kinds_append, kinds_opens ho, List.count_append, List.count_append, List.count_cons_self,
    List.count_cons_of_ne (by simp)] at hcount
  omega

/-- There is only one innermost parenthesis. -/
lemma Innermost.unique {o o' : Token} {ts : List Token} (h : Innermost o ts)
    (h' : Innermost o' ts) : o = o' := by
  obtain ⟨pre, post, rfl, ho, hpost⟩ := h
  obtain ⟨pre', post', heq, ho', hpost'⟩ := h'
  rcases List.append_eq_append_iff.mp heq with ⟨mid, rfl, hmid⟩ | ⟨mid, rfl, hmid⟩
  · cases mid with
    | nil => exact (List.cons.inj hmid).1
    | cons t mid =>
        obtain ⟨rfl, rfl⟩ := List.cons.inj hmid
        exact absurd ⟨mid, post', rfl, ho', hpost'⟩ (hpost.not_innermost o')
  · cases mid with
    | nil => exact (List.cons.inj hmid).1.symm
    | cons t mid =>
        obtain ⟨rfl, rfl⟩ := List.cons.inj hmid
        exact absurd ⟨mid, post, rfl, ho, hpost⟩ (hpost'.not_innermost o)

/-- Only one answer belongs to a block. -/
lemma Block.Yields.unique {b : Block} {r r' : Except SyntaxFault Expr} (h : b.Yields r)
    (h' : b.Yields r') : r = r' := by
  cases h with
  | form he =>
      cases h' with
      | form he' =>
          have hnext := (next?_flatten he []).symm.trans (next?_flatten he' [])
          simpa using hnext
  | stray =>
      cases h'
      rfl
  | unclosed ho =>
      cases h' with
      | unclosed ho' => rw [ho.unique ho']

/-- The answers up to the first fault are those to the complete forms in front of the first other
block, and the fault is the one that belongs to that block. -/
lemma untilFault_blocks {bs : List Block} {rs : List (Except SyntaxFault Expr)}
    (h : List.Forall₂ Block.Yields bs rs) :
    List.Forall₂ (fun b e => b.Yields (.ok e)) (bs.takeWhile Block.isForm) (untilFault rs).1 ∧
      Option.Rel (fun b fault => b.Yields (.error fault)) (bs.find? (fun b => !b.isForm))
        (untilFault rs).2 := by
  induction h with
  | nil => exact ⟨.nil, .none⟩
  | cons hb _ ih =>
      cases hb with
      | form he =>
          simp only [untilFault, List.takeWhile_cons, List.find?_cons, Block.isForm, if_true]
          exact ⟨.cons (.form he) ih.1, ih.2⟩
      | stray => exact ⟨.nil, .some .stray⟩
      | unclosed ho => exact ⟨.nil, .some (.unclosed ho)⟩

/-- Reading meets no fault exactly where all blocks are complete forms. -/
lemma fault_eq_none_iff {bs : List Block} {fault : Option SyntaxFault}
    (h : Option.Rel (fun b fault => b.Yields (.error fault))
      (bs.find? (fun b => !b.isForm)) fault) :
    fault = none ↔ ∀ b ∈ bs, b.isForm = true := by
  generalize hf : bs.find? (fun b => !b.isForm) = found at h
  cases h with
  | none => simpa using hf
  | some _ =>
      have hmem := List.mem_of_find?_eq_some hf
      have hno := List.find?_some hf
      simp only [reduceCtorEq, false_iff, not_forall]
      exact ⟨_, hmem, by simpa using hno⟩

/-- **Reading recognises the grammar of forms**. The tokens of a text fall into blocks in exactly
one way. Reading form by form, past faults, gives the answers that belong to the blocks and no
others: the tree that a complete form spells, a fault at a parenthesis that closes nothing, a fault
at the innermost parenthesis that is never closed. Reading up to the first fault gives the trees in
front of the first block that is no form, and the fault of that block. There is none exactly where
the parentheses are balanced. The faults say what is wrong and where. -/
theorem read_blocks (cs : List Char) :
    ∃ bs, Factors (Token.scan cs) bs ∧ (∀ bs', Factors (Token.scan cs) bs' → bs' = bs) ∧
      (∀ rs, List.Forall₂ Block.Yields bs rs ↔ rs = readEach (Token.scan cs)) ∧
      List.Forall₂ (fun b e => b.Yields (.ok e)) (bs.takeWhile Block.isForm) (readAll cs).1 ∧
      Option.Rel (fun b fault => b.Yields (.error fault)) (bs.find? (fun b => !b.isForm))
        (readAll cs).2 ∧
      ((readAll cs).2 = none ↔ IsBalanced (kinds (Token.scan cs))) ∧
      ∀ p : Position,
        (SyntaxFault.unexpectedClose p).message = "unexpected ')' at " ++ p.render ∧
        (SyntaxFault.unexpectedEnd p).message = "unexpected end of input at " ++ p.render := by
  obtain ⟨bs, hbs⟩ := exists_factors (Token.scan cs)
  have hread := hbs.readEach
  obtain ⟨htrees, hfault⟩ := untilFault_blocks hread
  refine ⟨bs, hbs, fun bs' hbs' => hbs'.unique hbs, fun rs => ⟨fun hrs => ?_, ?_⟩, htrees, hfault,
    ?_, fun p => ⟨rfl, rfl⟩⟩
  · exact List.right_unique_forall₂' (fun _ _ _ h h' => h.unique h') hrs hread
  · rintro rfl
    exact hread
  · rw [← balanced_iff_isBalanced, readAll, fault_eq_none_iff hfault]
    exact ⟨hbs.balanced_of_isForm, fun hb => hbs.isForm_of_isBalanced hb.isBalanced⟩

/-- A combination, a parenthesis too many, and one that is never closed. -/
theorem read_blocks_faulty :
    ∃ bs, Factors (Token.scan "(f \"a)\")) (".toList) bs ∧
      List.Forall₂ Block.Yields bs
        [.ok (.combination [.identifier "f", .string "a)"]), .error (.unexpectedClose ⟨1, 9⟩),
          .error (.unexpectedEnd ⟨1, 11⟩)] := by
  have hblank : Text.isBlank '(' = false ∧ Text.isBlank ')' = false ∧ Text.isBlank '"' = false ∧
      Text.isBlank 'f' = false ∧ Text.isBlank ' ' = true := by decide
  have hword : word ['f'] = .identifier "f" := by
    have h : Number.ofChars? ['f'] = none := by decide
    rw [word, h]
  have hscan : Token.scan "(f \"a)\")) (".toList =
      [⟨.openParen, ⟨1, 1⟩⟩, ⟨.identifier "f", ⟨1, 2⟩⟩, ⟨.string "a)", ⟨1, 4⟩⟩,
        ⟨.closeParen, ⟨1, 8⟩⟩, ⟨.closeParen, ⟨1, 9⟩⟩, ⟨.openParen, ⟨1, 11⟩⟩] := by
    simp [Token.scan, scanFrom, Position.start, Position.next, Position.after, isPlain, hword,
      hblank]
  obtain ⟨bs, hbs, -, hread, -⟩ := read_blocks "(f \"a)\")) (".toList
  refine ⟨bs, hbs, (hread _).mpr ?_⟩
  rw [hscan]
  simp [readEach, next?, group, Open.add, Open.close, atom]

end PocketScheme.Form
