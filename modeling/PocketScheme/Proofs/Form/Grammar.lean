import PocketScheme.Form
import Mathlib.Data.Nat.Init
import Mathlib.Logic.Basic

/-!
The grammar of forms, and what reading does on sequences that follow it.

* `Balanced`: a sequence of complete forms, one after the other;
* `IsForm`: one complete form, an atom or a balanced sequence in parentheses;
* `flatten`: the parentheses and leaves of a tree from left to right;
* `group_flatten`, `next?_flatten`: tokens that spell a tree are read as that tree, whatever
  follows;
* `NeverClosed`, `NeverClosed.induction`: what may follow a parenthesis that is never closed;
* `group_neverClosed`: there reading stops at the innermost parenthesis that is still open.
-/

namespace PocketScheme

namespace Token

/-- The token is an opening parenthesis. -/
def Opens (t : Token) : Prop := t.lexeme = .openParen

/-- The token is a closing parenthesis. -/
def Closes (t : Token) : Prop := t.lexeme = .closeParen

/-- The token is no parenthesis. -/
def IsLeaf (t : Token) : Prop := ¬ t.Opens ∧ ¬ t.Closes

/-- Every token opens, closes or is an atom. -/
lemma opens_or_closes_or_isLeaf (t : Token) : t.Opens ∨ t.Closes ∨ t.IsLeaf := by
  by_cases ho : t.Opens
  · exact .inl ho
  by_cases hc : t.Closes
  · exact .inr (.inl hc)
  · exact .inr (.inr ⟨ho, hc⟩)

end Token

namespace Form

open Token

/-! ### Balanced sequences -/

/-- A sequence of complete forms. -/
inductive Balanced : List Token → Prop where
  | nil : Balanced []
  | atom {t : Token} {ts : List Token} (ht : t.IsLeaf) (hts : Balanced ts) : Balanced (t :: ts)
  | group {o c : Token} {body ts : List Token} (ho : o.Opens) (hc : c.Closes)
      (hbody : Balanced body) (hts : Balanced ts) : Balanced (o :: (body ++ c :: ts))

/-- A complete form: an atom, or a balanced sequence in parentheses. -/
inductive IsForm : List Token → Prop where
  | atom {t : Token} (ht : t.IsLeaf) : IsForm [t]
  | group {o c : Token} {body : List Token} (ho : o.Opens) (hc : c.Closes)
      (hbody : Balanced body) : IsForm (o :: (body ++ [c]))

lemma Balanced.append {ts us : List Token} (hts : Balanced ts) (hus : Balanced us) :
    Balanced (ts ++ us) := by
  induction hts with
  | nil => exact hus
  | atom ht _ ih => exact .atom ht ih
  | group ho hc hbody _ _ ih =>
      rw [List.cons_append, List.append_assoc, List.cons_append]
      exact .group ho hc hbody ih

lemma IsForm.balanced {ts : List Token} (h : IsForm ts) : Balanced ts := by
  cases h with
  | atom ht => exact .atom ht .nil
  | group ho hc hbody => exact .group ho hc hbody .nil

/-! ### Trees and their symbols -/

/-- What a token contributes to a tree: a parenthesis or a leaf. -/
inductive Symbol where
  | opening
  | closing
  | leaf (e : Expr)

/-- The symbol of a token. A leaf is an identifier or a string by its text, or a number by its
value. -/
def symbol (t : Token) : Symbol :=
  match t.lexeme with
  | .openParen => .opening
  | .closeParen => .closing
  | .identifier text => .leaf (.identifier text)
  | .string text => .leaf (.string text)
  | .number _ value => .leaf (.number value)

lemma symbol_eq_opening {t : Token} : symbol t = .opening ↔ t.Opens := by
  unfold symbol Opens
  split <;> simp_all

lemma symbol_eq_closing {t : Token} : symbol t = .closing ↔ t.Closes := by
  unfold symbol Closes
  split <;> simp_all

/-- Reading makes of an atom the leaf that its token contributes. -/
lemma symbol_eq_leaf {t : Token} {e : Expr} :
    symbol t = .leaf e ↔ t.IsLeaf ∧ atom t.lexeme = e := by
  unfold symbol IsLeaf Opens Closes
  split <;> simp_all [atom]

mutual

/-- The parentheses and leaves of a tree from left to right. -/
def flatten : Expr → List Symbol
  | .combination elements => .opening :: (flattenList elements ++ [.closing])
  | e => [.leaf e]

/-- The parentheses and leaves of several trees. -/
def flattenList : List Expr → List Symbol
  | [] => []
  | e :: es => flatten e ++ flattenList es

end

lemma flattenList_append (es fs : List Expr) :
    flattenList (es ++ fs) = flattenList es ++ flattenList fs := by
  induction es with
  | nil => rfl
  | cons e es ih => rw [List.cons_append, flattenList, flattenList, ih, List.append_assoc]

/-- Trees are built from leaves by combinations. -/
@[elab_as_elim]
theorem treeInduction {P : Expr → Prop} (leaf : ∀ e, flatten e = [.leaf e] → P e)
    (combination : ∀ es, (∀ e ∈ es, P e) → P (.combination es)) : ∀ e, P e
  | .combination es => combination es fun e _ => treeInduction leaf combination e
  | .identifier _ | .string _ | .number _ | .boolean _ | .procedure _ _ _ | .builtin _ _ | .void =>
      leaf _ rfl

/-- An atom is a leaf. -/
lemma flatten_atom {t : Token} (ht : t.IsLeaf) : flatten (atom t.lexeme) = [symbol t] := by
  rw [symbol_eq_leaf.mpr ⟨ht, rfl⟩]
  cases t.lexeme <;> rfl

/-- A balanced sequence spells trees. -/
lemma Balanced.exists_flattenList {ts : List Token} (h : Balanced ts) :
    ∃ es, ts.map symbol = flattenList es := by
  induction h with
  | nil => exact ⟨[], rfl⟩
  | @atom t ts ht _ ih =>
      obtain ⟨es, hes⟩ := ih
      refine ⟨Form.atom t.lexeme :: es, ?_⟩
      rw [flattenList, flatten_atom ht, List.map_cons, hes]
      rfl
  | group ho hc _ _ ihbody ih =>
      obtain ⟨es, hes⟩ := ih
      obtain ⟨bs, hbs⟩ := ihbody
      refine ⟨.combination bs :: es, ?_⟩
      simp [flattenList, flatten, hbs, hes, symbol_eq_opening.mpr ho, symbol_eq_closing.mpr hc]

/-- A complete form spells a tree. -/
lemma IsForm.exists_flatten {ts : List Token} (h : IsForm ts) :
    ∃ e, ts.map symbol = flatten e := by
  cases h with
  | @atom t ht => exact ⟨Form.atom t.lexeme, by rw [flatten_atom ht]; rfl⟩
  | group ho hc hbody =>
      obtain ⟨bs, hbs⟩ := hbody.exists_flattenList
      refine ⟨.combination bs, ?_⟩
      simp [flatten, hbs, symbol_eq_opening.mpr ho, symbol_eq_closing.mpr hc]

/-! ### Reading what follows the grammar -/

/-- The combination with further elements, the first one first. -/
def Open.addAll (o : Open) (es : List Expr) : Open :=
  es.foldl Open.add o

@[simp] lemma Open.addAll_nil (o : Open) : o.addAll [] = o := rfl

@[simp] lemma Open.addAll_cons (o : Open) (e : Expr) (es : List Expr) :
    o.addAll (e :: es) = (o.add e).addAll es := rfl

@[simp] lemma Open.addAll_position (o : Open) (es : List Expr) :
    (o.addAll es).position = o.position := by
  induction es generalizing o with
  | nil => rfl
  | cons e es ih => exact ih (o.add e)

lemma Open.addAll_elements (o : Open) (es : List Expr) :
    (o.addAll es).elements = es.reverse ++ o.elements := by
  induction es generalizing o with
  | nil => rfl
  | cons e es ih => simp [ih, Open.add]

/-- A combination that starts empty closes with what was added. -/
lemma Open.close_addAll (p : Position) (es : List Expr) :
    (Open.addAll ⟨p, []⟩ es).close = .combination es := by
  simp [Open.close, Open.addAll_elements]

lemma group_opens {t : Token} (ht : t.Opens) (top : Open) (outer : List Open) (ts : List Token) :
    group top outer (t :: ts) = group ⟨t.position, []⟩ (top :: outer) ts := by
  rw [Opens] at ht
  rw [group.eq_def]
  simp only [ht]

lemma group_closes {t : Token} (ht : t.Closes) (top o : Open) (outer : List Open)
    (ts : List Token) : group top (o :: outer) (t :: ts) = group (o.add top.close) outer ts := by
  rw [group, ht]

lemma group_closes_last {t : Token} (ht : t.Closes) (top : Open) (ts : List Token) :
    group top [] (t :: ts) = (.ok top.close, ts) := by
  rw [group, ht]

lemma group_atom {t : Token} (ht : t.IsLeaf) (top : Open) (outer : List Open) (ts : List Token) :
    group top outer (t :: ts) = group (top.add (atom t.lexeme)) outer ts := by
  obtain ⟨ho, hc⟩ := ht
  rw [group.eq_def]
  dsimp only
  split
  · exact absurd ‹_› ho
  · exact absurd ‹_› hc
  · rfl

/-- The tokens whose symbols are those of a combination. -/
lemma map_symbol_eq_combination {ts : List Token} {es : List Expr}
    (h : ts.map symbol = flatten (.combination es)) :
    ∃ o body c, ts = o :: (body ++ [c]) ∧ o.Opens ∧ c.Closes ∧
      body.map symbol = flattenList es := by
  rw [flatten] at h
  obtain ⟨o, us, rfl, ho, hus⟩ := List.map_eq_cons_iff.mp h
  obtain ⟨body, vs, rfl, hbody, hvs⟩ := List.map_eq_append_iff.mp hus
  obtain ⟨c, ws, rfl, hc, hws⟩ := List.map_eq_cons_iff.mp hvs
  obtain rfl := List.map_eq_nil_iff.mp hws
  exact ⟨o, body, c, rfl, symbol_eq_opening.mp ho, symbol_eq_closing.mp hc, hbody⟩

/-- Reading on over tokens that spell trees adds those trees, if it does so for each of them. -/
lemma group_flattenList_of {es : List Expr}
    (hes : ∀ e ∈ es, ∀ ts top outer rest, ts.map symbol = flatten e →
      group top outer (ts ++ rest) = group (top.add e) outer rest)
    {ts : List Token} (h : ts.map symbol = flattenList es) (top : Open) (outer : List Open)
    (rest : List Token) :
    group top outer (ts ++ rest) = group (top.addAll es) outer rest := by
  induction es generalizing ts top with
  | nil =>
      obtain rfl := List.map_eq_nil_iff.mp h
      rfl
  | cons e es ih =>
      obtain ⟨us, vs, rfl, hus, hvs⟩ := List.map_eq_append_iff.mp h
      rw [List.append_assoc, hes e (by simp) us top outer (vs ++ rest) hus]
      exact ih (fun e he => hes e (by simp [he])) hvs (top.add e)

/-- Reading on over tokens that spell a tree adds that tree, whatever follows. -/
lemma group_flatten (e : Expr) : ∀ ts top outer rest, ts.map symbol = flatten e →
    group top outer (ts ++ rest) = group (top.add e) outer rest := by
  induction e using treeInduction with
  | leaf e he =>
      intro ts top outer rest h
      rw [he] at h
      obtain ⟨t, us, rfl, ht, hus⟩ := List.map_eq_cons_iff.mp h
      obtain rfl := List.map_eq_nil_iff.mp hus
      obtain ⟨hatom, rfl⟩ := symbol_eq_leaf.mp ht
      exact group_atom hatom top outer rest
  | combination es ih =>
      intro ts top outer rest h
      obtain ⟨o, body, c, rfl, ho, hc, hbody⟩ := map_symbol_eq_combination h
      rw [List.cons_append, List.append_assoc, group_opens ho, group_flattenList_of ih hbody,
        List.singleton_append, group_closes hc, Open.close_addAll]

lemma group_flattenList {ts : List Token} {es : List Expr} (h : ts.map symbol = flattenList es)
    (top : Open) (outer : List Open) (rest : List Token) :
    group top outer (ts ++ rest) = group (top.addAll es) outer rest :=
  group_flattenList_of (fun e _ => group_flatten e) h top outer rest

lemma next?_opens {t : Token} (ht : t.Opens) (ts : List Token) :
    next? (t :: ts) = some (group ⟨t.position, []⟩ [] ts) := by
  rw [next?, ht]

lemma next?_closes {t : Token} (ht : t.Closes) (ts : List Token) :
    next? (t :: ts) = some (.error (.unexpectedClose t.position), ts) := by
  rw [next?, ht]

lemma next?_atom {t : Token} (ht : t.IsLeaf) (ts : List Token) :
    next? (t :: ts) = some (.ok (atom t.lexeme), ts) := by
  obtain ⟨ho, hc⟩ := ht
  rw [next?]
  split
  · exact absurd ‹_› ho
  · exact absurd ‹_› hc
  · rfl

/-- Tokens that spell a tree are read as that tree, whatever follows. -/
lemma next?_flatten {e : Expr} {ts : List Token} (h : ts.map symbol = flatten e)
    (rest : List Token) : next? (ts ++ rest) = some (.ok e, rest) := by
  induction e using treeInduction with
  | leaf e he =>
      rw [he] at h
      obtain ⟨t, us, rfl, ht, hus⟩ := List.map_eq_cons_iff.mp h
      obtain rfl := List.map_eq_nil_iff.mp hus
      obtain ⟨hatom, rfl⟩ := symbol_eq_leaf.mp ht
      exact next?_atom hatom rest
  | combination es _ =>
      obtain ⟨o, body, c, rfl, ho, hc, hbody⟩ := map_symbol_eq_combination h
      rw [List.cons_append, List.append_assoc, next?_opens ho, group_flattenList hbody,
        List.singleton_append, group_closes_last hc, Open.close_addAll]

lemma readEach_nil : readEach [] = [] := by
  rw [readEach]
  rfl

lemma eq_nil_of_next? {ts : List Token} (h : next? ts = none) : ts = [] := by
  cases ts with
  | nil => rfl
  | cons t ts =>
      rw [next?] at h
      split at h <;> simp at h

lemma readEach_of_next? {ts rest : List Token} {r : Except SyntaxFault Expr}
    (h : next? ts = some (r, rest)) : readEach ts = r :: readEach rest := by
  rw [readEach]
  split
  · rename_i hnone
    simp [h] at hnone
  · rename_i r' rest' hsome
    obtain ⟨rfl, rfl⟩ : r = r' ∧ rest = rest' := by simpa [h] using hsome
    rfl

/-! ### Parentheses that are never closed -/

/-- After an opening parenthesis: no token closes it. -/
def NeverClosed (ts : List Token) : Prop :=
  ∀ body c rest, ts = body ++ c :: rest → Balanced body → ¬ c.Closes

/-- Otherwise the parenthesis is closed after some complete forms. -/
lemma exists_closes_of_not_neverClosed {ts : List Token} (h : ¬ NeverClosed ts) :
    ∃ body c rest, ts = body ++ c :: rest ∧ Balanced body ∧ c.Closes := by
  simp only [NeverClosed, not_forall, not_not] at h
  obtain ⟨body, c, rest, hts, hbody, hc⟩ := h
  exact ⟨body, c, rest, hts, hbody, hc⟩

/-- Where a parenthesis is never closed, either complete forms follow to the end, or after some of
them another parenthesis that is never closed. -/
lemma NeverClosed.cases {ts : List Token} (h : NeverClosed ts) :
    Balanced ts ∨ ∃ body o us, ts = body ++ o :: us ∧ Balanced body ∧ o.Opens ∧ NeverClosed us := by
  induction hn : ts.length using Nat.strong_induction_on generalizing ts with
  | _ n ih =>
    subst hn
    -- complete forms in front do not matter
    have hskip : ∀ us vs, ts = us ++ vs → us ≠ [] → Balanced us →
        Balanced ts ∨ ∃ body o ws, ts = body ++ o :: ws ∧ Balanced body ∧ o.Opens ∧
          NeverClosed ws := by
      intro us vs hts hne hus
      have hlen : vs.length < ts.length := by
        have hpos := List.length_pos_iff.mpr hne
        rw [hts, List.length_append]
        omega
      have hvs : NeverClosed vs := by
        intro body c rest hbody hb
        exact h (us ++ body) c rest (by rw [hts, hbody, List.append_assoc]) (hus.append hb)
      rcases ih vs.length hlen hvs rfl with hb | ⟨body, o, ws, rfl, hb, ho, hws⟩
      · exact .inl (hts ▸ hus.append hb)
      · exact .inr ⟨us ++ body, o, ws, by rw [hts, List.append_assoc], hus.append hb, ho, hws⟩
    cases ts with
    | nil => exact .inl .nil
    | cons t us =>
        rcases t.opens_or_closes_or_isLeaf with ht | ht | ht
        · by_cases hus : NeverClosed us
          · exact .inr ⟨[], t, us, rfl, .nil, ht, hus⟩
          · obtain ⟨body, c, rest, rfl, hbody, hc⟩ := exists_closes_of_not_neverClosed hus
            exact hskip (t :: (body ++ [c])) rest (by simp) (by simp) (.group ht hc hbody .nil)
        · exact absurd ht (h [] t us rfl .nil)
        · exact hskip [t] us rfl (by simp) (.atom ht .nil)

/-- What holds where complete forms follow to the end, and passes outwards over complete forms and a
parenthesis, holds wherever a parenthesis is never closed. -/
@[elab_as_elim]
theorem NeverClosed.induction {P : List Token → Prop} (balanced : ∀ ts, Balanced ts → P ts)
    (opens : ∀ body o us, Balanced body → o.Opens → P us → P (body ++ o :: us))
    {ts : List Token} (h : NeverClosed ts) : P ts := by
  induction hn : ts.length using Nat.strong_induction_on generalizing ts with
  | _ n ih =>
    subst hn
    rcases h.cases with hb | ⟨body, o, us, rfl, hb, ho, hus⟩
    · exact balanced ts hb
    · have hlen : us.length < (body ++ o :: us).length := by
        rw [List.length_append, List.length_cons]
        omega
      exact opens body o us hb ho (ih us.length hlen hus rfl)

/-- The innermost parenthesis that is open at the end: only complete forms follow it. -/
def Innermost (o : Token) (ts : List Token) : Prop :=
  ∃ pre post, ts = pre ++ o :: post ∧ o.Opens ∧ Balanced post

/-- Inside a parenthesis that is never closed, reading comes to the end, and stops at the innermost
parenthesis that is still open. -/
lemma group_neverClosed {ts : List Token} (h : NeverClosed ts) : ∀ top outer,
    (Balanced ts ∧ group top outer ts = (.error (.unexpectedEnd top.position), [])) ∨
      ∃ o, Innermost o ts ∧ group top outer ts = (.error (.unexpectedEnd o.position), []) := by
  refine NeverClosed.induction (fun ts hb top outer => ?_)
    (fun body o us hb ho ih top outer => ?_) h
  · obtain ⟨es, hes⟩ := hb.exists_flattenList
    refine .inl ⟨hb, ?_⟩
    have hgroup := group_flattenList hes top outer []
    rw [List.append_nil, group, Open.addAll_position] at hgroup
    exact hgroup
  · obtain ⟨es, hes⟩ := hb.exists_flattenList
    have hgroup := group_flattenList hes top outer (o :: us)
    rw [group_opens ho] at hgroup
    rw [hgroup]
    refine .inr ?_
    rcases ih ⟨o.position, []⟩ (top.addAll es :: outer) with
      ⟨hbal, heq⟩ | ⟨o', ⟨pre, post, rfl, ho', hpost⟩, heq⟩
    · exact ⟨o, ⟨body, us, rfl, ho, hbal⟩, heq⟩
    · exact ⟨o', ⟨body ++ o :: pre, post, by simp, ho', hpost⟩, heq⟩

end Form

end PocketScheme
