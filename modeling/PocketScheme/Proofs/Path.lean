import PocketScheme.Manifest.Load
import Mathlib.Data.List.Induction
import Mathlib.Tactic.Common

/-!
Paths and the places that they lead to.

* `Path.walk`: the place that components lead to, whatever is stored there;
* `Path.Normal`: the components of clean paths;
* `Path.reach`: the place that a path leads to from a working directory;
* `Path.reach_clean`, `Path.join_name`: cleaning a path does not change where it leads;
* `Path.absolute_eq`: the path from the root is that of the place.
-/

namespace PocketScheme

lemma Text.eq_of_toList {s t : Text} (h : s.toList = t.toList) : s = t := by
  cases s
  cases t
  exact congrArg Text.ofList h

namespace Path

open PocketScheme.Manifest (pathOf)

/-! ### Components -/

lemma slash_toList : Text.toList "/" = [.char '/'] := rfl

lemma split_eq_splitOn (gs : List Glyph) : split gs = gs.splitOn (.char '/') := by
  induction gs with
  | nil => rfl
  | cons g gs ih =>
      rw [split, ih, List.splitOn_cons_eq_if_modifyHead]
      split
      · rfl
      · have hne := List.splitOn_ne_nil (.char '/') gs
        generalize List.splitOn (.char '/') gs = parts at hne ⊢
        cases parts with
        | nil => exact absurd rfl hne
        | cons part parts => rfl

lemma components_ne_nil (p : Text) : components p ≠ [] := by
  rw [components, split_eq_splitOn]
  simp

lemma slash_free_of_mem_split {gs part : List Glyph} (h : part ∈ split gs) :
    Glyph.char '/' ∉ part := by
  induction gs generalizing part with
  | nil =>
      rw [List.mem_singleton.mp h]
      exact List.not_mem_nil
  | cons g gs ih =>
      rw [split] at h
      split at h
      · rcases List.mem_cons.mp h with rfl | h
        · exact List.not_mem_nil
        · exact ih h
      · rename_i hg
        have hg : .char '/' ≠ g := fun heq => hg (by simp [← heq])
        split at h
        · rename_i hsplit
          rcases List.mem_cons.mp h with rfl | h
          · rw [List.mem_cons, not_or]
            exact ⟨hg, ih (hsplit ▸ List.mem_cons_self)⟩
          · exact ih (hsplit ▸ List.mem_cons_of_mem _ h)
        · rw [List.mem_singleton.mp h, List.mem_singleton]
          exact hg

lemma slash_free_of_mem_components {p c : Text} (h : c ∈ components p) :
    Glyph.char '/' ∉ c.toList := by
  obtain ⟨part, hpart, rfl⟩ := List.mem_map.mp h
  exact slash_free_of_mem_split hpart

/-- The components of a path and another one behind it. -/
lemma components_slash (a b : Text) :
    components (a ++ "/" ++ b) = components a ++ components b := by
  rw [components, components, components, split_eq_splitOn, split_eq_splitOn, split_eq_splitOn,
    Text.toList_append, Text.toList_append, slash_toList, List.append_assoc, List.singleton_append,
    List.splitOn_append_cons_self, List.map_append]

lemma components_intercalate {cs : List Text} (hne : cs ≠ [])
    (hcs : ∀ c ∈ cs, Glyph.char '/' ∉ c.toList) : components (Text.intercalate "/" cs) = cs := by
  have hparts : ∀ part ∈ cs.map Text.toList, Glyph.char '/' ∉ part := by
    intro part hpart
    obtain ⟨c, hc, rfl⟩ := List.mem_map.mp hpart
    exact hcs c hc
  rw [components, split_eq_splitOn, Text.intercalate, slash_toList,
    List.splitOn_intercalate _ hparts (by simpa using hne), List.map_map]
  exact List.map_id' cs

lemma components_name {c : Text} (hc : Glyph.char '/' ∉ c.toList) : components c = [c] := by
  rw [components, split_eq_splitOn, List.splitOn_eq_singleton hc]
  rfl

lemma intercalate_concat {cs : List Text} (hne : cs ≠ []) (c : Text) :
    Text.intercalate "/" (cs ++ [c]) = Text.intercalate "/" cs ++ "/" ++ c := by
  refine Text.eq_of_toList ?_
  rw [Text.toList_append, Text.toList_append, slash_toList, Text.intercalate, Text.intercalate,
    slash_toList, List.map_append]
  dsimp only
  induction cs with
  | nil => exact absurd rfl hne
  | cons d cs ih =>
      cases cs with
      | nil => simp [List.intercalate_cons_cons]
      | cons e cs =>
          have ih := ih (List.cons_ne_nil e cs)
          rw [List.map_cons, List.cons_append, List.intercalate_cons_of_ne_nil (by simp), ih,
            List.intercalate_cons_of_ne_nil (by simp)]
          simp

/-! ### Where components lead -/

/-- The place that a component leads to from a place. -/
def step (p : Place) (c : Text) : Place :=
  if c.isEmpty || c == "." then p else if c == ".." then p.dropLast else p ++ [c]

/-- The place that components lead to from a place. -/
def walk (p : Place) (cs : List Text) : Place :=
  cs.foldl step p

@[simp]
lemma step_empty (p : Place) : step p "" = p := rfl

@[simp]
lemma step_here (p : Place) : step p "." = p := rfl

@[simp]
lemma step_up (p : Place) : step p ".." = p.dropLast := rfl

lemma IsName.step {c : Text} (hc : IsName c) (p : Place) : step p c = p ++ [c] := by
  simp [Path.step, hc.nonempty, hc.ne_here, hc.ne_up]

@[simp]
lemma walk_nil (p : Place) : walk p [] = p := rfl

@[simp]
lemma walk_cons (p : Place) (c : Text) (cs : List Text) :
    walk p (c :: cs) = walk (step p c) cs := rfl

lemma walk_append (p : Place) (cs ds : List Text) : walk p (cs ++ ds) = walk (walk p cs) ds :=
  List.foldl_append

lemma walk_names {cs : List Text} (hcs : ∀ c ∈ cs, IsName c) (p : Place) : walk p cs = p ++ cs := by
  induction cs generalizing p with
  | nil => simp
  | cons c cs ih =>
      obtain ⟨hc, hcs⟩ := List.forall_mem_cons.mp hcs
      rw [walk_cons, hc.step, ih hcs, List.append_assoc, List.singleton_append]

/-- A component that stays, one that goes up, or a name. -/
lemma component_cases {c : Text} (hc : Glyph.char '/' ∉ c.toList) :
    (c.isEmpty || c == ".") = true ∨ c = ".." ∨ IsName c := by
  by_cases hstay : (c.isEmpty || c == ".") = true
  · exact .inl hstay
  · by_cases hup : c = ".."
    · exact .inr (.inl hup)
    · simp only [Bool.or_eq_true, beq_iff_eq, not_or, Bool.not_eq_true] at hstay
      exact .inr (.inr ⟨hstay.1, hstay.2, hup, hc⟩)

lemma isName_step {p : Place} {c : Text} (hp : ∀ d ∈ p, IsName d)
    (hc : Glyph.char '/' ∉ c.toList) : ∀ d ∈ step p c, IsName d := by
  rcases component_cases hc with hstay | rfl | hname
  · rw [step, if_pos hstay]
    exact hp
  · exact fun d hd => hp d ((List.dropLast_sublist p).subset hd)
  · rw [hname.step]
    exact List.forall_mem_append.mpr ⟨hp, List.forall_mem_singleton.mpr hname⟩

/-- From a place that is made of names, components lead to another one. -/
lemma isName_walk {p : Place} {cs : List Text} (hp : ∀ d ∈ p, IsName d)
    (hcs : ∀ c ∈ cs, Glyph.char '/' ∉ c.toList) : ∀ d ∈ walk p cs, IsName d := by
  induction cs generalizing p with
  | nil => exact hp
  | cons c cs ih =>
      obtain ⟨hc, hcs⟩ := List.forall_mem_cons.mp hcs
      exact ih (isName_step hp hc) hcs

/-! ### Clean paths -/

/-- The components of a clean path, the last one first: names, and behind them steps upwards if the
path is relative. -/
inductive Normal (rooted : Bool) : List Text → Prop where
  | nil : Normal rooted []
  | name {c : Text} {cs : List Text} (hc : IsName c) (h : Normal rooted cs) :
      Normal rooted (c :: cs)
  | up {cs : List Text} (hrooted : rooted = false) (hcs : ∀ c ∈ cs, c = "..")
      (h : Normal rooted cs) :
      Normal rooted (".." :: cs)

variable {rooted : Bool}

lemma cleanStep_stay {c : Text} (hc : (c.isEmpty || c == ".") = true) (cs : List Text) :
    cleanStep rooted cs c = cs := by
  unfold cleanStep
  rw [if_pos hc]

lemma IsName.cleanStep {c : Text} (hc : IsName c) (cs : List Text) :
    cleanStep rooted cs c = c :: cs := by
  simp [Path.cleanStep, hc.nonempty, hc.ne_here, hc.ne_up]

/-- Cleaning goes on with clean components, and leads where the components lead. -/
lemma Normal.cleanStep {cs : List Text} (h : Normal rooted cs) {c : Text}
    (hc : Glyph.char '/' ∉ c.toList) {p : Place} (hp : rooted = true → p = []) :
    Normal rooted (cleanStep rooted cs c) ∧
      walk p (Path.cleanStep rooted cs c).reverse = step (walk p cs.reverse) c := by
  rcases component_cases hc with hstay | rfl | hname
  · rw [cleanStep_stay hstay, step, if_pos hstay]
    exact ⟨h, rfl⟩
  · cases h with
    | nil =>
        cases rooted with
        | true =>
            rw [hp rfl]
            exact ⟨.nil, rfl⟩
        | false => exact ⟨.up rfl (by simp) .nil, rfl⟩
    | @name d cs hd h =>
        have hstep : Path.cleanStep rooted (d :: cs) ".." = cs := by
          unfold Path.cleanStep
          rw [if_neg (by decide), if_pos (by decide)]
          simp [hd.ne_up]
        rw [hstep, List.reverse_cons, walk_append, walk_cons, walk_nil, hd.step, step_up,
          List.dropLast_concat]
        exact ⟨h, rfl⟩
    | @up cs hrooted hcs h =>
        refine ⟨.up hrooted (List.forall_mem_cons.mpr ⟨rfl, hcs⟩) (.up hrooted hcs h), ?_⟩
        rw [show Path.cleanStep rooted _ ".." = (".." : Text) :: ".." :: cs from rfl,
          List.reverse_cons, walk_append]
        rfl
  · rw [hname.cleanStep, List.reverse_cons, walk_append]
    exact ⟨.name hname h, rfl⟩

lemma Normal.foldl {cs ds : List Text} (h : Normal rooted cs)
    (hds : ∀ d ∈ ds, Glyph.char '/' ∉ d.toList) {p : Place} (hp : rooted = true → p = []) :
    Normal rooted (ds.foldl (Path.cleanStep rooted) cs) ∧
      walk p (ds.foldl (Path.cleanStep rooted) cs).reverse = walk (walk p cs.reverse) ds := by
  induction ds generalizing cs with
  | nil => exact ⟨h, rfl⟩
  | cons d ds ih =>
      obtain ⟨hd, hds⟩ := List.forall_mem_cons.mp hds
      obtain ⟨hnormal, hwalk⟩ := h.cleanStep hd hp
      rw [walk_cons, ← hwalk]
      exact ih hnormal hds

lemma normal_cleanComponents (p : Text) : Normal (isAbsolute p) (cleanComponents p).reverse := by
  rw [cleanComponents, List.reverse_reverse]
  exact (Normal.nil.foldl (fun _ => slash_free_of_mem_components) (fun _ => rfl)).1

lemma walk_cleanComponents (p : Text) {q : Place} (hq : isAbsolute p = true → q = []) :
    walk q (cleanComponents p) = walk q (components p) :=
  (Normal.nil.foldl (fun _ => slash_free_of_mem_components) hq).2

lemma Normal.of_append {cs ds : List Text} (h : Normal rooted (ds ++ cs)) : Normal rooted cs := by
  induction ds with
  | nil => exact h
  | cons d ds ih =>
      cases h with
      | name _ h => exact ih h
      | up _ _ h => exact ih h

/-- Cleaning leaves clean components as they are. -/
lemma Normal.foldl_reverse {cs : List Text} (h : Normal rooted cs) :
    cs.reverse.foldl (Path.cleanStep rooted) [] = cs := by
  induction h with
  | nil => rfl
  | name hc _ ih =>
      rw [List.reverse_cons, List.foldl_append, ih, List.foldl_cons, hc.cleanStep]
      rfl
  | @up cs hrooted hcs _ ih =>
      rw [List.reverse_cons, List.foldl_append, ih]
      cases cs with
      | nil => rw [hrooted]; rfl
      | cons c cs => rw [hcs c List.mem_cons_self]; rfl

lemma Normal.isName {cs : List Text} (h : Normal true cs) : ∀ c ∈ cs, IsName c := by
  induction cs with
  | nil => simp
  | cons c cs ih =>
      cases h with
      | name hc h => exact List.forall_mem_cons.mpr ⟨hc, ih h⟩
      | up hrooted => cases hrooted

lemma Normal.slash_free {cs : List Text} (h : Normal rooted cs) :
    ∀ c ∈ cs, Glyph.char '/' ∉ c.toList := by
  induction h with
  | nil => simp
  | name hc _ ih => exact List.forall_mem_cons.mpr ⟨hc.slash_free, ih⟩
  | up _ _ _ ih => exact List.forall_mem_cons.mpr ⟨by decide, ih⟩

lemma Normal.nonempty {cs : List Text} (h : Normal rooted cs) : ∀ c ∈ cs, c.isEmpty = false := by
  induction h with
  | nil => simp
  | name hc _ ih => exact List.forall_mem_cons.mpr ⟨hc.nonempty, ih⟩
  | up _ _ _ ih => exact List.forall_mem_cons.mpr ⟨rfl, ih⟩

lemma slash_free_cleanComponents (p : Text) :
    ∀ c ∈ cleanComponents p, Glyph.char '/' ∉ c.toList :=
  fun c hc => (normal_cleanComponents p).slash_free c (List.mem_reverse.mpr hc)

lemma isName_cleanComponents {p : Text} (hp : isAbsolute p = true) :
    ∀ c ∈ cleanComponents p, IsName c := by
  have h := normal_cleanComponents p
  rw [hp] at h
  exact fun c hc => h.isName c (List.mem_reverse.mpr hc)

lemma cleanComponents_of_isAbsolute {p : Text} (hp : isAbsolute p = true) :
    cleanComponents p = walk [] (components p) := by
  rw [← walk_cleanComponents p fun _ => rfl, walk_names (isName_cleanComponents hp),
    List.nil_append]

lemma isAbsolute_slash {p : Text} (hp : p.isEmpty = false) (t : Text) :
    isAbsolute (p ++ "/" ++ t) = isAbsolute p := by
  obtain ⟨gs⟩ := p
  cases gs with
  | nil => cases hp
  | cons g gs => rfl

lemma isEmpty_of_isAbsolute {p : Text} (hp : isAbsolute p = true) : p.isEmpty = false := by
  obtain ⟨gs⟩ := p
  cases gs with
  | nil => cases hp
  | cons g gs => rfl

lemma intercalate_pair (a b : Text) : Text.intercalate "/" [a, b] = a ++ "/" ++ b :=
  intercalate_concat (List.cons_ne_nil a []) b |>.trans (by simp [Text.intercalate])

lemma join_pair {a b : Text} (ha : a.isEmpty = false) (hb : b.isEmpty = false) :
    join [a, b] = clean (a ++ "/" ++ b) := by
  simp [join, ha, hb, intercalate_pair]

/-- The first component of a text of components is at its front. -/
lemma head?_intercalate {c : Text} (hc : c.isEmpty = false) (cs : List Text) :
    (Text.intercalate "/" (c :: cs)).toList.head? = c.toList.head? := by
  obtain ⟨gs⟩ := c
  cases gs with
  | nil => cases hc
  | cons g gs => simp [Text.intercalate]

lemma isEmpty_intercalate {c : Text} (hc : c.isEmpty = false) (cs : List Text) :
    (Text.intercalate "/" (c :: cs)).isEmpty = false := by
  obtain ⟨gs⟩ := c
  cases gs with
  | nil => cases hc
  | cons g gs => simp [Text.intercalate, Text.isEmpty]

lemma isAbsolute_intercalate {c : Text} (hc : c.isEmpty = false)
    (hslash : Glyph.char '/' ∉ c.toList)
    (cs : List Text) : isAbsolute (Text.intercalate "/" (c :: cs)) = false := by
  rw [isAbsolute, head?_intercalate hc, beq_eq_false_iff_ne]
  exact fun h => hslash (List.mem_of_head? h)

lemma intercalate_append_isPrefix {cs : List Text} (hne : cs ≠ []) (ds : List Text) :
    (Text.intercalate "/" cs).toList <+: (Text.intercalate "/" (cs ++ ds)).toList := by
  induction ds using List.reverseRecOn with
  | nil => simp
  | append_singleton ds d ih =>
      rw [← List.append_assoc, intercalate_concat (by simp [hne]), Text.toList_append,
        Text.toList_append, List.append_assoc]
      exact ih.trans (List.prefix_append _ _)

/-- What a clean path looks like, and its components. -/
lemma clean_cases (p : Text) :
    (isAbsolute p = true ∧ clean p = pathOf (cleanComponents p)) ∨
      (isAbsolute p = false ∧ cleanComponents p = [] ∧ clean p = ".") ∨
      (isAbsolute p = false ∧ cleanComponents p ≠ [] ∧
        clean p = Text.intercalate "/" (cleanComponents p) ∧ isAbsolute (clean p) = false) := by
  rw [clean]
  cases hp : isAbsolute p with
  | true => exact .inl ⟨rfl, rfl⟩
  | false =>
      have hnonempty : ∀ c ∈ cleanComponents p, c.isEmpty = false := fun c hc =>
        (normal_cleanComponents p).nonempty c (List.mem_reverse.mpr hc)
      have hslash := slash_free_cleanComponents p
      cases hcs : cleanComponents p with
      | nil => exact .inr (.inl ⟨rfl, rfl, rfl⟩)
      | cons c cs =>
          rw [hcs] at hnonempty hslash
          have hc := hnonempty c List.mem_cons_self
          have hbody := isEmpty_intercalate hc cs
          have habs := isAbsolute_intercalate hc (hslash c List.mem_cons_self) cs
          exact .inr (.inr ⟨rfl, by simp, by simp [hbody], by simp [hbody, habs]⟩)

lemma components_pathOf (q : Place) (hq : ∀ c ∈ q, Glyph.char '/' ∉ c.toList) :
    components (pathOf q) = ("" : Text) :: if q = [] then [""] else q := by
  have hpath : pathOf q = "" ++ "/" ++ Text.intercalate "/" q := rfl
  rw [hpath, components_slash]
  split
  · rename_i hnil
    rw [hnil]
    rfl
  · rename_i hne
    rw [components_intercalate hne hq]
    rfl

@[simp]
lemma isAbsolute_clean (p : Text) : isAbsolute (clean p) = isAbsolute p := by
  rcases clean_cases p with ⟨hp, hclean⟩ | ⟨hp, -, hclean⟩ | ⟨hp, -, -, hclean⟩
  · rw [hp, hclean]
    rfl
  · rw [hp, hclean]
    rfl
  · rw [hp, hclean]

@[simp]
lemma cleanComponents_clean (p : Text) : cleanComponents (clean p) = cleanComponents p := by
  have hnormal := (normal_cleanComponents p).foldl_reverse
  rw [List.reverse_reverse] at hnormal
  rw [cleanComponents, isAbsolute_clean, List.reverse_eq_iff]
  rcases clean_cases p with ⟨hp, hclean⟩ | ⟨hp, hnil, hclean⟩ | ⟨hp, hne, hclean, -⟩
  · rw [hclean, components_pathOf _ (slash_free_cleanComponents p)]
    split
    · rename_i hnil
      rw [hnil]
      rfl
    · exact hnormal
  · rw [hclean, hnil, hp]
    rfl
  · rw [hclean, components_intercalate hne (slash_free_cleanComponents p)]
    exact hnormal

lemma clean_clean (p : Text) : clean (clean p) = clean p := by
  rw [clean, isAbsolute_clean, cleanComponents_clean, ← clean]

lemma cleanComponents_slash_name {a n : Text} (ha : a.isEmpty = false) (hn : IsName n) :
    cleanComponents (a ++ "/" ++ n) = cleanComponents a ++ [n] := by
  have habs := isAbsolute_slash ha n
  rw [cleanComponents, habs, components_slash, components_name hn.slash_free, List.foldl_append,
    List.foldl_cons, hn.cleanStep, List.foldl_nil, List.reverse_cons, ← cleanComponents]

/-- A name behind a clean path. -/
lemma clean_slash_name {a n : Text} (ha : a.isEmpty = false) (hne : cleanComponents a ≠ [])
    (hn : IsName n) : clean (a ++ "/" ++ n) = clean a ++ "/" ++ n := by
  have habs := isAbsolute_slash ha n
  have hcs := cleanComponents_slash_name ha hn
  rcases clean_cases (a ++ "/" ++ n) with ⟨hp, hclean⟩ | ⟨-, hnil, -⟩ | ⟨hp, -, hclean, -⟩
  · rcases clean_cases a with ⟨-, hclean'⟩ | ⟨hp', -⟩ | ⟨hp', -⟩
    · rw [hclean, hclean', hcs, pathOf, pathOf, intercalate_concat hne]
      exact Text.eq_of_toList (by simp)
    · rw [habs, hp'] at hp
      cases hp
    · rw [habs, hp'] at hp
      cases hp
  · rw [hcs] at hnil
    simp at hnil
  · rcases clean_cases a with ⟨hp', -⟩ | ⟨-, hnil, -⟩ | ⟨-, -, hclean', -⟩
    · rw [habs, hp'] at hp
      cases hp
    · exact absurd hnil hne
    · rw [hclean, hclean', hcs, intercalate_concat hne]

lemma isEmpty_clean (p : Text) : (clean p).isEmpty = false := by
  rcases clean_cases p with ⟨-, hclean⟩ | ⟨-, -, hclean⟩ | ⟨-, hne, hclean, -⟩
  · rw [hclean]
    rfl
  · rw [hclean]
    rfl
  · obtain ⟨c, cs, hcs⟩ := List.exists_cons_of_ne_nil hne
    have hc : c.isEmpty = false :=
      (normal_cleanComponents p).nonempty c (List.mem_reverse.mpr (hcs ▸ List.mem_cons_self))
    rw [hclean, hcs]
    exact isEmpty_intercalate hc cs

lemma join_name {a n : Text} (hne : cleanComponents a ≠ []) (hn : IsName n) :
    join [clean a, n] = clean a ++ "/" ++ n := by
  rw [join_pair (isEmpty_clean a) hn.nonempty,
    clean_slash_name (isEmpty_clean a) (by simpa using hne) hn, clean_clean]

/-! ### Where paths lead -/

/-- The place that a path leads to from the working directory `cwd`. -/
def reach (cwd p : Text) : Place :=
  walk (if isAbsolute p then [] else FileSystem.placeOf cwd) (components p)

lemma reach_clean (cwd p : Text) : reach cwd (clean p) = reach cwd p := by
  rw [reach, reach, isAbsolute_clean]
  have hstart : isAbsolute p = true → (if isAbsolute p then [] else FileSystem.placeOf cwd) = [] :=
    fun h => if_pos h
  rw [← walk_cleanComponents (clean p) (by simpa using hstart), cleanComponents_clean,
    walk_cleanComponents p hstart]

lemma reach_slash {cwd a : Text} (ha : a.isEmpty = false) (b : Text) :
    reach cwd (a ++ "/" ++ b) = walk (reach cwd a) (components b) := by
  rw [reach, isAbsolute_slash ha, components_slash, walk_append, ← reach]

lemma reach_slash_name {cwd a n : Text} (ha : a.isEmpty = false) (hn : IsName n) :
    reach cwd (a ++ "/" ++ n) = reach cwd a ++ [n] := by
  rw [reach_slash ha, components_name hn.slash_free, walk_cons, walk_nil, hn.step]

/-- A clean path from the root is that of the place that it leads to. -/
lemma clean_of_isAbsolute {p : Text} (hp : isAbsolute p = true) :
    clean p = pathOf (walk [] (components p)) := by
  rw [← cleanComponents_of_isAbsolute hp, clean, if_pos hp]
  rfl

lemma absolute_eq {cwd : Text} (hcwd : isAbsolute cwd = true) (p : Text) :
    absolute cwd p = pathOf (reach cwd p) := by
  rw [absolute, reach]
  cases hp : isAbsolute p with
  | true => exact clean_of_isAbsolute hp
  | false =>
      have hcwd' := isEmpty_of_isAbsolute hcwd
      rw [if_neg (by simp), if_neg (by simp), FileSystem.placeOf,
        cleanComponents_of_isAbsolute hcwd]
      cases hempty : p.isEmpty with
      | true =>
          obtain rfl : p = "" := Text.eq_of_toList (List.isEmpty_iff.mp hempty)
          have hjoin : join [cwd, ""] = clean cwd := by
            simp [join, hcwd', hempty, Text.intercalate]
          rw [hjoin, clean_of_isAbsolute hcwd]
          rfl
      | false =>
          rw [join_pair hcwd' hempty, clean_of_isAbsolute (by rw [isAbsolute_slash hcwd', hcwd]),
            components_slash, walk_append]

lemma walk_pathOf {q : Place} (hq : ∀ c ∈ q, IsName c) : walk [] (components (pathOf q)) = q := by
  rw [components_pathOf q fun c hc => (hq c hc).slash_free]
  split
  · rename_i hnil
    rw [hnil]
    rfl
  · rw [walk_cons, step_empty, walk_names hq, List.nil_append]

lemma isAbsolute_pathOf (q : Place) : isAbsolute (pathOf q) = true := rfl

lemma reach_pathOf (cwd : Text) {q : Place} (hq : ∀ c ∈ q, IsName c) :
    reach cwd (pathOf q) = q := by
  rw [reach, if_pos (isAbsolute_pathOf q), walk_pathOf hq]

lemma isName_reach {cwd : Text} (hcwd : isAbsolute cwd = true) (p : Text) :
    ∀ c ∈ reach cwd p, IsName c := by
  refine isName_walk ?_ fun c => slash_free_of_mem_components
  split
  · simp
  · exact isName_cleanComponents hcwd

lemma join_pathOf {q : Place} (hq : ∀ c ∈ q, IsName c) {p : Text} (hp : p.isEmpty = false) :
    join [pathOf q, p] = pathOf (walk q (components p)) := by
  rw [join_pair rfl hp, clean_of_isAbsolute rfl, components_slash, walk_append, walk_pathOf hq]

/-- The directory of what is at a place. -/
lemma dir_pathOf {q : Place} (hq : ∀ c ∈ q, IsName c) {n : Text} (hn : IsName n) :
    dir (pathOf (q ++ [n])) = pathOf q := by
  obtain ⟨front, hfront, habs, hwalk⟩ : ∃ front : Text, pathOf (q ++ [n]) = front ++ "/" ++ n ∧
      isAbsolute (front ++ "/" ++ "") = true ∧ walk [] (components front) = q := by
    cases q with
    | nil => exact ⟨"", by simp [pathOf, Text.intercalate]; rfl, rfl, rfl⟩
    | cons c q =>
        refine ⟨pathOf (c :: q), ?_, rfl, walk_pathOf hq⟩
        rw [pathOf, intercalate_concat (List.cons_ne_nil c q)]
        exact Text.eq_of_toList (by simp [pathOf])
  have hkept : (front ++ "/" ++ n).toList.reverse.dropWhile (· != .char '/') =
      (front ++ "/" ++ "").toList.reverse := by
    have hn' : ∀ g ∈ n.toList.reverse, (g != .char '/') = true := by
      intro g hg
      rw [bne_iff_ne]
      rintro rfl
      exact hn.slash_free (List.mem_reverse.mp hg)
    rw [Text.toList_append, List.reverse_append, List.dropWhile_append_of_pos hn']
    simp [Text.ofString, Text.ofChars]
  rw [dir, hfront, hkept, List.reverse_reverse, clean_of_isAbsolute habs, components_slash,
    walk_append, hwalk]
  rfl

end Path

end PocketScheme
