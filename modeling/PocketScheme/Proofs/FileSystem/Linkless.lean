import PocketScheme.Proofs.FileSystem.Following

/-!
Files without links. A path leads name by name to the place that its components name, through
directories only.

* `FileSystem.Linkless`: nothing is a link;
* `FileSystem.Passes`: components that lead through directories;
* `FileSystem.Linkless.leads_iff`: where paths lead;
* `FileSystem.Linkless.lookup_pathOf_iff`: what the path of a place leads to;
* `FileSystem.Fits.replace`: paths stay short if a name gets shorter.
-/

namespace PocketScheme

open PocketScheme.Path (IsName reach walk components)
open PocketScheme.Manifest (pathOf)

/-! ### Texts of paths -/

namespace Path

lemma intercalate_cons_cons (c d : Text) (cs : List Text) :
    Text.intercalate "/" (c :: d :: cs) = c ++ "/" ++ Text.intercalate "/" (d :: cs) := by
  refine Text.eq_of_toList ?_
  simp [Text.intercalate]

lemma length_bytes_intercalate (cs : List Text) :
    (Text.intercalate "/" cs).bytes.length =
      (cs.flatMap Text.bytes).length + (cs.length - 1) := by
  induction cs with
  | nil => rfl
  | cons c cs ih =>
      cases cs with
      | nil => simp [Text.intercalate]
      | cons d cs =>
          have hslash : (Text.bytes "/").length = 1 := by decide
          rw [intercalate_cons_cons, Text.bytes_append, Text.bytes_append, List.length_append,
            List.length_append, ih, hslash]
          simp only [List.flatMap_cons, List.length_append, List.length_cons]
          omega

lemma mem_intercalate {g : Glyph} {cs : List Text} :
    g ∈ (Text.intercalate "/" cs).toList → g = .char '/' ∨ ∃ c ∈ cs, g ∈ c.toList := by
  induction cs with
  | nil => simp [Text.intercalate]
  | cons c cs ih =>
      cases cs with
      | nil =>
          intro hg
          exact .inr ⟨c, List.mem_singleton_self c, by simpa [Text.intercalate] using hg⟩
      | cons d cs =>
          rw [intercalate_cons_cons, Text.toList_append, Text.toList_append, List.mem_append,
            List.mem_append, slash_toList, List.mem_singleton]
          rintro ((hg | rfl) | hg)
          · exact .inr ⟨c, List.mem_cons_self, hg⟩
          · exact .inl rfl
          · rcases ih hg with rfl | ⟨e, he, hg⟩
            · exact .inl rfl
            · exact .inr ⟨e, List.mem_cons_of_mem _ he, hg⟩

lemma mem_intercalate_of_mem {g : Glyph} {c : Text} {cs : List Text} (hc : c ∈ cs)
    (hg : g ∈ c.toList) : g ∈ (Text.intercalate "/" cs).toList := by
  induction cs with
  | nil => cases hc
  | cons b cs ih =>
      cases cs with
      | nil =>
          obtain rfl := List.mem_singleton.mp hc
          simpa [Text.intercalate] using hg
      | cons d cs =>
          rw [intercalate_cons_cons, Text.toList_append, List.mem_append]
          rcases List.mem_cons.mp hc with rfl | hc
          · exact .inl (List.mem_append_left _ hg)
          · exact .inr (ih hc)

end Path

namespace FileSystem

variable {fs gs : FileSystem} {p q : Place} {e : Entry} {cwd path : Text} {last : Bool}
  {cs ds : List Text}

/-- Whether the system takes the path of a place depends on the bytes of its names. -/
lemma fits_pathOf_iff : Fits (pathOf q) ↔
    (∀ c ∈ q, Glyph.char '\x00' ∉ c.toList) ∧
      1 + (q.flatMap Text.bytes).length + (q.length - 1) < pathLimit := by
  have hnull : Glyph.char '\x00' ∉ (pathOf q).toList ↔ ∀ c ∈ q, Glyph.char '\x00' ∉ c.toList := by
    refine ⟨fun hnull c hc hmem => hnull ?_, fun hnull hmem => ?_⟩
    · exact List.mem_cons_of_mem _ (Path.mem_intercalate_of_mem hc hmem)
    · rcases List.mem_cons.mp hmem with hslash | hmem
      · cases hslash
      · rcases Path.mem_intercalate hmem with hslash | ⟨c, hc, hg⟩
        · cases hslash
        · exact hnull c hc hg
  have hlength : (pathOf q).bytes.length =
      1 + (q.flatMap Text.bytes).length + (q.length - 1) := by
    rw [pathOf, Text.bytes_append, List.length_append, Path.length_bytes_intercalate,
      Nat.add_assoc]
    rfl
  rw [← hnull, ← hlength]
  exact ⟨fun h => ⟨h.null_free, h.length_lt⟩, fun h => ⟨rfl, h.1, h.2⟩⟩

/-- The path of a place stays short if one of its names gets shorter. -/
lemma Fits.replace {a b : Place} {v h : Text} (hfits : Fits (pathOf (a ++ v :: b)))
    (hlength : h.bytes.length ≤ v.bytes.length) (hnull : Glyph.char '\x00' ∉ h.toList) :
    Fits (pathOf (a ++ h :: b)) := by
  rw [fits_pathOf_iff] at hfits ⊢
  simp only [List.forall_mem_append, List.forall_mem_cons, List.flatMap_append,
    List.flatMap_cons, List.length_append, List.length_cons] at hfits ⊢
  exact ⟨⟨hfits.1.1, hnull, hfits.1.2.2⟩, by omega⟩

/-! ### Components -/

/-- Components lead from a place through directories, and each is short enough for a name. -/
def Passes (fs : FileSystem) : Place → List Text → Prop
  | _, [] => True
  | p, c :: cs => fs.get? p = some .directory ∧ c.bytes.length ≤ nameLimit ∧
      Passes fs (Path.step p c) cs

lemma passes_append :
    Passes fs p (cs ++ ds) ↔ Passes fs p cs ∧ Passes fs (walk p cs) ds := by
  induction cs generalizing p with
  | nil => simp [Passes]
  | cons c cs ih =>
      rw [List.cons_append, Passes, Passes, ih, Path.walk_cons]
      tauto

lemma Passes.mono (h : ∀ p, fs.get? p = some .directory → gs.get? p = some .directory)
    (hp : Passes fs p cs) : Passes gs p cs := by
  induction cs generalizing p with
  | nil => trivial
  | cons c cs ih => exact ⟨h p hp.1, hp.2.1, ih hp.2.2⟩

/-- Components from the root pass as those of the path of a place. -/
lemma passes_pathOf (cwd : Text) (hq : ∀ c ∈ q, IsName c) :
    Passes fs (start cwd (pathOf q)) (components (pathOf q)) ↔ Passes fs [] q := by
  rw [start, if_pos (Path.isAbsolute_pathOf q),
    Path.components_pathOf q fun c hc => (hq c hc).slash_free]
  split
  · rename_i hnil
    rw [hnil]
    exact ⟨fun _ => trivial, fun _ => ⟨rfl, by decide, rfl, by decide, trivial⟩⟩
  · rw [Passes, Path.step_empty]
    exact ⟨fun h => h.2.2, fun h => ⟨rfl, by decide, h⟩⟩

/-! ### Files without links -/

/-- Nothing is a link. -/
def Linkless (fs : FileSystem) : Prop :=
  ∀ p t, fs.get? p ≠ some (.link t)

namespace Linkless

lemma of_mem (h : ∀ b ∈ fs, ∀ t, b.2 ≠ .link t) : Linkless fs := by
  intro p t hget
  rw [FileSystem.get?] at hget
  split at hget
  · cases hget
  · obtain ⟨before, after, hsplit, -⟩ := List.lookup_eq_some_iff.mp hget
    exact h (p, .link t) (by simp [hsplit]) t rfl

lemma put (h : Linkless fs) (he : ∀ t, e ≠ .link t) : Linkless (fs.put p e) := by
  intro q t hget
  by_cases hq : q = p
  · subst hq
    by_cases hnil : q = []
    · rw [hnil] at hget
      cases hget
    · rw [get?_put_self hnil] at hget
      exact he t (Option.some.inj hget)
  · rw [get?_put_of_ne hq] at hget
    exact h q t hget

variable (h : Linkless fs)

include h

/-- Components lead to their place if they pass, and otherwise nowhere. -/
lemma advance_cases (last : Bool) (p : Place) (cs : List Text) :
    (Passes fs p cs ∧ fs.advance last p cs = .arrived (fs.spot (walk p cs))) ∨
      (¬ Passes fs p cs ∧ ∃ cause, fs.advance last p cs = .arrived (.nowhere cause)) := by
  induction cs generalizing p with
  | nil => exact .inl ⟨trivial, rfl⟩
  | cons c cs ih =>
      rw [advance, Passes, Path.walk_cons]
      rcases stepFrom_cases fs (last || !cs.isEmpty) p c with
        ⟨hdir, hlength, ⟨t, -, -, hlink⟩ | ⟨hstep, -⟩⟩ | ⟨hnot, cause, hstep⟩
      · exact absurd hlink.2.2 (h _ t)
      · rw [hstep]
        rcases ih (Path.step p c) with ⟨hpasses, hway⟩ | ⟨hpasses, hway⟩
        · exact .inl ⟨⟨hdir, hlength, hpasses⟩, hway⟩
        · exact .inr ⟨fun hall => hpasses hall.2.2, hway⟩
      · rw [hstep]
        exact .inr ⟨fun hall => hnot ⟨hall.1, hall.2.1⟩, cause, rfl⟩

/-- Where a path leads. -/
lemma leads_iff : Leads fs last cwd path q ↔
    Fits path ∧ Passes fs (start cwd path) (components path) ∧ reach cwd path = q := by
  rw [FileSystem.leads_iff]
  refine and_congr_right fun _ => ?_
  rcases h.advance_cases last (start cwd path) (components path) with
    ⟨hpasses, hway⟩ | ⟨hpasses, cause, hway⟩
  · rw [followFrom_of_arrived hway, spot_inj, and_iff_right hpasses]
    rfl
  · rw [followFrom_of_arrived hway]
    exact iff_of_false (fun hspot => spot_ne_nowhere hspot.symm) fun hall => hpasses hall.1

/-- What a path leads to, whether its last name is followed or not. -/
lemma trace_eq_entry_iff : fs.trace last cwd path = .entry q e ↔
    Fits path ∧ Passes fs (start cwd path) (components path) ∧ reach cwd path = q ∧
      fs.get? q = some e := by
  rw [FileSystem.trace_eq_entry_iff, h.leads_iff, and_assoc, and_assoc]

lemma lookup_eq_ok_iff : fs.lookup cwd path = .ok (q, e) ↔
    Fits path ∧ Passes fs (start cwd path) (components path) ∧ reach cwd path = q ∧
      fs.get? q = some e := by
  rw [FileSystem.lookup_eq_ok_iff, h.leads_iff, and_assoc, and_assoc]

/-- What the path of a place leads to. -/
lemma lookup_pathOf_iff (hq : ∀ c ∈ q, IsName c) : fs.lookup cwd (pathOf q) = .ok (p, e) ↔
    Fits (pathOf q) ∧ Passes fs [] q ∧ q = p ∧ fs.get? p = some e := by
  rw [h.lookup_eq_ok_iff, passes_pathOf cwd hq, Path.reach_pathOf cwd hq]

lemma followTo_eq_entry_iff :
    fs.followTo cwd path = .entry q e ↔ fs.lookup cwd path = .ok (q, e) := by
  rw [followTo, h.trace_eq_entry_iff, h.lookup_eq_ok_iff]

end Linkless

end FileSystem

end PocketScheme
