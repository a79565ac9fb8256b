import PocketScheme.Proofs.FileSystem.Entries
import PocketScheme.Proofs.Path

/-!
Where paths lead.

* `FileSystem.Leads`: the path leads to a place;
* `FileSystem.followFrom_append`: names behind other names start where those lead;
* `FileSystem.Leads.of_ways`: a path leads to the same place as long as directories and links stay;
* `FileSystem.InDir`: the path of a name in a directory leads to a place in that directory.
-/

namespace PocketScheme.FileSystem

open PocketScheme.Path (components IsName)

variable {fs gs : FileSystem} {p q : Place} {e : Entry} {last : Bool} {cs ds : List Text}
  {c cwd path : Text} {cause : PathCause}

/-! ### What is found -/

lemma spot_eq_entry_iff : fs.spot p = .entry q e ↔ p = q ∧ fs.get? q = some e := by
  rw [spot]
  cases hp : fs.get? p with
  | none =>
      refine iff_of_false (by simp) ?_
      rintro ⟨rfl, hq⟩
      rw [hp] at hq
      cases hq
  | some f =>
      rw [Found.entry.injEq]
      constructor
      · rintro ⟨rfl, rfl⟩
        exact ⟨rfl, hp⟩
      · rintro ⟨rfl, hq⟩
        rw [hp] at hq
        exact ⟨rfl, Option.some.inj hq⟩

lemma spot_eq_free_iff : fs.spot p = .free q ↔ p = q ∧ fs.get? q = none := by
  rw [spot]
  cases hp : fs.get? p with
  | none =>
      rw [Found.free.injEq]
      constructor
      · rintro rfl
        exact ⟨rfl, hp⟩
      · exact And.left
  | some f =>
      refine iff_of_false (by simp) ?_
      rintro ⟨rfl, hq⟩
      rw [hp] at hq
      cases hq

lemma spot_ne_nowhere : fs.spot p ≠ .nowhere cause := by
  rw [spot]
  split <;> simp

lemma spot_inj : fs.spot p = fs.spot q ↔ p = q := by
  refine ⟨fun h => ?_, fun h => by rw [h]⟩
  cases hq : fs.get? q with
  | none => exact (spot_eq_free_iff.mp (h.trans (spot_eq_free_iff.mpr ⟨rfl, hq⟩))).1
  | some e => exact (spot_eq_entry_iff.mp (h.trans (spot_eq_entry_iff.mpr ⟨rfl, hq⟩))).1

/-! ### Names -/

lemma length_le_of_stay (hc : (c.isEmpty || c == ".") = true) : c.bytes.length ≤ nameLimit := by
  rcases (Bool.or_eq_true _ _).mp hc with hc | hc
  · rw [Text.bytes, List.isEmpty_iff.mp hc]
    decide
  · rw [beq_iff_eq.mp hc]
    decide

/-- A name leads from a place to a link. -/
def LinkAt (fs : FileSystem) (p : Place) (c t : Text) : Prop :=
  (c.isEmpty || c == ".") = false ∧ c ≠ ".." ∧ fs.get? (p ++ [c]) = some (.link t)

lemma LinkAt.step_eq {t : Text} (h : LinkAt fs p c t) : Path.step p c = p ++ [c] := by
  rw [Path.step, if_neg (by simp [h.1]), if_neg (by simpa using h.2.1)]

/-- All that a step can come to. -/
lemma stepFrom_cases (fs : FileSystem) (through : Bool) (p : Place) (c : Text) :
    (fs.get? p = some .directory ∧ c.bytes.length ≤ nameLimit ∧
      ((∃ t, fs.stepFrom through p c = .link t ∧ through = true ∧ LinkAt fs p c t) ∨
        (fs.stepFrom through p c = .place (Path.step p c) ∧
          (through = true → ∀ t, ¬ LinkAt fs p c t)))) ∨
    (¬ (fs.get? p = some .directory ∧ c.bytes.length ≤ nameLimit) ∧
      ∃ cause, fs.stepFrom through p c = .nowhere cause) := by
  rw [stepFrom]
  by_cases hp : fs.get? p = some .directory
  · rw [hp, Path.step]
    dsimp only
    by_cases hstay : (c.isEmpty || c == ".") = true
    · rw [if_pos hstay, if_pos hstay]
      exact .inl ⟨rfl, length_le_of_stay hstay, .inr ⟨rfl, fun _ t h => by simp [h.1] at hstay⟩⟩
    · rw [if_neg hstay, if_neg hstay]
      by_cases hup : (c == "..") = true
      · rw [if_pos hup, if_pos hup]
        have hlength : c.bytes.length ≤ nameLimit := by
          rw [beq_iff_eq.mp hup]
          decide
        exact .inl ⟨rfl, hlength, .inr ⟨rfl, fun _ t h => h.2.1 (beq_iff_eq.mp hup)⟩⟩
      · rw [if_neg hup, if_neg hup]
        by_cases hlength : nameLimit < c.bytes.length
        · rw [if_pos hlength]
          exact .inr ⟨by omega, _, rfl⟩
        · rw [if_neg hlength]
          refine .inl ⟨rfl, Nat.le_of_not_lt hlength, ?_⟩
          split
          · rename_i t hlink
            cases through with
            | true => exact .inl ⟨t, rfl, rfl, by simpa using hstay, by simpa using hup, hlink⟩
            | false => exact .inr ⟨rfl, by simp⟩
          · rename_i hlink
            exact .inr ⟨rfl, fun _ t h => hlink t h.2.2⟩
  · refine .inr ⟨fun h => hp h.1, ?_⟩
    split
    · exact absurd ‹_› hp
    all_goals exact ⟨_, rfl⟩

lemma stepFrom_eq_place_iff {through : Bool} : fs.stepFrom through p c = .place q ↔
    fs.get? p = some .directory ∧ c.bytes.length ≤ nameLimit ∧ Path.step p c = q ∧
      (through = true → ∀ t, ¬ LinkAt fs p c t) := by
  rcases stepFrom_cases fs through p c with
    ⟨hp, hc, ⟨t, hstep, hthrough, hlink⟩ | ⟨hstep, hlink⟩⟩ | ⟨hp, cause, hstep⟩
  · rw [hstep]
    exact iff_of_false (by simp) fun h => h.2.2.2 hthrough t hlink
  · rw [hstep, Step.place.injEq]
    exact ⟨fun h => ⟨hp, hc, h, hlink⟩, fun h => h.2.2.1⟩
  · rw [hstep]
    exact iff_of_false (by simp) fun h => hp ⟨h.1, h.2.1⟩

lemma stepFrom_eq_link_iff {through : Bool} {t : Text} : fs.stepFrom through p c = .link t ↔
    fs.get? p = some .directory ∧ c.bytes.length ≤ nameLimit ∧ through = true ∧
      LinkAt fs p c t := by
  rcases stepFrom_cases fs through p c with
    ⟨hp, hc, ⟨u, hstep, hthrough, hlink⟩ | ⟨hstep, hlink⟩⟩ | ⟨hp, cause, hstep⟩
  · rw [hstep, Step.link.injEq]
    constructor
    · rintro rfl
      exact ⟨hp, hc, hthrough, hlink⟩
    · rintro ⟨-, -, -, h⟩
      have heq := hlink.2.2.symm.trans h.2.2
      simpa using heq
  · rw [hstep]
    exact iff_of_false (by simp) fun h => hlink h.2.2.1 t h.2.2.2
  · rw [hstep]
    exact iff_of_false (by simp) fun h => hp ⟨h.1, h.2.1⟩

/-- Names lead to a place, to a link, or nowhere. -/
lemma advance_cases (fs : FileSystem) (last : Bool) (p : Place) (cs : List Text) :
    (∃ q, fs.advance last p cs = .arrived (fs.spot q)) ∨
      (∃ around t rest, fs.advance last p cs = .link around t rest) ∨
      ∃ cause, fs.advance last p cs = .arrived (.nowhere cause) := by
  induction cs generalizing p with
  | nil => exact .inl ⟨p, rfl⟩
  | cons c cs ih =>
      rw [advance]
      split
      · exact ih _
      · exact .inr (.inl ⟨_, _, _, rfl⟩)
      · exact .inr (.inr ⟨_, rfl⟩)

lemma followFrom_of_arrived {n : Nat} {found : Found} (h : fs.advance last p cs = .arrived found) :
    fs.followFrom last n p cs = found := by
  cases n <;> rw [followFrom, h]

/-- The place that a link starts from. -/
def linkStart (around : Place) (t : Text) : Place :=
  if Path.isAbsolute t then [] else around

lemma followFrom_of_link {n : Nat} {around : Place} {t : Text} {rest : List Text}
    (h : fs.advance last p cs = .link around t rest) :
    fs.followFrom last (n + 1) p cs =
      fs.followFrom last n (linkStart around t) (components t ++ rest) := by
  rw [followFrom, h]
  rfl

lemma followFrom_zero_of_link {around : Place} {t : Text} {rest : List Text}
    (h : fs.advance last p cs = .link around t rest) :
    fs.followFrom last 0 p cs = .nowhere .loop := by
  rw [followFrom, h]

lemma followFrom_cases (fs : FileSystem) (last : Bool) (n : Nat) (p : Place) (cs : List Text) :
    (∃ q, fs.followFrom last n p cs = fs.spot q) ∨
      ∃ cause, fs.followFrom last n p cs = .nowhere cause := by
  induction n generalizing p cs with
  | zero =>
      rcases advance_cases fs last p cs with ⟨q, h⟩ | ⟨around, t, rest, h⟩ | ⟨cause, h⟩
      · exact .inl ⟨q, followFrom_of_arrived h⟩
      · exact .inr ⟨.loop, followFrom_zero_of_link h⟩
      · exact .inr ⟨cause, followFrom_of_arrived h⟩
  | succ n ih =>
      rcases advance_cases fs last p cs with ⟨q, h⟩ | ⟨around, t, rest, h⟩ | ⟨cause, h⟩
      · exact .inl ⟨q, followFrom_of_arrived h⟩
      · rw [followFrom_of_link h]
        exact ih _ _
      · exact .inr ⟨cause, followFrom_of_arrived h⟩

/-! ### Names behind other names -/

lemma advance_append_of_arrived (hds : ds ≠ []) (h : fs.advance true p cs = .arrived (fs.spot q)) :
    fs.advance last p (cs ++ ds) = fs.advance last q ds := by
  induction cs generalizing p with
  | nil =>
      have hpq : p = q := spot_inj.mp (Way.arrived.inj h)
      rw [hpq, List.nil_append]
  | cons c cs ih =>
      have hnonempty : (last || !(cs ++ ds).isEmpty) = true := by simp [hds]
      rw [List.cons_append, advance, hnonempty]
      rw [advance, Bool.true_or] at h
      split at h
      · exact ih h
      · cases h
      · exact absurd (Way.arrived.inj h).symm spot_ne_nowhere

lemma advance_append_of_link {around : Place} {t : Text} {rest : List Text} (hds : ds ≠ [])
    (h : fs.advance true p cs = .link around t rest) :
    fs.advance last p (cs ++ ds) = .link around t (rest ++ ds) := by
  induction cs generalizing p with
  | nil => cases h
  | cons c cs ih =>
      have hnonempty : (last || !(cs ++ ds).isEmpty) = true := by simp [hds]
      rw [List.cons_append, advance, hnonempty]
      rw [advance, Bool.true_or] at h
      split at h
      · exact ih h
      · cases h
        rfl
      · cases h

lemma advance_append_of_nowhere (hds : ds ≠ [])
    (h : fs.advance true p cs = .arrived (.nowhere cause)) :
    fs.advance last p (cs ++ ds) = .arrived (.nowhere cause) := by
  induction cs generalizing p with
  | nil => exact absurd (Way.arrived.inj h) spot_ne_nowhere
  | cons c cs ih =>
      have hnonempty : (last || !(cs ++ ds).isEmpty) = true := by simp [hds]
      rw [List.cons_append, advance, hnonempty]
      rw [advance, Bool.true_or] at h
      split at h
      · exact ih h
      · cases h
      · exact h

/-- Names behind other names start where those lead, with the links that are left. -/
lemma followFrom_append (fs : FileSystem) (last : Bool) (hds : ds ≠ []) (n : Nat) (p : Place)
    (cs : List Text) :
    (∃ q k, fs.followFrom true n p cs = fs.spot q ∧
      fs.followFrom last n p (cs ++ ds) = fs.followFrom last k q ds) ∨
    ∃ cause, fs.followFrom true n p cs = .nowhere cause ∧
      fs.followFrom last n p (cs ++ ds) = .nowhere cause := by
  induction n generalizing p cs with
  | zero =>
      rcases advance_cases fs true p cs with ⟨q, h⟩ | ⟨around, t, rest, h⟩ | ⟨cause, h⟩
      · refine .inl ⟨q, 0, followFrom_of_arrived h, ?_⟩
        rw [followFrom, advance_append_of_arrived hds h, followFrom]
      · exact .inr ⟨.loop, followFrom_zero_of_link h,
          followFrom_zero_of_link (advance_append_of_link hds h)⟩
      · exact .inr ⟨cause, followFrom_of_arrived h,
          followFrom_of_arrived (advance_append_of_nowhere hds h)⟩
  | succ n ih =>
      rcases advance_cases fs true p cs with ⟨q, h⟩ | ⟨around, t, rest, h⟩ | ⟨cause, h⟩
      · refine .inl ⟨q, n + 1, followFrom_of_arrived h, ?_⟩
        rw [followFrom, advance_append_of_arrived hds h, followFrom]
      · rw [followFrom_of_link h, followFrom_of_link (advance_append_of_link hds h),
          ← List.append_assoc]
        exact ih _ _
      · exact .inr ⟨cause, followFrom_of_arrived h,
          followFrom_of_arrived (advance_append_of_nowhere hds h)⟩

/-- What a component that stays leads to. -/
lemma followFrom_stay {n : Nat} (hc : (c.isEmpty || c == ".") = true) :
    fs.followFrom last n p [c] = fs.spot q ↔ p = q ∧ fs.get? q = some .directory := by
  have hstep : Path.step p c = p := if_pos hc
  rcases stepFrom_cases fs (last || !([] : List Text).isEmpty) p c with
    ⟨hp, -, ⟨t, -, -, hlink⟩ | ⟨hplace, -⟩⟩ | ⟨hp, cause, hnowhere⟩
  · simp [hlink.1] at hc
  · have harrived : fs.advance last p [c] = .arrived (fs.spot p) := by
      rw [advance, hplace, hstep]
      rfl
    rw [followFrom_of_arrived harrived, spot_inj]
    constructor
    · rintro rfl
      exact ⟨rfl, hp⟩
    · exact And.left
  · have harrived : fs.advance last p [c] = .arrived (.nowhere cause) := by
      rw [advance, hnowhere]
    rw [followFrom_of_arrived harrived]
    refine iff_of_false (fun h => spot_ne_nowhere h.symm) ?_
    rintro ⟨rfl, hdirectory⟩
    exact hp ⟨hdirectory, length_le_of_stay hc⟩

/-- The last component is a step from a directory. -/
lemma of_followFrom_concat {n : Nat} (h : fs.followFrom last n p (cs ++ [c]) = fs.spot q) :
    ∃ dir, fs.followFrom true n p cs = fs.spot dir ∧ fs.get? dir = some .directory ∧
      c.bytes.length ≤ nameLimit ∧
      ((last = true → ∀ t, ¬ LinkAt fs dir c t) → q = Path.step dir c) := by
  rcases followFrom_append fs last (List.cons_ne_nil c []) n p cs with
    ⟨dir, k, hfront, happend⟩ | ⟨cause, -, happend⟩
  · rw [happend] at h
    rcases stepFrom_cases fs (last || !([] : List Text).isEmpty) dir c with
      ⟨hdir, hc, hstep⟩ | ⟨-, cause, hstep⟩
    · refine ⟨dir, hfront, hdir, hc, fun hnolink => ?_⟩
      rcases hstep with ⟨t, -, hthrough, hat⟩ | ⟨hplace, -⟩
      · exact absurd hat (hnolink (by simpa using hthrough) t)
      · have harrived : fs.advance last dir [c] = .arrived (fs.spot (Path.step dir c)) := by
          rw [advance, hplace]
          rfl
        rw [followFrom_of_arrived harrived] at h
        exact (spot_inj.mp h).symm
    · have harrived : fs.advance last dir [c] = .arrived (.nowhere cause) := by
        rw [advance, hstep]
      rw [followFrom_of_arrived harrived] at h
      exact absurd h.symm spot_ne_nowhere
  · rw [happend] at h
    exact absurd h.symm spot_ne_nowhere

/-! ### Paths -/

/-- A path that the system takes. -/
structure Fits (path : Text) : Prop where
  nonempty : path.isEmpty = false
  null_free : Glyph.char '\x00' ∉ path.toList
  length_lt : path.bytes.length < pathLimit

instance (path : Text) : Decidable (Fits path) :=
  decidable_of_iff (path.isEmpty = false ∧ Glyph.char '\x00' ∉ path.toList ∧
      path.bytes.length < pathLimit)
    ⟨fun h => ⟨h.1, h.2.1, h.2.2⟩, fun h => ⟨h.nonempty, h.null_free, h.length_lt⟩⟩

lemma Fits.front {t : Text} (h : Fits path) (ht : t.isEmpty = false)
    (hfront : t.toList <+: path.toList) : Fits t := by
  refine ⟨ht, fun hnull => h.null_free (hfront.subset hnull), Nat.lt_of_le_of_lt ?_ h.length_lt⟩
  obtain ⟨rest, hrest⟩ := hfront
  rw [Text.bytes, Text.bytes, ← hrest, List.flatMap_append, List.length_append]
  exact Nat.le_add_right _ _

/-- The place at which a path starts. -/
def start (cwd path : Text) : Place :=
  if Path.isAbsolute path then [] else placeOf cwd

lemma trace_of_fits (h : Fits path) :
    fs.trace last cwd path =
      fs.followFrom last linkLimit (start cwd path) (components path) := by
  rw [trace, if_neg (by simp [h.nonempty]), if_neg (by simpa using h.null_free),
    if_neg (Nat.not_le.mpr h.length_lt), start]

lemma trace_of_not_fits (cwd : Text) (h : ¬ Fits path) :
    ∃ cause, ∀ (fs : FileSystem) (last : Bool), fs.trace last cwd path = .nowhere cause := by
  by_cases hnonempty : path.isEmpty = true
  · exact ⟨.notExist, fun _ _ => by rw [trace, if_pos hnonempty]⟩
  · by_cases hnull : path.toList.contains (.char '\x00') = true
    · exact ⟨.invalidArgument, fun _ _ => by rw [trace, if_neg hnonempty, if_pos hnull]⟩
    · have hlength : pathLimit ≤ path.bytes.length := by
        by_contra hlength
        exact h ⟨by simpa using hnonempty, by simpa using hnull, Nat.lt_of_not_le hlength⟩
      refine ⟨.nameTooLong, fun _ _ => ?_⟩
      rw [trace, if_neg hnonempty, if_neg hnull, if_pos hlength]

/-- The path leads to a place. -/
def Leads (fs : FileSystem) (last : Bool) (cwd path : Text) (q : Place) : Prop :=
  fs.trace last cwd path = fs.spot q

lemma leads_iff : Leads fs last cwd path q ↔ Fits path ∧
    fs.followFrom last linkLimit (start cwd path) (components path) = fs.spot q := by
  rw [Leads]
  by_cases h : Fits path
  · rw [trace_of_fits h, and_iff_right h]
  · obtain ⟨cause, hnowhere⟩ := trace_of_not_fits cwd h
    rw [hnowhere]
    exact iff_of_false (fun h' => spot_ne_nowhere h'.symm) fun h' => h h'.1

/-- A path leads to a place or nowhere. -/
lemma leads_or_nowhere (fs : FileSystem) (last : Bool) (cwd path : Text) :
    (∃ q, Leads fs last cwd path q) ∨ ∃ cause, fs.trace last cwd path = .nowhere cause := by
  by_cases h : Fits path
  · rcases followFrom_cases fs last linkLimit (start cwd path) (components path) with
      ⟨q, hq⟩ | ⟨cause, hcause⟩
    · exact .inl ⟨q, leads_iff.mpr ⟨h, hq⟩⟩
    · exact .inr ⟨cause, by rw [trace_of_fits h, hcause]⟩
  · obtain ⟨cause, hnowhere⟩ := trace_of_not_fits cwd h
    exact .inr ⟨cause, hnowhere fs last⟩

lemma trace_eq_entry_iff :
    fs.trace last cwd path = .entry q e ↔ Leads fs last cwd path q ∧ fs.get? q = some e := by
  rw [Leads]
  constructor
  · intro h
    rcases leads_or_nowhere fs last cwd path with ⟨r, hr⟩ | ⟨cause, hcause⟩
    · obtain ⟨rfl, hget⟩ := spot_eq_entry_iff.mp (hr.symm.trans h)
      exact ⟨hr, hget⟩
    · rw [hcause] at h
      cases h
  · rintro ⟨h, hget⟩
    exact h.trans (spot_eq_entry_iff.mpr ⟨rfl, hget⟩)

lemma trace_eq_free_iff :
    fs.trace last cwd path = .free q ↔ Leads fs last cwd path q ∧ fs.get? q = none := by
  rw [Leads]
  constructor
  · intro h
    rcases leads_or_nowhere fs last cwd path with ⟨r, hr⟩ | ⟨cause, hcause⟩
    · obtain ⟨rfl, hget⟩ := spot_eq_free_iff.mp (hr.symm.trans h)
      exact ⟨hr, hget⟩
    · rw [hcause] at h
      cases h
  · rintro ⟨h, hget⟩
    exact h.trans (spot_eq_free_iff.mpr ⟨rfl, hget⟩)

lemma lookup_eq_ok_iff :
    fs.lookup cwd path = .ok (q, e) ↔ Leads fs true cwd path q ∧ fs.get? q = some e := by
  rw [← trace_eq_entry_iff, lookup, follow]
  cases fs.trace true cwd path <;> simp [Found.result]

lemma fits_of_lookup (h : fs.lookup cwd path = .ok (q, e)) : Fits path :=
  (leads_iff.mp (lookup_eq_ok_iff.mp h).1).1

lemma lookup_eq_error_of_not (h : ∀ q e, fs.lookup cwd path ≠ .ok (q, e)) :
    ∃ cause, fs.lookup cwd path = .error cause := by
  cases hlookup : fs.lookup cwd path with
  | error cause => exact ⟨cause, rfl⟩
  | ok found => exact absurd hlookup (h found.1 found.2)

lemma Leads.inj (h : Leads fs last cwd path p) (h' : Leads fs last cwd path q) : p = q :=
  spot_inj.mp (h.symm.trans h')

/-! ### Opening what a path leads to -/

lemma openAt_eq_ok_iff : fs.openAt cwd path = .ok e ↔
    (∃ q, fs.lookup cwd path = .ok (q, e)) ∧ ∀ isDir, e ≠ .barred isDir := by
  rw [openAt, inspect, ← lookup]
  cases fs.lookup cwd path with
  | error cause => simp
  | ok found =>
      obtain ⟨q, f⟩ := found
      cases f with
      | barred isDir =>
          refine iff_of_false (by simp) ?_
          rintro ⟨⟨r, hr⟩, hbarred⟩
          exact hbarred isDir (Prod.mk.inj (Except.ok.inj hr)).2.symm
      | file | directory | link =>
          simp only [Except.ok.injEq, Prod.mk.injEq, exists_eq_left', iff_self_and]
          rintro rfl
          simp

lemma openAt_eq_file_iff {content : Text.Bytes} : fs.openAt cwd path = .ok (.file content) ↔
    ∃ q, fs.lookup cwd path = .ok (q, .file content) := by
  rw [openAt_eq_ok_iff]
  simp

lemma read_eq_ok_iff {content : Text.Bytes} :
    fs.read cwd path = .ok content ↔ ∃ q, fs.lookup cwd path = .ok (q, .file content) := by
  rw [← openAt_eq_file_iff, read]
  cases fs.openAt cwd path with
  | error fault => simp
  | ok e => cases e <;> simp

/-! ### Files that change -/

/-- The directories and links of a file system are there in another one. -/
structure Ways (fs gs : FileSystem) : Prop where
  directory : ∀ p, fs.get? p = some .directory → gs.get? p = some .directory
  link : ∀ p t, fs.get? p = some (.link t) → gs.get? p = some (.link t)

lemma Grown.ways (h : Grown fs gs) : Ways fs gs :=
  ⟨fun p => h p _, fun p _ => h p _⟩

lemma LinkAt.of_ways {t : Text} (h : Ways fs gs) (hlink : LinkAt fs p c t) : LinkAt gs p c t :=
  ⟨hlink.1, hlink.2.1, h.link _ _ hlink.2.2⟩

lemma advance_of_ways (h : Ways fs gs) {around : Place} {t : Text} {rest : List Text}
    (hfs : fs.advance last p cs = .link around t rest) :
    gs.advance last p cs = .link around t rest := by
  induction cs generalizing p with
  | nil => cases hfs
  | cons c cs ih =>
      rw [advance] at hfs ⊢
      split at hfs
      · rename_i q hstep
        obtain ⟨hp, hc, hq, hnolink⟩ := stepFrom_eq_place_iff.mp hstep
        have hdirectory : fs.get? q = some .directory := by
          cases cs with
          | nil => cases hfs
          | cons d ds =>
              rw [advance] at hfs
              split at hfs
              · exact (stepFrom_eq_place_iff.mp ‹_›).1
              · exact (stepFrom_eq_link_iff.mp ‹_›).1
              · cases hfs
        have hstep' : gs.stepFrom (last || !cs.isEmpty) p c = .place q := by
          refine stepFrom_eq_place_iff.mpr ⟨h.directory p hp, hc, hq, fun _ t hlink => ?_⟩
          have hget := hlink.2.2
          rw [← hlink.step_eq, hq, h.directory q hdirectory] at hget
          cases hget
        rw [hstep']
        exact ih hfs
      · rename_i hstep
        obtain ⟨hp, hc, hthrough, hlink⟩ := stepFrom_eq_link_iff.mp hstep
        rw [stepFrom_eq_link_iff.mpr ⟨h.directory p hp, hc, hthrough, hlink.of_ways h⟩]
        exact hfs
      · cases hfs

/-- Names lead to the same place, if that has not become a link. -/
lemma advance_spot_of_ways (h : Ways fs gs)
    (hq : ∀ t, gs.get? q = some (.link t) → fs.get? q = some (.link t))
    (hfs : fs.advance last p cs = .arrived (fs.spot q)) :
    gs.advance last p cs = .arrived (gs.spot q) := by
  induction cs generalizing p with
  | nil =>
      have hpq : p = q := spot_inj.mp (Way.arrived.inj hfs)
      rw [hpq]
      rfl
  | cons c cs ih =>
      rw [advance] at hfs ⊢
      split at hfs
      · rename_i r hstep
        obtain ⟨hp, hc, hr, hnolink⟩ := stepFrom_eq_place_iff.mp hstep
        have hnolink' : (last || !cs.isEmpty) = true → ∀ t, ¬ LinkAt gs p c t := by
          intro hthrough t hlink
          have hget := hlink.2.2
          rw [← hlink.step_eq, hr] at hget
          cases cs with
          | nil =>
              have hrq : r = q := spot_inj.mp (Way.arrived.inj hfs)
              rw [hrq] at hget
              have hfsget := hq t hget
              rw [← hrq, ← hr, hlink.step_eq] at hfsget
              exact hnolink hthrough t ⟨hlink.1, hlink.2.1, hfsget⟩
          | cons d ds =>
              -- names are left, so that this one leads to a directory
              have hdirectory : fs.get? r = some .directory := by
                rw [advance] at hfs
                split at hfs
                · exact (stepFrom_eq_place_iff.mp ‹_›).1
                · cases hfs
                · exact absurd (Way.arrived.inj hfs).symm spot_ne_nowhere
              rw [h.directory r hdirectory] at hget
              cases hget
        rw [stepFrom_eq_place_iff.mpr ⟨h.directory p hp, hc, hr, hnolink'⟩]
        exact ih hfs
      · cases hfs
      · exact absurd (Way.arrived.inj hfs).symm spot_ne_nowhere

lemma followFrom_of_ways (h : Ways fs gs)
    (hq : ∀ t, gs.get? q = some (.link t) → fs.get? q = some (.link t)) {n : Nat}
    (hfs : fs.followFrom last n p cs = fs.spot q) : gs.followFrom last n p cs = gs.spot q := by
  induction n generalizing p cs with
  | zero =>
      rcases advance_cases fs last p cs with ⟨r, hr⟩ | ⟨around, t, rest, hr⟩ | ⟨cause, hr⟩
      · have hrq : r = q := spot_inj.mp ((followFrom_of_arrived hr).symm.trans hfs)
        exact followFrom_of_arrived (advance_spot_of_ways h hq (hrq ▸ hr))
      · rw [followFrom_zero_of_link hr] at hfs
        exact absurd hfs.symm spot_ne_nowhere
      · rw [followFrom_of_arrived hr] at hfs
        exact absurd hfs.symm spot_ne_nowhere
  | succ n ih =>
      rcases advance_cases fs last p cs with ⟨r, hr⟩ | ⟨around, t, rest, hr⟩ | ⟨cause, hr⟩
      · have hrq : r = q := spot_inj.mp ((followFrom_of_arrived hr).symm.trans hfs)
        exact followFrom_of_arrived (advance_spot_of_ways h hq (hrq ▸ hr))
      · rw [followFrom_of_link hr] at hfs
        rw [followFrom_of_link (advance_of_ways h hr)]
        exact ih hfs
      · rw [followFrom_of_arrived hr] at hfs
        exact absurd hfs.symm spot_ne_nowhere

/-- A path leads to the same place as long as directories and links stay. -/
lemma Leads.of_ways (hfs : Leads fs last cwd path q) (h : Ways fs gs)
    (hq : ∀ t, gs.get? q = some (.link t) → fs.get? q = some (.link t)) :
    Leads gs last cwd path q := by
  obtain ⟨hfits, hfollow⟩ := leads_iff.mp hfs
  exact leads_iff.mpr ⟨hfits, followFrom_of_ways h hq hfollow⟩

lemma trace_entry_of_grown (h : Grown fs gs) (hp : fs.trace last cwd path = .entry q e) :
    gs.trace last cwd path = .entry q e := by
  obtain ⟨hleads, hget⟩ := trace_eq_entry_iff.mp hp
  refine trace_eq_entry_iff.mpr ⟨hleads.of_ways h.ways fun t ht => ?_, h q e hget⟩
  rw [h q e hget] at ht
  rw [hget, ht]

lemma lookup_of_grown (h : Grown fs gs) (hp : fs.lookup cwd path = .ok (q, e)) :
    gs.lookup cwd path = .ok (q, e) := by
  obtain ⟨hleads, hget⟩ := lookup_eq_ok_iff.mp hp
  exact lookup_eq_ok_iff.mpr
    (trace_eq_entry_iff.mp (trace_entry_of_grown h (trace_eq_entry_iff.mpr ⟨hleads, hget⟩)))

/-- A path to a directory stays one. -/
lemma Ways.lookup_directory (h : Ways fs gs) (hp : fs.lookup cwd path = .ok (q, .directory)) :
    gs.lookup cwd path = .ok (q, .directory) := by
  obtain ⟨hleads, hget⟩ := lookup_eq_ok_iff.mp hp
  have hget' := h.directory q hget
  refine lookup_eq_ok_iff.mpr ⟨hleads.of_ways h fun t ht => ?_, hget'⟩
  rw [hget'] at ht
  cases ht

/-! ### Links at the end of a path -/

lemma advance_true_of_false (h : fs.advance false p cs = .arrived (fs.spot q))
    (hq : ∀ t, fs.get? q ≠ some (.link t)) : fs.advance true p cs = .arrived (fs.spot q) := by
  induction cs generalizing p with
  | nil => exact h
  | cons c cs ih =>
      rw [advance] at h
      split at h
      · rename_i r hstep
        obtain ⟨hp, hc, hr, hnolink⟩ := stepFrom_eq_place_iff.mp hstep
        have hnolink' : (true || !cs.isEmpty) = true → ∀ t, ¬ LinkAt fs p c t := by
          intro _ t hlink
          cases cs with
          | nil =>
              have hrq : r = q := spot_inj.mp (Way.arrived.inj h)
              have hget := hlink.2.2
              rw [← hlink.step_eq, hr, hrq] at hget
              exact hq t hget
          | cons d ds => exact hnolink rfl t hlink
        rw [advance, stepFrom_eq_place_iff.mpr ⟨hp, hc, hr, hnolink'⟩]
        exact ih h
      · cases h
      · exact absurd (Way.arrived.inj h).symm spot_ne_nowhere

lemma advance_link_of_false {around : Place} {t : Text} {rest : List Text}
    (h : fs.advance false p cs = .link around t rest) :
    fs.advance true p cs = .link around t rest := by
  induction cs generalizing p with
  | nil => cases h
  | cons c cs ih =>
      rw [advance] at h
      split at h
      · rename_i r hstep
        cases cs with
        | nil => cases h
        | cons d ds =>
            rw [advance]
            have hthrough : (true || !(d :: ds).isEmpty) = (false || !(d :: ds).isEmpty) := rfl
            rw [hthrough, hstep]
            exact ih h
      · rename_i hstep
        obtain ⟨hp, hc, -, hlink⟩ := stepFrom_eq_link_iff.mp hstep
        rw [advance, Bool.true_or, stepFrom_eq_link_iff.mpr ⟨hp, hc, rfl, hlink⟩]
        exact h
      · cases h

lemma followFrom_true_of_false {n : Nat} (h : fs.followFrom false n p cs = fs.spot q)
    (hq : ∀ t, fs.get? q ≠ some (.link t)) : fs.followFrom true n p cs = fs.spot q := by
  induction n generalizing p cs with
  | zero =>
      rcases advance_cases fs false p cs with ⟨r, hr⟩ | ⟨around, t, rest, hr⟩ | ⟨cause, hr⟩
      · have hrq : r = q := spot_inj.mp ((followFrom_of_arrived hr).symm.trans h)
        exact followFrom_of_arrived (advance_true_of_false (hrq ▸ hr) hq)
      · rw [followFrom_zero_of_link hr] at h
        exact absurd h.symm spot_ne_nowhere
      · rw [followFrom_of_arrived hr] at h
        exact absurd h.symm spot_ne_nowhere
  | succ n ih =>
      rcases advance_cases fs false p cs with ⟨r, hr⟩ | ⟨around, t, rest, hr⟩ | ⟨cause, hr⟩
      · have hrq : r = q := spot_inj.mp ((followFrom_of_arrived hr).symm.trans h)
        exact followFrom_of_arrived (advance_true_of_false (hrq ▸ hr) hq)
      · rw [followFrom_of_link hr] at h
        rw [followFrom_of_link (advance_link_of_false hr)]
        exact ih h
      · rw [followFrom_of_arrived hr] at h
        exact absurd h.symm spot_ne_nowhere

/-- A path leads to the same place with its last name followed, unless that is a link. -/
lemma Leads.through (h : Leads fs false cwd path q) (hq : ∀ t, fs.get? q ≠ some (.link t)) :
    Leads fs true cwd path q := by
  obtain ⟨hfits, hfollow⟩ := leads_iff.mp h
  exact leads_iff.mpr ⟨hfits, followFrom_true_of_false hfollow hq⟩

/-! ### Free places -/

/-- A free place is in a directory. -/
lemma advance_free (h : Covered fs) (hp : fs.get? p ≠ none ∨ cs ≠ [])
    (hfs : fs.advance last p cs = .arrived (fs.spot q)) (hfree : fs.get? q = none) :
    fs.get? q.dropLast = some .directory := by
  induction cs generalizing p with
  | nil =>
      have hpq : p = q := spot_inj.mp (Way.arrived.inj hfs)
      rw [hpq] at hp
      exact absurd hfree (hp.resolve_right (by simp))
  | cons c cs ih =>
      rw [advance] at hfs
      split at hfs
      · rename_i r hstep
        obtain ⟨hdirectory, hc, hr, -⟩ := stepFrom_eq_place_iff.mp hstep
        by_cases hpresent : fs.get? r ≠ none ∨ cs ≠ []
        · exact ih hpresent hfs
        · -- the last name leads to the free place, so that it is a name
          simp only [not_or, not_not] at hpresent
          obtain ⟨hr', rfl⟩ := hpresent
          have hrq : r = q := spot_inj.mp (Way.arrived.inj hfs)
          rw [← hrq, ← hr]
          rw [← hr, Path.step] at hr'
          rw [Path.step]
          split at hr'
          · rw [hdirectory] at hr'
            cases hr'
          · split at hr'
            · exact absurd hr' (h.get?_dropLast (by rw [hdirectory]; simp))
            · rw [if_neg ‹_›, if_neg ‹_›, List.dropLast_concat]
              exact hdirectory
      · cases hfs
      · exact absurd (Way.arrived.inj hfs).symm spot_ne_nowhere

lemma followFrom_free (h : Covered fs) {n : Nat} (hp : fs.get? p ≠ none ∨ cs ≠ [])
    (hfs : fs.followFrom last n p cs = fs.spot q) (hfree : fs.get? q = none) :
    fs.get? q.dropLast = some .directory := by
  induction n generalizing p cs with
  | zero =>
      rcases advance_cases fs last p cs with ⟨r, hr⟩ | ⟨around, t, rest, hr⟩ | ⟨cause, hr⟩
      · have hrq : r = q := spot_inj.mp ((followFrom_of_arrived hr).symm.trans hfs)
        exact advance_free h hp (hrq ▸ hr) hfree
      · rw [followFrom_zero_of_link hr] at hfs
        exact absurd hfs.symm spot_ne_nowhere
      · rw [followFrom_of_arrived hr] at hfs
        exact absurd hfs.symm spot_ne_nowhere
  | succ n ih =>
      rcases advance_cases fs last p cs with ⟨r, hr⟩ | ⟨around, t, rest, hr⟩ | ⟨cause, hr⟩
      · have hrq : r = q := spot_inj.mp ((followFrom_of_arrived hr).symm.trans hfs)
        exact advance_free h hp (hrq ▸ hr) hfree
      · rw [followFrom_of_link hr] at hfs
        refine ih (.inr ?_) hfs
        exact List.append_ne_nil_of_left_ne_nil (Path.components_ne_nil t) _
      · rw [followFrom_of_arrived hr] at hfs
        exact absurd hfs.symm spot_ne_nowhere

lemma Leads.parent (hleads : Leads fs last cwd path q) (h : Covered fs)
    (hfree : fs.get? q = none) : fs.get? q.dropLast = some .directory := by
  obtain ⟨-, hfollow⟩ := leads_iff.mp hleads
  exact followFrom_free h (.inr (Path.components_ne_nil path)) hfollow hfree

/-! ### In a directory -/

/-- The path `c` is that of the name `n` in the directory at the path `a`. -/
structure InDir (a c n : Text) : Prop where
  isName : IsName n
  fits : Fits c → Fits a
  isAbsolute : Path.isAbsolute c = Path.isAbsolute a
  components : ∃ cs : List Text, Path.components c = cs ++ [n] ∧ (Path.components a = cs ∨
    ∃ d : Text, (d.isEmpty || d == ".") = true ∧ Path.components a = cs ++ [d])

namespace InDir

variable {a n : Text} {dir : Place}

lemma start_eq (h : InDir a c n) : start cwd c = start cwd a := by
  rw [start, start, h.isAbsolute]

/-- Where the directory is. -/
lemma followFrom_eq (h : InDir a c n) : ∃ cs, Path.components c = cs ++ [n] ∧
    ∀ (fs : FileSystem) (p dir : Place) (k : Nat), fs.get? dir = some .directory →
      (fs.followFrom true k p (Path.components a) = fs.spot dir ↔
        fs.followFrom true k p cs = fs.spot dir) := by
  obtain ⟨cs, hc, ha | ⟨d, hd, ha⟩⟩ := h.components
  · exact ⟨cs, hc, fun _ _ _ _ _ => by rw [ha]⟩
  · refine ⟨cs, hc, fun fs p dir k hdir => ?_⟩
    rw [ha]
    rcases followFrom_append fs true (List.cons_ne_nil d []) k p cs with
      ⟨q, m, hcs, happend⟩ | ⟨cause, hcs, happend⟩
    · rw [happend, hcs, followFrom_stay hd, spot_inj, and_iff_left hdir]
    · rw [happend, hcs]

/-- A name in a directory leads to a place in it, unless that is a link which is followed. -/
lemma leads (h : InDir a c n) (ha : Leads fs true cwd a dir)
    (hdir : fs.get? dir = some .directory) (hfits : Fits c) (hn : n.bytes.length ≤ nameLimit)
    (hlink : last = true → ∀ t, fs.get? (dir ++ [n]) ≠ some (.link t)) :
    Leads fs last cwd c (dir ++ [n]) := by
  obtain ⟨-, ha⟩ := leads_iff.mp ha
  obtain ⟨cs, hc, hiff⟩ := h.followFrom_eq
  rw [hiff fs _ dir _ hdir] at ha
  refine leads_iff.mpr ⟨hfits, ?_⟩
  rw [h.start_eq, hc]
  rcases followFrom_append fs last (List.cons_ne_nil n []) linkLimit (start cwd a) cs with
    ⟨q, k, hcs, happend⟩ | ⟨cause, hcs, -⟩
  · have hq : q = dir := spot_inj.mp (hcs.symm.trans ha)
    rw [happend, hq]
    refine followFrom_of_arrived ?_
    have hstep : fs.stepFrom (last || !([] : List Text).isEmpty) dir n = .place (dir ++ [n]) := by
      refine stepFrom_eq_place_iff.mpr ⟨hdir, hn, h.isName.step dir, fun hthrough t hat => ?_⟩
      exact hlink (by simpa using hthrough) t hat.2.2
    rw [advance, hstep]
    rfl
  · rw [hcs] at ha
    exact absurd ha.symm spot_ne_nowhere

/-- What leads to a place leads through the directory. -/
lemma of_leads (h : InDir a c n) (hc : Leads fs last cwd c q) :
    Fits c ∧ n.bytes.length ≤ nameLimit ∧ ∃ dir, fs.lookup cwd a = .ok (dir, .directory) ∧
      ((last = true → ∀ t, fs.get? (dir ++ [n]) ≠ some (.link t)) → q = dir ++ [n]) := by
  obtain ⟨hfits, hfollow⟩ := leads_iff.mp hc
  obtain ⟨cs, hcs, hiff⟩ := h.followFrom_eq
  rw [hcs, h.start_eq] at hfollow
  obtain ⟨dir, hfront, hdir, hn, hq⟩ := of_followFrom_concat hfollow
  have ha := (hiff fs (start cwd a) dir linkLimit hdir).mpr hfront
  refine ⟨hfits, hn, dir, ?_, fun hnolink => ?_⟩
  · exact lookup_eq_ok_iff.mpr ⟨leads_iff.mpr ⟨h.fits hfits, ha⟩, hdir⟩
  · rw [hq fun hlast t hat => hnolink hlast t hat.2.2, h.isName.step]

lemma lookup (h : InDir a c n) (ha : fs.lookup cwd a = .ok (dir, .directory)) (hfits : Fits c)
    (hn : n.bytes.length ≤ nameLimit) (hget : fs.get? (dir ++ [n]) = some e)
    (he : ∀ t, e ≠ .link t) : fs.lookup cwd c = .ok (dir ++ [n], e) := by
  obtain ⟨hleads, hdir⟩ := lookup_eq_ok_iff.mp ha
  refine lookup_eq_ok_iff.mpr ⟨h.leads hleads hdir hfits hn fun _ t ht => ?_, hget⟩
  exact he t (Option.some.inj (hget.symm.trans ht))

/-- What a name leads to in a directory, if that is no link. -/
lemma lookup_eq_ok_iff (h : InDir a c n) (ha : fs.lookup cwd a = .ok (dir, .directory))
    (hlink : ∀ t, fs.get? (dir ++ [n]) ≠ some (.link t)) :
    fs.lookup cwd c = .ok (q, e) ↔
      q = dir ++ [n] ∧ fs.get? (dir ++ [n]) = some e ∧ Fits c ∧ n.bytes.length ≤ nameLimit := by
  constructor
  · intro hc
    obtain ⟨hleads, hget⟩ := FileSystem.lookup_eq_ok_iff.mp hc
    obtain ⟨hfits, hn, dir', hdir, hq⟩ := h.of_leads hleads
    obtain ⟨rfl, -⟩ := Prod.mk.inj (Except.ok.inj (hdir.symm.trans ha))
    obtain rfl := hq fun _ => hlink
    exact ⟨rfl, hget, hfits, hn⟩
  · rintro ⟨rfl, hget, hfits, hn⟩
    exact h.lookup ha hfits hn hget fun t he => hlink t (he ▸ hget)

end InDir

lemma inDir_slash {a n : Text} (ha : a.isEmpty = false) (hn : IsName n) :
    InDir a (a ++ "/" ++ n) n where
  isName := hn
  fits h := h.front ha (List.prefix_append_of_prefix (List.prefix_append _ _))
  isAbsolute := Path.isAbsolute_slash ha n
  components := ⟨components a, by rw [Path.components_slash, Path.components_name hn.slash_free],
    .inl rfl⟩

/-- Cleaning the paths changes nothing. -/
lemma inDir_clean {a n : Text} (ha : a.isEmpty = false) (hn : IsName n) :
    InDir (Path.clean a) (Path.clean (a ++ "/" ++ n)) n := by
  by_cases hne : Path.cleanComponents a = []
  · -- the directory is the root, or the one that relative paths start at
    have hcs := Path.cleanComponents_slash_name ha hn
    have habs := Path.isAbsolute_slash ha n
    rw [hne, List.nil_append] at hcs
    rcases Path.clean_cases a with ⟨hroot, hclean⟩ | ⟨hroot, -, hclean⟩ | ⟨-, hne', -⟩
    · have hpath : Path.clean (a ++ "/" ++ n) = ("/" : Text) ++ n := by
        rw [Path.clean, habs, hroot, hcs]
        simp [Text.intercalate]
      have hcomponents : components (("/" : Text) ++ n) = [("" : Text), n] := by
        have happend : ("/" : Text) ++ n = ("" : Text) ++ "/" ++ n := rfl
        rw [happend, Path.components_slash, Path.components_name hn.slash_free]
        rfl
      rw [hpath, hclean, hne]
      refine ⟨hn, fun _ => ⟨rfl, by decide, by decide⟩, rfl, [""], hcomponents, .inr ⟨"", rfl, rfl⟩⟩
    · have hpath : Path.clean (a ++ "/" ++ n) = n := by
        have hnonempty : (Text.intercalate "/" [n]).isEmpty = false := by
          simpa [Text.intercalate] using hn.nonempty
        rw [Path.clean, habs, hroot, hcs, hnonempty]
        simp [Text.intercalate]
      rw [hpath, hclean]
      refine ⟨hn, fun _ => ⟨rfl, by decide, by decide⟩, ?_, [],
        Path.components_name hn.slash_free, .inr ⟨".", rfl, rfl⟩⟩
      rw [← hpath, Path.isAbsolute_clean, habs, hroot]
      rfl
    · exact absurd hne hne'
  · rw [Path.clean_slash_name ha hne hn]
    exact inDir_slash (Path.isEmpty_clean a) hn

end PocketScheme.FileSystem
