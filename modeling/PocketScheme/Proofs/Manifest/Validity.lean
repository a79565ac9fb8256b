import PocketScheme.Manifest.Load
import PocketScheme.Proofs.FileSystem.Following
import PocketScheme.Proofs.Lockfile.Pins
import Mathlib.Data.List.Forall2

/-!
Manifests that are accepted. A manifest is checked after its names are sanitized, and the check is
exact: what it lets through is what `Manifest.File.Valid` asks of the file.

* `Segment.Respelled`: two spellings of one name;
* `Dependency.WellFormed`, `Manifest.File.Valid`: what is asked of a dependency and of a file;
* `Manifest.issues_ofFile_eq_nil_iff`: a file is valid if and only if nothing is wrong with its
  manifest;
* `Manifest.TargetTable`: targets by their names, one for each that is declared;
* `Manifest.validation_exact`: the check, and the targets of what is accepted.
-/

namespace PocketScheme

/-! ### Spellings of names -/

namespace Segment

/-- A dash or an underscore. -/
def IsMark (g : Glyph) : Prop :=
  g = .char '-' ∨ g = .char '_'

/-- Two spellings of one name: blanks around it do not count, and dashes and underscores can be
exchanged. -/
def Respelled (s t : Text) : Prop :=
  List.Forall₂ (fun g h => g = h ∨ IsMark g ∧ IsMark h) s.trim.toList t.trim.toList

lemma sanitized_eq_iff (g h : Glyph) :
    (if g == '-' then Glyph.char '_' else g) = (if h == '-' then .char '_' else h) ↔
      g = h ∨ IsMark g ∧ IsMark h := by
  unfold IsMark
  by_cases hg : g = .char '-' <;> by_cases hh : h = .char '-' <;> simp [hg, hh] <;> grind

/-- Names are the same once they are sanitized if they are spellings of one name. -/
lemma sanitize_eq_iff {s t : Text} : sanitize s = sanitize t ↔ Respelled s t := by
  rw [sanitize, sanitize, Text.ofList.injEq, ← List.forall₂_eq_eq_eq, List.forall₂_map_left_iff,
    List.forall₂_map_right_iff, Respelled]
  simp only [sanitized_eq_iff]

end Segment

/-! ### Dependencies -/

/-- Exactly one of three texts is set. -/
def OneSet (a b c : Text) : Prop :=
  (a.isEmpty = false ∧ b.isEmpty = true ∧ c.isEmpty = true) ∨
    (a.isEmpty = true ∧ b.isEmpty = false ∧ c.isEmpty = true) ∨
    (a.isEmpty = true ∧ b.isEmpty = true ∧ c.isEmpty = false)

namespace Dependency

/-- A dependency has one source: a directory without any pin, or a repository with exactly one. -/
structure WellFormed (d : Dependency) : Prop where
  source : d.path.isEmpty ≠ d.git.isEmpty
  path : d.path.isEmpty = false →
    d.rev.isEmpty = true ∧ d.tag.isEmpty = true ∧ d.branch.isEmpty = true
  git : d.git.isEmpty = false → OneSet d.rev d.tag d.branch

lemma setPins_eq_nil_iff (d : Dependency) :
    d.setPins = [] ↔ d.rev.isEmpty = true ∧ d.tag.isEmpty = true ∧ d.branch.isEmpty = true := by
  rw [setPins, List.filter_eq_nil_iff]
  simp

lemma length_setPins_iff (d : Dependency) : d.setPins.length = 1 ↔ OneSet d.rev d.tag d.branch := by
  cases hr : d.rev.isEmpty <;> cases ht : d.tag.isEmpty <;> cases hb : d.branch.isEmpty <;>
    simp [setPins, OneSet, hr, ht, hb]

/-- Nothing is wrong with a dependency if and only if it is well-formed. -/
lemma issues_eq_nil_iff (d : Dependency) : d.issues = [] ↔ d.WellFormed := by
  have hform : d.WellFormed ↔ d.path.isEmpty ≠ d.git.isEmpty ∧
      (d.path.isEmpty = false → d.setPins = []) ∧
        (d.git.isEmpty = false → d.setPins.length = 1) := by
    rw [setPins_eq_nil_iff, length_setPins_iff]
    exact ⟨fun h => ⟨h.source, h.path, h.git⟩, fun h => ⟨h.1, h.2.1, h.2.2⟩⟩
  rw [hform, issues]
  cases hpath : d.path.isEmpty <;> cases hgit : d.git.isEmpty <;> simp

end Dependency

/-! ### Files -/

namespace Manifest

variable {α : Type}

/-- The dependency of a file with the given name: of several ones, the last. -/
def File.dependency? (f : File) (name : Text) : Option Dependency :=
  f.dependencies.reverse.lookup name

lemma File.mem_of_dependency? {f : File} {name : Text} {d : Dependency}
    (h : f.dependency? name = some d) : (name, d) ∈ f.dependencies := by
  obtain ⟨_, _, hsplit, -⟩ := List.lookup_eq_some_iff.mp h
  rw [← List.mem_reverse, hsplit]
  simp

/-- What is asked of a manifest file: a name, no empty authors, a prelude inside the project,
targets that differ in more than the spelling of their names and have a file each, and well-formed
dependencies. -/
structure File.Valid (f : File) : Prop where
  name : (Segment.sanitize f.name).isEmpty = false
  authors : ∀ a ∈ f.authors, a.isEmpty = false
  relative : ∀ p ∈ f.prelude, Path.isAbsolute p = false
  distinct : (f.targets.map fun e => Segment.sanitize e.1).Nodup
  main : ∀ e ∈ f.targets, e.2.trim.isEmpty = false
  dependencies : ∀ name d, f.dependency? name = some d → d.WellFormed

lemma indexed_eq_nil_iff {p : Text → Bool} {issue : Nat → Issue} {xs : List Text} :
    indexed p issue xs = [] ↔ ∀ x ∈ xs, p x = false := by
  rw [indexed, List.filterMap_eq_nil_iff]
  constructor
  · intro h x hx
    obtain ⟨i, hi, rfl⟩ := List.getElem_of_mem hx
    have hfree := h (xs[i], i) (List.mk_mem_zipIdx_iff_getElem?.mpr (List.getElem?_eq_getElem hi))
    simpa using hfree
  · rintro h ⟨x, i⟩ hx
    have hmem : x ∈ xs := List.fst_mem_of_mem_zipIdx hx
    simp [h x hmem]

/-- Nothing is wrong with targets if their names are new and each one has a file. -/
lemma targetIssues_eq_nil_iff {seen ts : List Target} :
    targetIssues seen ts = [] ↔
      (∀ t ∈ ts, ∀ s ∈ seen, s.name ≠ t.name) ∧ (ts.map Target.name).Nodup ∧
      ∀ t ∈ ts, t.main.isEmpty = false := by
  induction ts generalizing seen with
  | nil => simp [targetIssues]
  | cons t ts ih =>
      rw [targetIssues]
      cases hfind : seen.find? fun s => s.name == t.name with
      | some s =>
          have hname : s.name = t.name := by simpa using List.find?_some hfind
          refine iff_of_false (by simp) fun h => ?_
          exact h.1 t List.mem_cons_self s (List.mem_of_find?_eq_some hfind) hname
      | none =>
          have hnew : ∀ s ∈ seen, s.name ≠ t.name := by
            intro s hs
            simpa using List.find?_eq_none.mp hfind s hs
          have hmain : (if t.main.isEmpty then [Issue.noMain t.written] else []) = [] ↔
              t.main.isEmpty = false := by
            cases t.main.isEmpty <;> simp
          -- a name is new to what was seen before, to `t`, and to the targets behind it
          simp only [List.append_eq_nil_iff, hmain, ih, List.mem_cons, List.map_cons,
            List.nodup_cons, List.mem_map, forall_eq_or_imp, not_exists, not_and]
          constructor
          · rintro ⟨ht, hseen, hnodup, hfiles⟩
            exact ⟨⟨hnew, fun u hu => (hseen u hu).2⟩,
              ⟨fun u hu => (hseen u hu).1.symm, hnodup⟩, ht, hfiles⟩
          · rintro ⟨⟨-, hseen⟩, ⟨hself, hnodup⟩, ht, hfiles⟩
            exact ⟨ht, fun u hu => ⟨Ne.symm (hself u hu), hseen u hu⟩, hnodup, hfiles⟩

lemma mem_firstByKey_iff {pairs : List (Text × α)} {name : Text} {a : α} :
    (name, a) ∈ firstByKey Prod.fst pairs ↔ pairs.lookup name = some a := by
  induction pairs with
  | nil => simp [firstByKey]
  | cons e pairs ih =>
      obtain ⟨key, b⟩ := e
      rw [firstByKey, List.mem_cons, List.mem_filter, ih, List.lookup_cons]
      by_cases hname : name = key
      · simp [hname, eq_comm]
      · have hne : (name == key) = false := beq_eq_false_iff_ne.mpr hname
        simp [hname, hne]

/-- A sorted pair is the last one with its key. -/
lemma mem_sortPairs_iff {pairs : List (Text × α)} {name : Text} {a : α} :
    (name, a) ∈ sortPairs pairs ↔ pairs.reverse.lookup name = some a := by
  rw [sortPairs, List.mem_mergeSort, mem_firstByKey_iff]

end Manifest

namespace Targets

/-- Keys and order agree: the order lists each key once, and a target is found under its own
name. -/
structure Agree (ts : Targets) : Prop where
  keys : ∀ key, key ∈ ts.order ↔ ∃ t, ts.get? key = some t
  name : ∀ key t, ts.get? key = some t → t.name = key
  nodup : ts.order.Nodup

lemma agree_empty : Agree empty :=
  ⟨fun _ => by simp [empty, get?], fun _ _ h => by simp [empty, get?] at h, .nil⟩

lemma add_of_taken {ts : Targets} {t : Target} (h : t.name ∈ ts.order) (hts : ts.Agree) :
    ts.add t = { ts with declared := ts.declared ++ [t] } := by
  rw [add, if_pos (Option.isSome_iff_exists.mpr ((hts.keys _).mp h))]

lemma add_of_new {ts : Targets} {t : Target} (h : t.name ∉ ts.order) (hts : ts.Agree) :
    ts.add t = ⟨(t.name, t) :: ts.byKey, ts.order ++ [t.name], ts.declared ++ [t]⟩ := by
  rw [add, if_neg fun hsome => h ((hts.keys _).mpr (Option.isSome_iff_exists.mp hsome))]

/-- One more target keeps keys and order in agreement. -/
lemma Agree.add {ts : Targets} (hts : ts.Agree) (t : Target) : (ts.add t).Agree := by
  by_cases ht : t.name ∈ ts.order
  · rw [add_of_taken ht hts]
    exact ⟨hts.keys, hts.name, hts.nodup⟩
  · rw [add_of_new ht hts]
    have hget (key : Text) : Targets.get?
        ⟨(t.name, t) :: ts.byKey, ts.order ++ [t.name], ts.declared ++ [t]⟩ key =
          if key = t.name then some t else ts.get? key := by
      rw [get?, List.lookup_cons]
      by_cases hkey : key = t.name
      · simp [hkey]
      · simp [hkey, beq_eq_false_iff_ne.mpr hkey, get?]
    refine ⟨fun key => ?_, fun key u hu => ?_, ?_⟩
    · rw [hget, List.mem_append, List.mem_singleton, hts.keys]
      split
      · rename_i hkey
        simp [hkey]
      · rename_i hkey
        simp [hkey]
    · rw [hget] at hu
      split at hu
      · rename_i hkey
        rw [hkey, Option.some.inj hu]
      · exact hts.name key u hu
    · exact List.nodup_append.mpr ⟨hts.nodup, List.nodup_singleton _, fun key hkey u hu heq =>
        ht (by rw [← List.mem_singleton.mp hu, ← heq]; exact hkey)⟩

/-- Any targets, one after the other, keep them in agreement. -/
lemma Agree.foldl {ts : Targets} (hts : ts.Agree) (new : List Target) :
    (new.foldl Targets.add ts).Agree := by
  induction new generalizing ts with
  | nil => exact hts
  | cons t new ih => exact ih (hts.add t)

lemma declared_add (ts : Targets) (t : Target) : (ts.add t).declared = ts.declared ++ [t] := by
  rw [add]
  split <;> rfl

lemma declared_foldl (ts : Targets) (new : List Target) :
    (new.foldl add ts).declared = ts.declared ++ new := by
  induction new generalizing ts with
  | nil => simp
  | cons t new ih => rw [List.foldl_cons, ih, declared_add, List.append_assoc]; rfl

/-- A key that is taken stays with its target. -/
lemma get?_add {ts : Targets} {key : Text} {u : Target} (h : ts.get? key = some u) (t : Target) :
    (ts.add t).get? key = some u := by
  rw [add]
  split
  · exact h
  · rename_i hnew
    have hkey : (key == t.name) = false := by
      refine beq_eq_false_iff_ne.mpr fun hkey => hnew ?_
      rw [← hkey, h]
      rfl
    rw [get?, List.lookup_cons, hkey]
    exact h

lemma get?_foldl {ts : Targets} {key : Text} {u : Target} (h : ts.get? key = some u)
    (new : List Target) : (new.foldl add ts).get? key = some u := by
  induction new generalizing ts with
  | nil => exact h
  | cons t new ih => exact ih (get?_add h t)

/-- Where all names are new, each target gets its key, in order. -/
lemma foldl_of_new {ts : Targets} (hts : ts.Agree) {new : List Target}
    (hnew : (ts.order ++ new.map Target.name).Nodup) :
    (new.foldl add ts).order = ts.order ++ new.map Target.name ∧
      ∀ t ∈ new, (new.foldl add ts).get? t.name = some t := by
  induction new generalizing ts with
  | nil => simp
  | cons t new ih =>
      have ht : t.name ∉ ts.order := fun h =>
        (List.nodup_append.mp hnew).2.2 _ h _ (by simp) rfl
      have hadd := add_of_new ht hts
      have horder : (ts.add t).order ++ new.map Target.name =
          ts.order ++ (t :: new).map Target.name := by
        rw [hadd, List.append_assoc]
        rfl
      obtain ⟨hlist, hget⟩ := ih (hts.add t) (by rwa [horder])
      refine ⟨by rw [List.foldl_cons, hlist, horder], fun u hu => ?_⟩
      rcases List.mem_cons.mp hu with rfl | hu
      · refine get?_foldl ?_ new
        rw [hadd, get?, List.lookup_cons_self]
      · exact hget u hu

end Targets

namespace Manifest

/-- Nothing is wrong with a manifest if and only if its file is valid. -/
lemma issues_ofFile_eq_nil_iff {path : Text} {f : File} :
    (ofFile path f).issues = [] ↔ f.Valid := by
  have hname : (if (Segment.sanitize f.name).isEmpty then [Issue.noName] else []) = [] ↔
      (Segment.sanitize f.name).isEmpty = false := by
    cases (Segment.sanitize f.name).isEmpty <;> simp
  have hrelative : (∀ p ∈ f.prelude.filter fun p => !p.isEmpty, Path.isAbsolute p = false) ↔
      ∀ p ∈ f.prelude, Path.isAbsolute p = false := by
    refine ⟨fun h p hp => ?_, fun h p hp => h p (List.mem_of_mem_filter hp)⟩
    cases hempty : p.isEmpty with
    | true => rw [Path.isAbsolute, List.isEmpty_iff.mp hempty]; rfl
    | false => exact h p (List.mem_filter.mpr ⟨hp, by rw [hempty]; rfl⟩)
  have htargets : targetIssues []
      ((f.targets.map declaredTarget).foldl Targets.add Targets.empty).declared = [] ↔
      (f.targets.map fun e => Segment.sanitize e.1).Nodup ∧
        ∀ e ∈ f.targets, e.2.trim.isEmpty = false := by
    have hdeclared := Targets.declared_foldl Targets.empty (f.targets.map declaredTarget)
    rw [Targets.empty, List.nil_append, ← Targets.empty] at hdeclared
    have hfree : ∀ t ∈ f.targets.map declaredTarget, ∀ s ∈ ([] : List Target), s.name ≠ t.name :=
      fun _ _ s hs => absurd hs List.not_mem_nil
    rw [hdeclared, targetIssues_eq_nil_iff, and_iff_right hfree, List.map_map, List.forall_mem_map]
    rfl
  have hdependencies : ((sortPairs f.dependencies).flatMap fun d =>
      d.2.issues.map (Issue.dependency d.1)) = [] ↔
        ∀ name d, f.dependency? name = some d → d.WellFormed := by
    simp only [List.flatMap_eq_nil_iff, List.map_eq_nil_iff, Dependency.issues_eq_nil_iff,
      Prod.forall, mem_sortPairs_iff]
    rfl
  rw [issues, ofFile]
  simp only [List.append_eq_nil_iff, hname, indexed_eq_nil_iff, hrelative, htargets, hdependencies]
  constructor
  · rintro ⟨⟨⟨⟨hname, hauthors⟩, hrelative⟩, hdistinct, hmain⟩, hdependencies⟩
    exact ⟨hname, hauthors, hrelative, hdistinct, hmain, hdependencies⟩
  · rintro ⟨hname, hauthors, hrelative, hdistinct, hmain, hdependencies⟩
    exact ⟨⟨⟨⟨hname, hauthors⟩, hrelative⟩, hdistinct, hmain⟩, hdependencies⟩

/-- What is accepted is the manifest of a valid file. -/
lemma parse_eq_ok_iff {codec : Codec} {path : Text} {content : Text.Bytes} {f : File}
    {m : Manifest} (hread : codec.readManifest content = some (.ok f)) :
    parse codec path content = .ok m ↔ f.Valid ∧ m = ofFile path f := by
  rw [parse, hread]
  dsimp only
  rw [← @issues_ofFile_eq_nil_iff path f, ← List.isEmpty_iff]
  split
  · rename_i hvalid
    rw [and_iff_right hvalid, Except.ok.injEq, eq_comm]
  · rename_i hinvalid
    exact iff_of_false (by simp) fun h => hinvalid h.1

lemma load_eq_ok_iff {w : World} {path : Text} {m : Manifest} :
    load w path = .ok m ↔ path.isEmpty = false ∧ ∃ p q content,
      w.absolute? path = some p ∧ w.files.lookup w.cwd p = .ok (q, .file content) ∧
        parse w.codec p content = .ok m := by
  rw [load]
  cases hempty : path.isEmpty with
  | true => simp
  | false =>
      rw [if_neg (by simp), and_iff_right rfl]
      cases habs : w.absolute? path with
      | none => simp
      | some p =>
          dsimp only
          constructor
          · intro h
            split at h
            · cases h
            · rename_i content hfile
              obtain ⟨q, hq⟩ := FileSystem.openAt_eq_file_iff.mp hfile
              exact ⟨p, q, content, rfl, hq, h⟩
            · cases h
          · rintro ⟨p', q, content, hp', hq, hparse⟩
            obtain rfl := Option.some.inj hp'
            rw [FileSystem.openAt_eq_file_iff.mpr ⟨q, hq⟩]
            exact hparse

/-! ### Targets -/

lemma findTarget_of_target? {m : Manifest} {name : Text} {t : Target}
    (h : m.target? (Segment.sanitize name) = some t) : m.findTarget name = some t := by
  have hsanitize : Segment.sanitize name.trim = Segment.sanitize name := by
    rw [Segment.sanitize, Text.trim_trim, ← Segment.sanitize]
  rw [findTarget, hsanitize, h]

/-- There is a default target if one is named `main` or there is only one. -/
lemma exists_defaultTarget_iff {m : Manifest} (hm : m.targets.Agree) :
    (∃ t, m.defaultTarget = .ok t) ↔
      ("main" : Text) ∈ m.targetOrder ∨ m.targetOrder.length = 1 := by
  have hmain : ("main" : Text) ∈ m.targetOrder ↔ ∃ t, m.target? "main" = some t := hm.keys _
  have hfirst : ∀ key ∈ m.targetOrder, ∃ t, m.target? key = some t := fun key => (hm.keys key).mp
  rw [hmain, defaultTarget]
  cases horder : m.targetOrder with
  | nil =>
      have hnone : m.target? "main" = none := by
        rw [Option.eq_none_iff_forall_ne_some]
        intro t ht
        have hmem := hmain.mpr ⟨t, ht⟩
        rw [horder] at hmem
        simp at hmem
      simp [hnone]
  | cons key keys =>
      obtain ⟨only, honly⟩ := hfirst key (by simp [horder])
      cases m.target? "main" with
      | some main => simp
      | none => cases keys <;> simp [honly]

/-- A table of targets with one entry for each line of a list, under its sanitized name and in the
same order. Every spelling of a name leads to its own entry, and there is a default if some entry is
named `main` or there is only one. -/
structure TargetTable (m : Manifest) (lines : List (Text × Text)) : Prop where
  order : m.targetOrder = lines.map fun e => Segment.sanitize e.1
  nodup : m.targetOrder.Nodup
  keys : ∀ key, key ∈ m.targetOrder ↔ ∃ t, m.target? key = some t
  name : ∀ key t, m.target? key = some t → t.name = key
  find : ∀ e ∈ lines, ∀ spelling, Segment.Respelled spelling e.1 →
    m.findTarget spelling = some (declaredTarget e)
  default : (∃ t, m.defaultTarget = .ok t) ↔
    ("main" : Text) ∈ m.targetOrder ∨ m.targetOrder.length = 1

/-- The targets of a file agree, valid or not. -/
lemma agree_ofFile (path : Text) (f : File) : (ofFile path f).targets.Agree :=
  Targets.agree_empty.foldl _

/-- The targets of a valid file. -/
lemma File.Valid.targetTable {f : File} (hf : f.Valid) (path : Text) :
    TargetTable (ofFile path f) f.targets := by
  have hagree := agree_ofFile path f
  have hnames : (f.targets.map declaredTarget).map Target.name =
      f.targets.map fun e => Segment.sanitize e.1 := by
    rw [List.map_map]
    rfl
  obtain ⟨horder, hget⟩ := Targets.foldl_of_new Targets.agree_empty
    (show ([] ++ (f.targets.map declaredTarget).map Target.name).Nodup by
      rw [List.nil_append, hnames]
      exact hf.distinct)
  exact
    { order := horder.trans hnames
      nodup := hagree.nodup
      keys := hagree.keys
      name := hagree.name
      find := fun e he spelling hspelling => by
        refine findTarget_of_target? ?_
        rw [Segment.sanitize_eq_iff.mpr hspelling]
        exact hget (declaredTarget e) (List.mem_map_of_mem he)
      default := exists_defaultTarget_iff hagree }

/-- **Validation is exact**. A manifest file is accepted if and only if it has a name, no empty
authors, no absolute path in its prelude, targets with distinct sanitized names and a file each, and
well-formed dependencies. The targets of what is accepted are those that the file declares, one for
each and in order, under their sanitized names. -/
theorem validation_exact (path : Text) (f : File) :
    ((ofFile path f).issues = [] ↔ f.Valid) ∧
      (∀ (codec : Codec) content, codec.readManifest content = some (.ok f) →
        ∀ m, parse codec path content = .ok m ↔ f.Valid ∧ m = ofFile path f) ∧
      ((ofFile path f).issues = [] → TargetTable (ofFile path f) f.targets) :=
  ⟨issues_ofFile_eq_nil_iff, fun _ _ hread _ => parse_eq_ok_iff hread,
    fun h => (issues_ofFile_eq_nil_iff.mp h).targetTable path⟩

/-- A file with two targets, none of them named `main`, and a dependency. -/
def twoTargets : File where
  name := "circle-area"
  version := ""
  authors := ["Ada"]
  prelude := ["lib/geometry.scm"]
  targets := [("tool", "src/tool.scm"), ("big-tool", " src/big.scm ")]
  dependencies := [("shapes", ⟨"", "/shapes", "", "v1", ""⟩)]

/-- The second target is found under another spelling of its name, and there is no default. -/
theorem validation_exact_twoTargets :
    twoTargets.Valid ∧
      (ofFile "/package.yml" twoTargets).findTarget " big_tool" =
        some ⟨"big_tool", "big-tool", "src/big.scm"⟩ ∧
      ¬ ∃ t, (ofFile "/package.yml" twoTargets).defaultTarget = .ok t := by
  obtain ⟨hvalid, -, htable⟩ := validation_exact "/package.yml" twoTargets
  have haccepted : (ofFile "/package.yml" twoTargets).issues = [] := by decide +kernel
  have hlines := htable haccepted
  refine ⟨hvalid.mp haccepted, ?_, ?_⟩
  · exact hlines.find ("big-tool", " src/big.scm ") (by decide) " big_tool"
      (Segment.sanitize_eq_iff.mp (by decide))
  · rw [hlines.default, hlines.order]
    decide

end Manifest

end PocketScheme
