import Mathlib.Data.List.Forall2
import Mathlib.Tactic.Lemma

/-!
Computations that can fail, read backwards from their results.

* `exists_of_bind_eq_ok`, `error_of_bind_eq_error`, `exists_of_map_eq_ok`: one after the other;
* `forall₂_of_mapM_eq_ok`, `mapM_eq_ok`, `exists_mapM_eq_ok`, `mapM_eq_error`: one for each element
  of a list;
* `eq_ok_of_toOption_eq_some`: the result as an option.
-/

namespace PocketScheme

variable {ε α β : Type}

/-- A result comes from a result of the first computation. -/
lemma exists_of_bind_eq_ok {x : Except ε α} {k : α → Except ε β} {b : β}
    (h : x >>= k = .ok b) : ∃ a, x = .ok a ∧ k a = .ok b := by
  cases x with
  | error f => cases h
  | ok a => exact ⟨a, rfl, h⟩

/-- A failure is one of the first computation, or of the second one on its result. -/
lemma error_of_bind_eq_error {x : Except ε α} {k : α → Except ε β} {f : ε}
    (h : x >>= k = .error f) : x = .error f ∨ ∃ a, x = .ok a ∧ k a = .error f := by
  cases x with
  | error g =>
      cases h
      exact .inl rfl
  | ok a => exact .inr ⟨a, rfl, h⟩

lemma exists_of_map_eq_ok {x : Except ε α} {f : α → β} {b : β} (h : f <$> x = .ok b) :
    ∃ a, x = .ok a ∧ f a = b := by
  cases x with
  | error f => cases h
  | ok a => exact ⟨a, rfl, Except.ok.inj h⟩

/-- The results for a list are results for its elements. -/
lemma forall₂_of_mapM_eq_ok {f : α → Except ε β} {xs : List α} {ys : List β}
    (h : xs.mapM f = .ok ys) : List.Forall₂ (fun x y => f x = .ok y) xs ys := by
  induction xs generalizing ys with
  | nil =>
      cases h
      exact .nil
  | cons x xs ih =>
      rw [List.mapM_cons] at h
      obtain ⟨y, hy, h⟩ := exists_of_bind_eq_ok h
      obtain ⟨ys, hys, h⟩ := exists_of_bind_eq_ok h
      cases h
      exact .cons hy (ih hys)

lemma mapM_eq_ok {f : α → Except ε β} {g : α → β} {xs : List α}
    (h : ∀ x ∈ xs, f x = .ok (g x)) : xs.mapM f = .ok (xs.map g) := by
  induction xs with
  | nil => rfl
  | cons x xs ih =>
      obtain ⟨hx, hxs⟩ := List.forall_mem_cons.mp h
      rw [List.mapM_cons, hx, ih hxs]
      rfl

/-- There are results for a list if there is one for each element. -/
lemma exists_mapM_eq_ok {f : α → Except ε β} {xs : List α} (h : ∀ x ∈ xs, ∃ y, f x = .ok y) :
    ∃ ys, xs.mapM f = .ok ys := by
  induction xs with
  | nil => exact ⟨[], rfl⟩
  | cons x xs ih =>
      obtain ⟨⟨y, hy⟩, hxs⟩ := List.forall_mem_cons.mp h
      obtain ⟨ys, hys⟩ := ih hxs
      rw [List.mapM_cons, hy, hys]
      exact ⟨y :: ys, rfl⟩

lemma mapM_eq_error {f : α → Except ε β} {xs : List α} {x : α} {fault : ε} (hx : x ∈ xs)
    (h : f x = .error fault) : ∃ fault, xs.mapM f = .error fault := by
  induction xs with
  | nil => cases hx
  | cons y ys ih =>
      rw [List.mapM_cons]
      cases hy : f y with
      | error fault => exact ⟨fault, rfl⟩
      | ok b =>
          have hmem : x ∈ ys := by
            rcases List.mem_cons.mp hx with rfl | hmem
            · rw [h] at hy
              cases hy
            · exact hmem
          obtain ⟨fault, hfault⟩ := ih hmem
          rw [hfault]
          exact ⟨fault, rfl⟩

lemma eq_ok_of_toOption_eq_some {x : Except ε α} {a : α} (h : x.toOption = some a) : x = .ok a := by
  cases x with
  | error _ => cases h
  | ok _ => cases h; rfl

end PocketScheme
