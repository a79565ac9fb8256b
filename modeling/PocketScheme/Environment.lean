import PocketScheme.Expr.Basic

/-!
Environments: a stack of frames, the innermost first. A name means its innermost binding, whichever
procedure made that frame, so scope is dynamic.

* `Frame.get?`, `Frame.insert`, `Frame.names`;
* `Environment.push`, `Environment.pop`, `Environment.insert?`, `Environment.lookup`,
  `Environment.names?`.
-/

namespace PocketScheme

/-- The bindings of one activation, each name at most once. -/
abbrev Frame := List (String × Expr)

namespace Frame

/-- The binding of a name. -/
def get? (f : Frame) (name : String) : Option Expr :=
  List.lookup name f

/-- Binds a name; an earlier binding of it goes. -/
def insert (f : Frame) (name : String) (value : Expr) : Frame :=
  (name, value) :: f.filter (fun b => b.1 != name)

/-- The bound names in increasing order. -/
def names (f : Frame) : List String :=
  (f.map Prod.fst).mergeSort (fun a b => decide (a ≤ b))

@[simp] theorem get?_nil (name : String) : get? [] name = none := rfl

@[simp] theorem get?_insert_self (f : Frame) (name : String) (value : Expr) :
    (f.insert name value).get? name = some value := by
  simp [get?, insert]

theorem get?_filter_ne (f : Frame) {name other : String} (h : other ≠ name) :
    get? (f.filter (fun b => b.1 != name)) other = get? f other := by
  induction f with
  | nil => rfl
  | cons b f ih =>
    obtain ⟨key, value⟩ := b
    unfold get? at *
    by_cases hk : key = name
    · subst hk
      have hne : (other == key) = false := by simpa using h
      simp [List.lookup_cons, hne, ih]
    · by_cases ho : other = key
      · subst ho; simp [hk]
      · have hne : (other == key) = false := by simpa using ho
        simp [List.lookup_cons, hk, hne, ih]

theorem get?_insert_of_ne (f : Frame) {name other : String} (value : Expr) (h : other ≠ name) :
    (f.insert name value).get? other = f.get? other := by
  have hne : (other == name) = false := by simpa using h
  rw [← get?_filter_ne f h]
  simp [get?, insert, List.lookup_cons, hne]

end Frame

/-- A stack of frames, the innermost first. -/
abbrev Environment := List Frame

namespace Environment

/-- The environment with a further, empty frame. -/
def push (env : Environment) : Environment :=
  [] :: env

/-- The environment without its innermost frame, if it has one. -/
def pop (env : Environment) : Environment :=
  env.tail

/-- The number of frames. -/
def depth (env : Environment) : Nat :=
  env.length

/-- Binds a name in the innermost frame, if there is one. -/
def insert? (env : Environment) (name : String) (value : Expr) : Option Environment :=
  match env with
  | [] => none
  | f :: fs => some (f.insert name value :: fs)

/-- The innermost binding of a name. -/
def lookup (env : Environment) (name : String) : Option Expr :=
  env.findSome? (·.get? name)

/-- The names bound in the innermost frame, in increasing order, if there is one. -/
def names? (env : Environment) : Option (List String) :=
  env.head?.map Frame.names

end Environment

end PocketScheme
