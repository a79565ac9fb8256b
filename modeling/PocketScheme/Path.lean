import PocketScheme.Text.Basic

/-!
Paths as texts. These functions look at the text alone and never at a file.

* `Path.IsName`: the names of files and directories;
* `Path.clean`: the shortest equivalent text;
* `Path.join`, `Path.absolute`, `Path.dir`, `Path.base`, `Path.ext`.
-/

namespace PocketScheme.Path

/-- The parts of a text between slashes. -/
def split (gs : List Glyph) : List (List Glyph) :=
  match gs with
  | [] => [[]]
  | g :: rest =>
    if g == '/' then [] :: split rest
    else match split rest with
      | part :: parts => (g :: part) :: parts
      | [] => [[g]]

/-- The parts of a path between slashes, empty ones included. -/
def components (p : Text) : List Text :=
  (split p.toList).map Text.ofList

/-- A component that leads from a directory to something in it. -/
structure IsName (c : Text) : Prop where
  nonempty : c.isEmpty = false
  ne_here : c ≠ "."
  ne_up : c ≠ ".."
  slash_free : Glyph.char '/' ∉ c.toList

instance (c : Text) : Decidable (IsName c) :=
  decidable_of_iff (c.isEmpty = false ∧ c ≠ "." ∧ c ≠ ".." ∧ Glyph.char '/' ∉ c.toList)
    ⟨fun h => ⟨h.1, h.2.1, h.2.2.1, h.2.2.2⟩,
      fun h => ⟨h.nonempty, h.ne_here, h.ne_up, h.slash_free⟩⟩

/-- The path starts at the root. -/
def isAbsolute (p : Text) : Bool :=
  p.toList.head? == some (.char '/')

/-- Adds a component to cleaned ones, which are given in reverse: `..` takes one away, at the root
it goes, and at the front of a relative path it stays. -/
def cleanStep (rooted : Bool) (done : List Text) (c : Text) : List Text :=
  if c.isEmpty || c == "." then done
  else if c == ".." then
    match done with
    | [] => if rooted then [] else [".."]
    | d :: ds => if d == ".." then ".." :: d :: ds else ds
  else c :: done

/-- The components of the shortest equivalent path. -/
def cleanComponents (p : Text) : List Text :=
  ((components p).foldl (cleanStep (isAbsolute p)) []).reverse

/-- The shortest equivalent path: no empty components, no `.`, and `..` only at the front of a
relative path. -/
def clean (p : Text) : Text :=
  let body := Text.intercalate "/" (cleanComponents p)
  if isAbsolute p then "/" ++ body
  else if body.isEmpty then "."
  else body

/-- Joins paths, empty ones left out, and cleans the result. -/
def join (ps : List Text) : Text :=
  match ps.filter (fun p => !p.isEmpty) with
  | [] => ""
  | kept => clean (Text.intercalate "/" kept)

/-- The path from the root, for a relative path inside `cwd`. -/
def absolute (cwd p : Text) : Text :=
  if isAbsolute p then clean p else join [cwd, p]

/-- The path up to its last slash. -/
def dir (p : Text) : Text :=
  clean (Text.ofList (p.toList.reverse.dropWhile (· != .char '/')).reverse)

/-- The last component. -/
def base (p : Text) : Text :=
  if p.isEmpty then "."
  else
    let trimmed := p.toList.reverse.dropWhile (· == .char '/')
    if trimmed.isEmpty then "/"
    else Text.ofList (trimmed.takeWhile (· != .char '/')).reverse

/-- The end of the last component from its last dot on. -/
def ext (p : Text) : Text :=
  let last := p.toList.reverse.takeWhile (· != .char '/')
  if last.contains (.char '.') then
    Text.ofList (.char '.' :: (last.takeWhile (· != .char '.')).reverse)
  else ""

/-- The text without an ending, if it has it. -/
def dropEnd (p ending : Text) : Text :=
  if ending.toList.reverse.isPrefixOf p.toList.reverse then
    Text.ofList (p.toList.take (p.length - ending.length))
  else p

/-- The last component without its extension. -/
def stem (p : Text) : Text :=
  dropEnd (base p) (ext p)

end PocketScheme.Path
