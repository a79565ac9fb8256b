import PocketScheme.Manifest.Basic
import PocketScheme.Yaml.Decode

/-!
Reading manifest files. Targets and dependencies have readers of their own: a target may be just
its file and a dependency just its path, and their order is kept. Lists may be a single string.

* `Manifest.Refusal`: what these readers refuse;
* `Manifest.File.decode`: the manifest file in a document.
-/

namespace PocketScheme.Manifest

open PocketScheme.Yaml

/-- A part of a document that is not read: malformed, or with issues. -/
abbrev PartRefusal := Yaml.Refusal Empty

/-- What the readers of a manifest's parts refuse. -/
inductive Refusal where
  | targetsNotMapping
  | emptyTargetKey
  | target (key : Text) (cause : PartRefusal)
  | dependenciesNotMapping
  | emptyDependencyName
  | dependency (key : Text) (cause : PartRefusal)
  | dependencyShape (key : Text) (tag : Yaml.Tag)
  | listShape (tag : Yaml.Tag)

namespace Refusal

/-- The text of a part that is not read. -/
def partMessage (cause : PartRefusal) : Text :=
  cause.message Empty.elim

/-- The text of a refusal. -/
def message : Refusal → Text
  | targetsNotMapping => "manifest: targets must be a mapping"
  | emptyTargetKey => "manifest: targets must not use empty keys"
  | target key cause => "manifest: target " ++ Text.quote key ++ ": " ++ partMessage cause
  | dependenciesNotMapping => "manifest: dependencies must be a mapping"
  | emptyDependencyName => "manifest: dependency names must be non-empty"
  | dependency key cause => "manifest: dependency " ++ Text.quote key ++ ": " ++ partMessage cause
  | dependencyShape key tag =>
    "manifest: dependency " ++ Text.quote key ++ ": expected string or mapping but found " ++
      tag.render
  | listShape tag => "manifest: expected string or sequence for list but found " ++ tag.render

end Refusal

/-- Reading manifests. -/
abbrev Reader := Decoding Refusal

/-! ### Parts -/

/-- A string read on its own: issues are handed on, and nothing is read then. -/
def stringAlone (d : Document) (node : Node) : Reader (Option Text) :=
  match (decodeText d node : Decoding Empty Text).result with
  | .ok s => return some s
  | .error .malformed => Decoding.malformed
  | .error .badBinary => Decoding.badBinary
  | .error (.incomparable type) => Decoding.incomparable type
  | .error (.mismatched issues) => do
    Decoding.report issues
    return none
  | .error (.custom e) => e.elim

/-- The strings of a sequence without blanks around them; nothing if one of them is no string. -/
def stringItems (d : Document) : List Node → Reader (Option (List Text))
  | [] => return some []
  | node :: nodes => do
    match ← stringAlone d node with
    | none => return none
    | some s =>
      let rest ← stringItems d nodes
      return rest.map (Text.trim s :: ·)

/-- A list of strings: a sequence, or one string by itself. -/
def stringList (d : Document) (node : Node) : Reader (Option (List Text)) :=
  match d.target node with
  | .scalar tag text _ =>
    let s := Text.trim text
    return some (if tag == .null || s.isEmpty then [] else [s])
  | .sequence _ items _ => stringItems d items
  | .mapping tag _ _ => Decoding.refuse (.listShape tag)
  | .reference _ _ _ => return none

/-- A target's file: the field `main` of a mapping. -/
def targetShape (d : Document) : Shape Empty Text where
  type := "driver.targetYAML"
  strict := false
  field? name :=
    if name == "main" then some fun node main => (·.getD main) <$> decodeString d node else none

/-- The file of a target, which may be given by itself. -/
def targetMain (d : Document) (key : Text) (node : Node) : Reader Text :=
  let inMapping : Reader Text :=
    match (decodeRecord d (targetShape d) node "").result with
    | .ok (main, _) => return main
    | .error (.incomparable type) => Decoding.incomparable type
    | .error cause => Decoding.refuse (.target key cause)
  match node with
  | .scalar tag text _ => if tag == .null then inMapping else return text
  | _ => inMapping

/-- The targets of a mapping, up to one whose name is no string. -/
def targetEntries (d : Document) : List (Node × Node) → Reader (Option (List (Text × Text)))
  | [] => return some []
  | (keyNode, node) :: pairs => do
    match ← stringAlone d keyNode with
    | none => return none
    | some key =>
      let key := Text.trim key
      if key.isEmpty then Decoding.refuse .emptyTargetKey
      else
        let main ← targetMain d key node
        let rest ← targetEntries d pairs
        return rest.map ((key, main) :: ·)

/-- How the fields of a dependency are set, in a record of a type with the given name. -/
def dependencyFields {ε : Type} (type : String) (strict : Bool) (d : Document) :
    Shape ε Dependency where
  type := type
  strict := strict
  field? name :=
    let set (put : Text → Dependency → Dependency) :
        Option (Node → Dependency → Decoding ε Dependency) :=
      some fun node dep => do
        match ← decodeString d node with
        | some s => return put s dep
        | none => return dep
    match name.string? with
    | some "path" => set fun s dep => { dep with path := s }
    | some "git" => set fun s dep => { dep with git := s }
    | some "rev" => set fun s dep => { dep with rev := s }
    | some "tag" => set fun s dep => { dep with tag := s }
    | some "branch" => set fun s dep => { dep with branch := s }
    | _ => none

/-- The fields of a dependency. -/
def dependencyShape (d : Document) : Shape Empty Dependency :=
  dependencyFields
    ("struct \x7b Path string \"yaml:\\\"path\\\"\"; Git string \"yaml:\\\"git\\\"\"; " ++
      "Rev string \"yaml:\\\"rev\\\"\"; Tag string \"yaml:\\\"tag\\\"\"; " ++
      "Branch string \"yaml:\\\"branch\\\"\" \x7d") false d

/-- A dependency without blanks around its fields. -/
def trimDependency (dep : Dependency) : Dependency :=
  ⟨Text.trim dep.path, Text.trim dep.git, Text.trim dep.rev, Text.trim dep.tag,
    Text.trim dep.branch⟩

/-- A dependency, which may be just a path. An alias is neither a path nor a mapping. -/
def dependencyOf (d : Document) (key : Text) (node : Node) : Reader Dependency :=
  match node with
  | .scalar _ text _ => return .ofPath (Text.trim text)
  | .mapping _ _ _ =>
    match (decodeRecord d (dependencyShape d) node (.ofPath "")).result with
    | .ok (dep, _) => return trimDependency dep
    | .error (.incomparable type) => Decoding.incomparable type
    | .error cause => Decoding.refuse (.dependency key cause)
  | other => Decoding.refuse (.dependencyShape key (d.tagOf other))

/-- The dependencies of a mapping, up to one whose name is no string. -/
def dependencyEntries (d : Document) :
    List (Node × Node) → Reader (Option (List (Text × Dependency)))
  | [] => return some []
  | (keyNode, node) :: pairs => do
    match ← stringAlone d keyNode with
    | none => return none
    | some key =>
      let key := Text.trim key
      if key.isEmpty then Decoding.refuse .emptyDependencyName
      else
        let dep ← dependencyOf d key node
        let rest ← dependencyEntries d pairs
        return rest.map ((key, dep) :: ·)

/-- The pairs of a mapping; null is an empty one. -/
def mappingPairs (d : Document) (refusal : Refusal) (node : Node) : Reader (List (Node × Node)) :=
  match d.target node with
  | .mapping _ pairs _ => return pairs
  | _ => Decoding.refuse refusal

/-- The targets in a node. -/
def allTargets (d : Document) (node : Node) : Reader (Option (List (Text × Text))) := do
  targetEntries d (← mappingPairs d .targetsNotMapping node)

/-- The dependencies in a node. -/
def allDependencies (d : Document) (node : Node) : Reader (Option (List (Text × Dependency))) := do
  dependencyEntries d (← mappingPairs d .dependenciesNotMapping node)

/-! ### Collections that are called null

A collection with the tag of null is read without the readers above: strings keep their blanks,
targets have no fields, and dependencies are mappings with no other fields. What it merges is read
by them again, and counts instead of everything before. -/

/-- A list of strings in a sequence; what is no string does not count. -/
def plainStrings (d : Document) (node : Node) : Reader (Option (List Text)) :=
  match node with
  | .sequence _ items _ => do
    let read ← items.mapM fun item => decodeString d item
    return some (read.filterMap id)
  | other => do
    reportCollection "driver.stringList" other
    return none

/-- Targets, which have no fields. -/
def plainTargets (d : Document) (node : Node) : Reader (Option (List (Text × Text))) := do
  let merged (node : Node) (ts : List (Text × Text)) : Reader (List (Text × Text)) :=
    (·.getD ts) <$> allTargets d node
  let shape : Shape Refusal (List (Text × Text)) :=
    ⟨"driver.targetMap", true, true, fun _ => none, some merged⟩
  match node with
  | .mapping _ pairs _ => some <$> decodeMapping d shape (d.size + 1) pairs []
  | other =>
    reportCollection shape.type other
    return none

/-- A dependency in a mapping, added to others under a name; null is none. -/
def plainDependency (d : Document) (name : Text) (node : Node)
    (deps : List (Text × Dependency)) : Reader (List (Text × Dependency)) := do
  let type := "driver.DependencySpec"
  let target := d.target node
  match target, d.tagOf target with
  | .scalar _ _ _, .null | .sequence _ _ _, .null | .mapping _ _ _, .null =>
    Decoding.visiting d node fun
      | .scalar tag text _ => do
        let _ ← scalarString tag text
      | other => reportCollection ("*" ++ type) other
    return deps.filter fun dep => dep.1 != name
  | _, _ =>
    let (dep, good) ← decodeRecord d (dependencyFields type true d) node (.ofPath "")
    return if good then deps ++ [(name, dep)] else deps

/-- Dependencies in a mapping. -/
def plainDependencies (d : Document) (node : Node) :
    Reader (Option (List (Text × Dependency))) := do
  let merged (node : Node) (ds : List (Text × Dependency)) : Reader (List (Text × Dependency)) :=
    (·.getD ds) <$> allDependencies d node
  let shape : Shape Refusal (List (Text × Dependency)) :=
    ⟨"driver.dependencyMap", true, false, fun name => some (plainDependency d name), some merged⟩
  match node with
  | .mapping _ pairs _ =>
    let deps ← decodeMapping d shape (d.size + 1) pairs []
    return some deps
  | other =>
    reportCollection shape.type other
    return none

/-! ### Files -/

/-- Reads a value with a reader of its own. Null does not reach it, and what is called null is read
by `plain` instead. -/
def withReader {α : Type} (d : Document) (read plain : Node → Reader (Option α))
    (put : α → File → File) (node : Node) (f : File) : Reader File :=
  Decoding.visiting d node fun target => do
    let value ← match target, d.tagOf target with
      | .scalar tag text _, .null => do
        let _ ← scalarString tag text
        pure none
      | target, .null => plain target
      | target, _ => read target
    return (value.map fun a => put a f).getD f

/-- The fields of a manifest file; other fields are refused. -/
def fileShape (d : Document) : Shape Refusal File where
  type := "driver.manifestFile"
  strict := true
  field? name :=
    match name.string? with
    | some "name" => some fun node f => do
      match ← decodeString d node with
      | some s => return { f with name := s }
      | none => return f
    | some "version" => some fun node f => do
      match ← decodeString d node with
      | some s => return { f with version := s }
      | none => return f
    | some "authors" => some <| withReader d (stringList d) (plainStrings d)
      fun xs f => { f with authors := xs }
    | some "prelude" => some <| withReader d (stringList d) (plainStrings d)
      fun xs f => { f with prelude := xs }
    | some "targets" => some <| withReader d (allTargets d) (plainTargets d)
      fun ts f => { f with targets := ts }
    | some "dependencies" => some <| withReader d (allDependencies d) (plainDependencies d)
      fun ds f => { f with dependencies := ds }
    | _ => none

/-- The manifest file in a document. -/
def File.decode (d : Document) : Except (Yaml.Refusal Refusal) File :=
  (decodeRoot d (fileShape d) File.empty).result

end PocketScheme.Manifest
