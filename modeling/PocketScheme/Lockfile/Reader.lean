import PocketScheme.Lockfile.Basic
import PocketScheme.Yaml.Decode
import PocketScheme.Yaml.Printer

/-!
Lockfiles as documents.

* `Lockfile.decode`: the lockfile in a document, as it is there;
* `Lockfile.render`: a lockfile as a document.
-/

namespace PocketScheme.Lockfile

open PocketScheme.Yaml

/-! ### Reading -/

/-- Sets a field to a string, unless it is null. -/
def setString {σ : Type} (d : Document) (put : Text → σ → σ) (node : Node) (record : σ) :
    Decoding Empty σ := do
  match ← decodeString d node with
  | some s => return put s record
  | none => return record

/-- The fields of a package; other fields are refused. -/
def packageShape (d : Document) : Shape Empty LockedPackage where
  type := "driver.lockfilePackage"
  strict := true
  field? name :=
    match name.string? with
    | some "name" => some <| setString d fun s p => { p with name := s }
    | some "version" => some <| setString d fun s p => { p with version := s }
    | some "source" => some <| setString d fun s p => { p with source := s }
    | some "checksum" => some <| setString d fun s p => { p with checksum := s }
    | _ => none

/-- The fields of a lockfile; other fields are refused. -/
def shape (d : Document) : Shape Empty Lockfile where
  type := "driver.lockfileDisk"
  strict := true
  field? name :=
    match name.string? with
    | some "root" => some <| setString d fun s l => { l with root := s }
    | some "generated" => some <| setString d fun s l => { l with generated := s }
    | some "packages" => some fun node l => do
      let packages ← decodeRecords d (packageShape d) ⟨"", "", "", ""⟩ node
      return { l with packages := packages.map some }
    | _ => none

/-- The lockfile in a document, as it is there. -/
def decode (d : Document) : Except (Yaml.Refusal Empty) Lockfile :=
  (decodeRoot d (shape d) ⟨"", "", "", []⟩).result

/-! ### Writing -/

/-- A field and its value on a line. -/
def fieldLine (lead name : String) (indent : Nat) (value : Text) : String :=
  lead ++ name ++ ": " ++ Printer.renderLine indent value

/-- A package as an item of a sequence; an empty version is left out. -/
def renderPackage (p : LockedPackage) : String :=
  fieldLine "  - " "name" 6 p.name ++
    (if p.version.isEmpty then "" else fieldLine "    " "version" 6 p.version) ++
    fieldLine "    " "source" 6 p.source ++
    fieldLine "    " "checksum" 6 p.checksum

/-- A lockfile as a document. -/
def render (l : Lockfile) : String :=
  fieldLine "" "root" 2 l.root ++ fieldLine "" "generated" 2 l.generated ++
    (if l.entries.isEmpty then "packages: []\n"
    else "packages:\n" ++ String.join (l.entries.map renderPackage))

end PocketScheme.Lockfile
