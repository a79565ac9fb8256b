import PocketScheme.Lockfile.Reader
import PocketScheme.Manifest.Reader
import PocketScheme.Yaml.Document

/-!
How manifests and lockfiles are written in files. Loading and saving are about any way of doing
this; the one that is used is that of YAML documents.

* `Codec`: reading manifests, reading lockfiles and writing lockfiles;
* `Codec.yaml`: all of this with documents.
-/

namespace PocketScheme

/-- What reading the content of a file comes to: nothing where there is no document in it, a
refusal, or what the document says. -/
abbrev Reading (ε α : Type) := Option (Except (Yaml.Refusal ε) α)

/-- How manifests and lockfiles are written in files. -/
structure Codec where
  readManifest : Text.Bytes → Reading Manifest.Refusal Manifest.File
  /-- The lockfile as it is written, without a path. -/
  readLockfile : Text.Bytes → Reading Empty Lockfile
  writeLockfile : Lockfile → Text.Bytes

namespace Codec

/-- Reads the document in a content. -/
def readDocument {ε α : Type} (decode : Yaml.Document → Except (Yaml.Refusal ε) α)
    (content : Text.Bytes) : Reading ε α :=
  match Yaml.Document.read content with
  | .malformed => some (.error .malformed)
  | .empty => none
  | .document d => some (decode d)

/-- Manifests and lockfiles are documents. -/
def yaml : Codec where
  readManifest := readDocument Manifest.File.decode
  readLockfile := readDocument Lockfile.decode
  writeLockfile l := (Text.ofString l.render).bytes

end Codec

end PocketScheme
