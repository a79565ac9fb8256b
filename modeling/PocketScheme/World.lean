import PocketScheme.Codec
import PocketScheme.Git
import PocketScheme.Text.Blank

/-!
What a run of the program finds around it: the machine that it is on, version control, and the way
that manifests and lockfiles are written.

* `World`: these together;
* `World.home`: the directory that the program keeps its own files in.
-/

namespace PocketScheme

/-- What a run finds around it. -/
structure World extends Host where
  git : Git
  codec : Codec

namespace World

/-- The world with other files. -/
def withFiles (w : World) (files : FileSystem) : World :=
  { w with files := files }

/-- The value of an environment variable, empty if it is not set. -/
def getVariable (w : World) (name : String) : Text :=
  (w.vars.lookup name).getD ""

/-- The path from the root. Once the working directory is gone, a relative path has none. -/
def absolute? (w : World) (path : Text) : Option Text :=
  if Path.isAbsolute path || w.files.isDirectory (FileSystem.placeOf w.cwd) then
    some (Path.absolute w.cwd path)
  else none

/-- What is said of a working directory that is gone. -/
def goneText : String := "getwd: no such file or directory"

/-- The content of a file. -/
def contentOf (w : World) (path : Text) : Except PathFault Text.Bytes :=
  w.files.read w.cwd path

/-- Writes a file. -/
def write (w : World) (path : Text) (content : Text.Bytes) : Except PathFault Unit × World :=
  let r := w.files.write w.space w.cwd path content
  (r.1, w.withFiles r.2)

/-- The variable that names the program's own directory. -/
def homeVariable : String := "SICP_HOME"

/-- Why there is no directory for the program's own files: it is relative to a directory that is
gone, or nothing names one. -/
inductive HomeFault where
  | gone
  | unknown
  deriving DecidableEq, Repr

/-- The text of a missing home directory. -/
def HomeFault.message : HomeFault → String
  | gone => goneText
  | unknown => "loader: locate home directory: $HOME is not defined"

/-- The directory for the program's own files: the one that its variable names, or one in the
user's home directory. -/
def home (w : World) : Except HomeFault Text :=
  let own := (w.getVariable homeVariable).trim
  if !own.isEmpty then
    match w.absolute? own with
    | some path => .ok path
    | none => .error .gone
  else
    let user := w.getVariable "HOME"
    if user.isEmpty then .error .unknown else .ok (Path.join [user, ".sicp"])

end World

end PocketScheme
