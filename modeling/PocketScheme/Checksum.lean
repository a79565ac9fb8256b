import PocketScheme.FileSystem
import PocketScheme.Sha256

/-!
The checksum of a directory: the hash of the paths and contents of its files, one after the other
in the order of a walk. Directories named `.git` do not count, and neither do empty ones. A walk
enters directories but no links; whatever else it meets is read by its path, and so through links.

* `Checksum.visits`: what a walk meets;
* `Checksum.files`: the files that count;
* `Checksum.stream`: the bytes that are hashed;
* `Checksum.ofPath`: the checksum of what a path leads to.
-/

namespace PocketScheme.Checksum

/-- The name of the directories that do not count. -/
def skipped : Text := ".git"

/-- The place is not below a skipped directory. -/
def counts (p : Place) : Bool :=
  !p.dropLast.contains skipped

/-- The order of a walk through directories: names are compared one by one. -/
def comesFirst : Place → Place → Bool
  | [], _ => true
  | _ :: _, [] => false
  | a :: as, b :: bs => if a == b then comesFirst as bs else decide (a.bytes < b.bytes)

/-- Adds what is at a place to what a walk meets, before the first that comes after it. -/
def insert (b : Place × Entry) : List (Place × Entry) → List (Place × Entry)
  | [] => [b]
  | c :: cs => if comesFirst b.1 c.1 then b :: c :: cs else c :: insert b cs

/-- What a walk through the directory at a place meets, in order, by the names that lead there. -/
def visits (fs : FileSystem) (p : Place) : List (Place × Entry) :=
  ((fs.below p).filter fun b => counts b.1).foldr insert []

/-- The path of what a walk from a path meets. -/
def pathTo (path : Text) (rest : Place) : Text :=
  if rest.isEmpty then path else Path.join (path :: rest)

/-- What comes of meeting something on a walk from a path: a directory has to open, and anything
else is read. -/
def visit (fs : FileSystem) (cwd path : Text) (b : Place × Entry) :
    Except PathFault (Option (Place × Text.Bytes)) :=
  if b.2.isDirectory then
    if b.1.getLast? == some skipped then .ok none
    else match fs.openAt cwd (pathTo path b.1) with
      | .ok _ => .ok none
      | .error fault => .error fault
  else match fs.read cwd (pathTo path b.1) with
    | .ok content => .ok (some (b.1, content))
    | .error fault => .error fault

/-- The files below the place of a path that count, in order, with what is read from them. -/
def files (fs : FileSystem) (cwd path : Text) (p : Place) :
    Except PathFault (List (Place × Text.Bytes)) :=
  match (visits fs p).mapM (visit fs cwd path) with
  | .ok read => .ok (read.filterMap id)
  | .error fault => .error fault

/-- The bytes that are hashed: for each file its path and its content. -/
def stream (found : List (Place × Text.Bytes)) : Text.Bytes :=
  found.flatMap fun f => (Text.intercalate "/" f.1).bytes ++ f.2

/-- The last name of a path as it is written. -/
def lastName (path : Text) : Text :=
  let trimmed := path.toList.reverse.dropWhile (· == .char '/')
  Text.ofList (trimmed.takeWhile (· != .char '/')).reverse

/-- The bytes that are hashed for what a path leads to. A file by itself goes by the name `.`, and
of a skipped directory nothing counts. -/
def streamOf (fs : FileSystem) (cwd path : Text) (p : Place) (e : Entry) :
    Except PathFault Text.Bytes :=
  if e.isDirectory then
    if lastName path == skipped then .ok [] else stream <$> files fs cwd path p
  else (Text.bytes "." ++ ·) <$> fs.read cwd path

/-- The checksum of what a path leads to, in hexadecimal. -/
def ofPath (fs : FileSystem) (cwd path : Text) : Except PathFault Text :=
  match FileSystem.inspect "lstat" path (fs.followTo cwd path) with
  | .ok (p, e) => (fun bytes => (Sha256.hex bytes : Text)) <$> streamOf fs cwd path p e
  | .error f => .error f

end PocketScheme.Checksum
