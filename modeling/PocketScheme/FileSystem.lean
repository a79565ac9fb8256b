import PocketScheme.Number.Printer
import PocketScheme.Path

/-!
A file system: what is stored at each place. A place is the list of names from the root; a path is
a text that leads to a place from a working directory, name by name and through links.

Of permissions there is only the one to open something: whoever can enter a directory can also
store and remove things in it. Owners, times, devices and pipes are left out, and so are failures
of the device itself; the space on it counts for the content of files and for nothing else.

* `Entry`: files, directories, links, and what may not be opened;
* `FileSystem.get?`, `FileSystem.put`, `FileSystem.remove`, `FileSystem.below`;
* `FileSystem.follow`, `FileSystem.followTo`: where a path leads, with its last name followed if
  that is a link, or not;
* `FileSystem.read`, `FileSystem.write`, `FileSystem.makeDirs`, `FileSystem.makeTemp`,
  `FileSystem.removeAll`, `FileSystem.moveDir`: operations on paths;
* `PathFault`: why an operation on a path failed.
-/

namespace PocketScheme

/-- The names from the root to a file or directory. -/
abbrev Place := List Text

/-- What a place holds. A link need not lead anywhere, and there is no more to permissions than
whether a file or a directory may be opened. -/
inductive Entry where
  | file (content : Text.Bytes)
  | directory
  /-- A link stands for the path that it holds. -/
  | link (target : Text)
  /-- A file or a directory that there is no permission to open. -/
  | barred (isDir : Bool)
  deriving DecidableEq

namespace Entry

/-- The entry is a directory. -/
def isDirectory : Entry → Bool
  | directory => true
  | barred isDir => isDir
  | file _ | link _ => false

end Entry

/-- What is stored where; the first entry of a place counts, and the root is always a directory. -/
abbrev FileSystem := List (Place × Entry)

/-- Why a path leads nowhere, or not to what is needed, or why nothing more can be written there.
Failures of the device are not among these. -/
inductive PathCause where
  | notExist
  | notDirectory
  | isDirectory
  | nameTooLong
  | invalidArgument
  /-- There are too many links on the way. -/
  | loop
  | denied
  /-- Something is there already. -/
  | occupied
  /-- No name for a new file was free. -/
  | taken
  /-- The device is full. -/
  | noSpace
  deriving DecidableEq, Repr

/-- The text of a cause. -/
def PathCause.message : PathCause → String
  | notExist => "no such file or directory"
  | notDirectory => "not a directory"
  | isDirectory => "is a directory"
  | nameTooLong => "file name too long"
  | invalidArgument => "invalid argument"
  | loop => "too many levels of symbolic links"
  | denied => "permission denied"
  | occupied => "file exists"
  | taken => "file already exists"
  | noSpace => "no space left on device"

/-- A failed operation on a path: its name, the path and the cause. -/
structure PathFault where
  operation : String
  path : Text
  cause : PathCause
  deriving DecidableEq, Repr

/-- The text of a failed operation. -/
def PathFault.message (f : PathFault) : Text :=
  f.operation ++ " " ++ f.path ++ ": " ++ f.cause.message

namespace FileSystem

/-- What a place holds. -/
def get? (fs : FileSystem) (p : Place) : Option Entry :=
  if p.isEmpty then some .directory else List.lookup p fs

/-- The place holds a directory. -/
def isDirectory (fs : FileSystem) (p : Place) : Bool :=
  (fs.get? p).any Entry.isDirectory

/-- Stores an entry at a place, instead of what was there. -/
def put (fs : FileSystem) (p : Place) (e : Entry) : FileSystem :=
  (p, e) :: fs.filter (fun b => b.1 != p)

/-- Removes a place and everything below it. -/
def remove (fs : FileSystem) (p : Place) : FileSystem :=
  fs.filter (fun b => !p.isPrefixOf b.1)

/-- Everything below a place, by the names that lead from it, that place itself included. -/
def below (fs : FileSystem) (p : Place) : List (Place × Entry) :=
  fs.filterMap fun b => (p.isPrefixOf? b.1).map fun rest => (rest, b.2)

/-- Stores entries below a place, by the names that lead from it, instead of what was there. -/
def graft (fs : FileSystem) (p : Place) (entries : List (Place × Entry)) : FileSystem :=
  entries.map (fun b => (p ++ b.1, b.2)) ++ fs.remove p

/-! ### Following a path -/

/-- Where a path leads: to something, to a free place in a directory, or nowhere. -/
inductive Found where
  | entry (place : Place) (entry : Entry)
  | free (place : Place)
  | nowhere (cause : PathCause)

/-- What is found, or why there is nothing. -/
def Found.result : Found → Except PathCause (Place × Entry)
  | entry p e => .ok (p, e)
  | free _ => .error .notExist
  | nowhere cause => .error cause

/-- The place as something that is found. -/
def spot (fs : FileSystem) (p : Place) : Found :=
  match fs.get? p with
  | some e => .entry p e
  | none => .free p

/-- The most bytes in a name. -/
def nameLimit : Nat := 255

/-- A path has fewer bytes than this. -/
def pathLimit : Nat := 4096

/-- The most links on the way of a path. -/
def linkLimit : Nat := 40

/-- Where one name leads: to a place, to a link that is followed, or nowhere. -/
inductive Step where
  | place (place : Place)
  | link (target : Text)
  | nowhere (cause : PathCause)

/-- Where a name leads from a place, which has to be a directory that may be entered. An empty name
and `.` stay there, and `..` goes to the directory around it. -/
def stepFrom (fs : FileSystem) (through : Bool) (p : Place) (c : Text) : Step :=
  match fs.get? p with
  | some .directory =>
    if c.isEmpty || c == "." then .place p
    else if c == ".." then .place p.dropLast
    else if nameLimit < c.bytes.length then .nowhere .nameTooLong
    else match fs.get? (p ++ [c]) with
      | some (.link target) => if through then .link target else .place (p ++ [c])
      | _ => .place (p ++ [c])
  | some (.barred true) => .nowhere .denied
  | some _ => .nowhere .notDirectory
  | none => .nowhere .notExist

/-- Where names lead without following links: to their end, or to a link in the directory
`around` with more names behind it. -/
inductive Way where
  | arrived (found : Found)
  | link (around : Place) (target : Text) (rest : List Text)

/-- Follows names from a place, up to a link. If the last name is a link, then that is where the
names lead, unless `last` says that it is followed as well. -/
def advance (fs : FileSystem) (last : Bool) (p : Place) : List Text → Way
  | [] => .arrived (fs.spot p)
  | c :: cs =>
    match fs.stepFrom (last || !cs.isEmpty) p c with
    | .place q => advance fs last q cs
    | .link target => .link p target cs
    | .nowhere cause => .arrived (.nowhere cause)

/-- Follows names from a place, through so many links at most. -/
def followFrom (fs : FileSystem) (last : Bool) : Nat → Place → List Text → Found
  | 0, p, cs =>
    match fs.advance last p cs with
    | .arrived found => found
    | .link _ _ _ => .nowhere .loop
  | n + 1, p, cs =>
    match fs.advance last p cs with
    | .arrived found => found
    | .link around target rest =>
      followFrom fs last n (if Path.isAbsolute target then [] else around)
        (Path.components target ++ rest)

/-- The place of a path from the root. -/
def placeOf (path : Text) : Place :=
  Path.cleanComponents path

/-- Where a path leads from the working directory `cwd`, with its last name followed or not. -/
def trace (fs : FileSystem) (last : Bool) (cwd path : Text) : Found :=
  if path.isEmpty then .nowhere .notExist
  else if path.toList.contains (.char '\x00') then .nowhere .invalidArgument
  else if pathLimit ≤ path.bytes.length then .nowhere .nameTooLong
  else fs.followFrom last linkLimit (if Path.isAbsolute path then [] else placeOf cwd)
    (Path.components path)

/-- Where a path leads. -/
def follow (fs : FileSystem) (cwd path : Text) : Found :=
  fs.trace true cwd path

/-- Where a path leads that may be the path of a link. -/
def followTo (fs : FileSystem) (cwd path : Text) : Found :=
  fs.trace false cwd path

/-- What a path leads to. -/
def lookup (fs : FileSystem) (cwd path : Text) : Except PathCause (Place × Entry) :=
  (fs.follow cwd path).result

/-! ### Looking at paths -/

/-- What is found for an operation on a path. -/
def inspect (operation : String) (path : Text) (found : Found) :
    Except PathFault (Place × Entry) :=
  match found.result with
  | .ok found => .ok found
  | .error cause => .error ⟨operation, path, cause⟩

/-- What a path leads to, if that may be opened. -/
def openAt (fs : FileSystem) (cwd path : Text) : Except PathFault Entry :=
  match inspect "open" path (fs.follow cwd path) with
  | .ok (_, .barred _) => .error ⟨"open", path, .denied⟩
  | .ok (_, e) => .ok e
  | .error f => .error f

/-- The content of a file. -/
def read (fs : FileSystem) (cwd path : Text) : Except PathFault Text.Bytes :=
  match fs.openAt cwd path with
  | .ok (.file content) => .ok content
  | .ok _ => .error ⟨"read", path, .isDirectory⟩
  | .error f => .error f

/-! ### Changing files -/

/-- Fills the file at a place with as much of a content as there is space for. -/
def fill (fs : FileSystem) (space : Place → Option Nat) (p : Place) (path : Text)
    (content : Text.Bytes) : Except PathFault Unit × FileSystem :=
  match space p with
  | some n =>
    if content.length ≤ n then (.ok (), fs.put p (.file content))
    else (.error ⟨"write", path, .noSpace⟩, fs.put p (.file (content.take n)))
  | none => (.ok (), fs.put p (.file content))

/-- Writes a file in an existing directory, anew or instead of an older one. The older one is gone
even if the new one does not fit, and as much of the new one as fits is there. Nothing else can go
wrong once the file is open. -/
def write (fs : FileSystem) (space : Place → Option Nat) (cwd path : Text)
    (content : Text.Bytes) : Except PathFault Unit × FileSystem :=
  match fs.follow cwd path with
  | .entry p (.file _) => fs.fill space p path content
  | .free p => fs.fill space p path content
  | .entry _ (.barred false) => (.error ⟨"open", path, .denied⟩, fs)
  | .entry _ _ => (.error ⟨"open", path, .isDirectory⟩, fs)
  | .nowhere cause => (.error ⟨"open", path, cause⟩, fs)

/-- Makes a directory, where nothing may be. -/
def makeDir (fs : FileSystem) (cwd path : Text) : Except PathFault FileSystem :=
  match fs.followTo cwd path with
  | .free p => .ok (fs.put p .directory)
  | .entry _ _ => .error ⟨"mkdir", path, .occupied⟩
  | .nowhere cause => .error ⟨"mkdir", path, cause⟩

/-- The paths to a clean path's components, the shortest one first. -/
def steps (path : Text) : List Text :=
  let parts := Path.cleanComponents path
  let lead : Text := if Path.isAbsolute path then "/" else ""
  (List.range parts.length).map fun n => lead ++ Text.intercalate "/" (parts.take (n + 1))

/-- Makes the first of some directories after the others, each of which is around the one before.
Those that were made stay even if one cannot be made. -/
def makeAll (fs : FileSystem) (cwd : Text) : List Text → Except PathFault Unit × FileSystem
  | [] => (.ok (), fs)
  | path :: parents =>
    match fs.lookup cwd path with
    | .ok (_, e) =>
      if e.isDirectory then (.ok (), fs) else (.error ⟨"mkdir", path, .notDirectory⟩, fs)
    | .error _ =>
      match makeAll fs cwd parents with
      | (.error fault, fs) => (.error fault, fs)
      | (.ok (), fs) =>
        match fs.makeDir cwd path with
        | .ok fs => (.ok (), fs)
        | .error fault => (.error fault, fs)

/-- Makes a directory and those on the way to it. -/
def makeDirs (fs : FileSystem) (cwd path : Text) : Except PathFault Unit × FileSystem :=
  fs.makeAll cwd (steps path).reverse

/-- The path of a name in a directory. -/
def inside (dir name : Text) : Text :=
  if dir.toList.getLast? == some (.char '/') then dir ++ name else dir ++ "/" ++ name

/-- The most names that are tried for a new directory. -/
def tryLimit : Nat := 10000

/-- Makes a directory in `dir` with a new name, a front and one of the given numbers from the
`k`-th on, of which so many are tried. -/
def makeTempFrom (fs : FileSystem) (cwd dir front : Text) (numbers : Nat → UInt32) :
    Nat → Nat → Except PathFault (Text × FileSystem)
  | 0, _ => .error ⟨"mkdirtemp", inside dir front ++ "*", .taken⟩
  | n + 1, k =>
    let path := inside dir (front ++ Number.natText (numbers k).toNat)
    match fs.makeDir cwd path with
    | .ok fs => .ok (path, fs)
    | .error fault =>
      if fault.cause == .occupied then makeTempFrom fs cwd dir front numbers n (k + 1)
      else .error fault

/-- Makes a directory in `dir` with a new name, and gives its path. -/
def makeTemp (fs : FileSystem) (cwd dir front : Text) (numbers : Nat → UInt32) :
    Except PathFault (Text × FileSystem) :=
  fs.makeTempFrom cwd dir front numbers tryLimit 0

/-- Removes what is at a path and everything below it. There need not be anything. -/
def removeAll (fs : FileSystem) (cwd path : Text) : Except PathFault FileSystem :=
  match fs.followTo cwd path with
  | .entry p _ => .ok (fs.remove p)
  | .free _ => .ok fs
  | .nowhere cause => if cause == .notExist then .ok fs else .error ⟨"unlinkat", path, cause⟩

/-- Moves the directory at a path to another, where nothing may be. -/
def moveDir (fs : FileSystem) (cwd source target : Text) : Except PathCause FileSystem :=
  match fs.followTo cwd source, fs.followTo cwd target with
  | .entry p _, .free q =>
    if p.isPrefixOf q then .error .invalidArgument else .ok ((fs.remove p).graft q (fs.below p))
  | .entry _ _, .entry _ e => .error (if e.isDirectory then .occupied else .notDirectory)
  | .entry _ _, .nowhere cause => .error cause
  | .free _, _ => .error .notExist
  | .nowhere cause, _ => .error cause

end FileSystem

end PocketScheme
