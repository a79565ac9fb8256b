import PocketScheme.World

/-!
Lockfiles on disk.

* `Lockfile.parse`: the lockfile in the content of a file;
* `Lockfile.load`, `Lockfile.save`: reading and writing a file.
-/

namespace PocketScheme.Lockfile

/-! ### Reading -/

/-- Why a lockfile could not be loaded. -/
inductive LoadFault where
  | emptyPath
  | unresolved (path : Text)
  | unopened (fault : PathFault)
  | emptyFile (path : Text)
  | unread (path : Text) (refusal : Yaml.Refusal Empty)

namespace LoadFault

/-- The text of a fault. -/
def message : LoadFault → Text
  | emptyPath => "lockfile: empty path"
  | unresolved path => "lockfile: resolve " ++ path ++ ": " ++ World.goneText
  | unopened fault => fault.message
  | emptyFile path => "lockfile: parse " ++ path ++ ": EOF"
  | unread _ (.incomparable type) => Yaml.Refusal.incomparableText type
  | unread path refusal => "lockfile: parse " ++ path ++ ": " ++ refusal.message Empty.elim

/-- The lockfile is not there. -/
def isNotExist : LoadFault → Bool
  | unresolved _ => true
  | unopened fault => fault.cause == .notExist
  | _ => false

/-- Reading went wrong in a way that ends everything. -/
def isCrash : LoadFault → Bool
  | unread _ (.incomparable _) => true
  | _ => false

end LoadFault

/-- The lockfile in the content of the file at a path, in normal form. -/
def parse (codec : Codec) (path : Text) (content : Text.Bytes) : Except LoadFault Lockfile :=
  match codec.readLockfile content with
  | none => .error (.emptyFile path)
  | some (.error refusal) => .error (.unread path refusal)
  | some (.ok l) =>
    .ok { l with path := path, generated := Text.trim l.generated }.normalize

/-- The lockfile at a path. A directory opens but cannot be read. -/
def load (w : World) (path : Text) : Except LoadFault Lockfile :=
  if path.isEmpty then .error .emptyPath
  else match w.absolute? path with
    | none => .error (.unresolved path)
    | some path =>
      match w.files.openAt w.cwd path with
      | .error fault => .error (.unopened fault)
      | .ok (.file content) => parse w.codec path content
      | .ok _ => .error (.unread path .malformed)

/-! ### Writing -/

/-- Why a lockfile could not be written. -/
inductive SaveFault where
  | noLockfile
  | noPath
  | unresolved (path : Text)
  | unwritten (path : Text) (fault : PathFault)

/-- The text of a fault. -/
def SaveFault.message : SaveFault → Text
  | noLockfile => "lockfile: nil lockfile"
  | noPath => "lockfile: missing path"
  | unresolved path => "lockfile: resolve " ++ path ++ ": " ++ World.goneText
  | unwritten path fault => "lockfile: write " ++ path ++ ": " ++ fault.message

/-- The lockfile as it is written to a path: in normal form, and with a time. -/
def prepare (l : Lockfile) (path now : Text) : Lockfile :=
  let generated := if l.generated.isEmpty then now else l.generated
  { l with path := path, generated := generated }.normalize

/-- Writes a lockfile to a path, or to its own if that is empty, and gives back what it is then. -/
def save (w : World) (lock : Option Lockfile) (path : Text) :
    Except SaveFault Lockfile × World :=
  match lock with
  | none => (.error .noLockfile, w)
  | some l =>
    let path := if path.isEmpty then l.path else path
    if path.isEmpty then (.error .noPath, w)
    else match w.absolute? path with
      | none => (.error (.unresolved path), w)
      | some path =>
        let l := l.prepare path w.now
        match w.write path (w.codec.writeLockfile l) with
        | (.ok (), w) => (.ok l, w)
        | (.error fault, w) => (.error (.unwritten path fault), w)

end PocketScheme.Lockfile
