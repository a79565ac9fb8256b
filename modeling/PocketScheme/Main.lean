import Std.Time.DateTime.Timestamp
import PocketScheme.Calendar
import PocketScheme.Cli.Run
import PocketScheme.Remotes

/-!
The program itself: it reads what a command needs from the disk, carries the command out, and
writes back what it changed. No repository can be reached from here, so that dependencies on
repositories have to be in the cache already.
-/

namespace PocketScheme.Program

/-! ### Reading from the disk -/

/-- Files with a directory and those around it. -/
def withParents (files : FileSystem) (p : Place) : FileSystem :=
  (List.range p.length).foldl (fun fs n => fs.put (p.take (n + 1)) .directory) files

/-- Files with what an entry of a directory on disk is, and everything below it. -/
partial def scanEntry (e : IO.FS.DirEntry) (files : FileSystem) : IO FileSystem := do
  let place := FileSystem.placeOf (Text.ofString e.path.toString)
  let about ← e.path.metadata
  match about.type with
  | .dir =>
    if Text.ofString e.fileName == Checksum.skipped then return files
    let mut found := files.put place .directory
    for inner in ← e.path.readDir do
      found ← scanEntry inner found
    return found
  | _ =>
    let content ← IO.FS.readBinFile e.path
    return files.put place (.file content.toList)

/-- Files with what there is at a path from the root. What cannot be read is left out. -/
def scan (path : Text) (files : FileSystem) : IO FileSystem := do
  let e : IO.FS.DirEntry := ⟨(Path.dir path).shown, (Path.base path).shown⟩
  try scanEntry e (withParents files (FileSystem.placeOf (Path.dir path)))
  catch _ => return files

/-- The directories that a manifest's dependencies are in, as far as they are not on a list. -/
def dependencyDirs (m : Manifest) (known : List Text) : List Text :=
  let dirs := m.dependencies.map fun d =>
    if Path.isAbsolute d.2.path then Path.clean d.2.path else Path.join [m.dir, d.2.path]
  dirs.filter fun dir => !known.contains dir

/-- The world with directories, and with those of the dependencies of their manifests. -/
partial def scanProjects (w : World) (known : List Text) : List Text → IO World
  | [] => return w
  | dir :: dirs => do
    let w := w.withFiles (← scan dir w.files)
    let known := dir :: known
    match Manifest.load w (Path.join [dir, Manifest.fileName]) with
    | .ok m => scanProjects w known (dirs ++ dependencyDirs m (known ++ dirs))
    | .error _ => scanProjects w known dirs

/-- The world with the project around the working directory, what that depends on, and the
program's own directory. -/
def scanAround (w : World) : IO World := do
  let places := Manifest.ancestors (FileSystem.placeOf w.cwd)
  let mut w := w
  for p in places do
    w := w.withFiles (← scan (Manifest.pathOf (p ++ [Manifest.fileName])) w.files)
  let own := match w.home with
    | .ok home => [home]
    | .error _ => []
  match Manifest.find w "." with
  | .ok (some path) => scanProjects w [] (Path.dir path :: own)
  | _ => return w

/-- The world with the files that words name. -/
def scanWords (w : World) (words : List Text) : IO World := do
  let mut w := w
  for word in words do
    w := w.withFiles (← scan (Path.absolute w.cwd word) w.files)
  return w

/-- The world that a run starts in, without any files but the working directory. -/
def surroundings : IO World := do
  let cwd ← IO.currentDir
  let mut vars := []
  for name in ["HOME", World.homeVariable] do
    if let some value ← IO.getEnv name then
      vars := (name, Text.ofString value) :: vars
  let now ← Std.Time.Timestamp.now
  return {
    files := withParents [] (FileSystem.placeOf (Text.ofString cwd.toString))
    cwd := cwd.toString
    vars := vars
    now := Calendar.render now.toSecondsSinceUnixEpoch.toInt.toNat
    numbers := fun _ => 0
    space := fun _ => none
    git := Remotes.git []
    codec := .yaml }

/-! ### Writing to the disk -/

/-- Writes what is in a world and was not there before. -/
def commitChanges (before after : World) : IO Unit := do
  for (place, entry) in after.files.reverse do
    if before.files.get? place != some entry then
      let path := (Manifest.pathOf place).shown
      match entry with
      | .directory => IO.FS.createDirAll path
      | .file content => IO.FS.writeBinFile path ⟨content.toArray⟩
      | .link _ | .barred _ => pure ()

/-! ### Commands -/

/-- Puts out a text, byte by byte. -/
def put (output : IO.FS.Stream) (text : Text) : IO Unit :=
  output.write ⟨text.bytes.toArray⟩

/-- Talks to the user until the input ends or a command leaves the session; `pending` are the lines
that are read already. -/
partial def converse (input output error : IO.FS.Stream) (s : Repl.State)
    (pending : List Repl.Line) : IO Repl.State := do
  put output s.ask.transcript
  output.flush
  let pending ← if pending.isEmpty then
      let line ← input.getLine
      pure (Repl.lines (Text.ofString line).bytes)
    else pure pending
  match pending with
  | [] =>
    put output "\n"
    return s
  | line :: pending =>
    let text := Text.ofBytes line.bytes
    let world ← scanWords s.world text.fields
    let (s, stop) := Repl.step { s with world := world } (.line text)
    put output s.transcript
    put error s.machine.trace
    let s := { s with emitted := [], machine := s.machine.clearTrace }
    if stop then return s else converse input output error s pending

/-- The interactive session, with its history on disk. -/
def interactive (w : World) (trace : Bool) : IO Unit := do
  let s ← converse (← IO.getStdin) (← IO.getStdout) (← IO.getStderr)
    (.start w (.fresh trace)) []
  let before := match w.home with
    | .ok home => [Path.join [home, Repl.historyFile]]
    | .error _ => []
  let w ← scanWords w before
  commitChanges w (Cli.keepHistory w s.history)

/-- Carries out an action and gives its exit code. -/
def perform (w : World) : Cli.Action → IO UInt32
  | .repl trace => do
    interactive w trace
    return 0
  | action => do
    let w ← match action with
      | .run options args =>
        if options.expression then pure w
        else if args.isEmpty then scanAround w
        else scanWords w args
      | .install => scanAround w
      | _ => pure w
    let result := Cli.perform w [] action
    commitChanges w result.world
    put (← IO.getStdout) result.stdout
    put (← IO.getStderr) result.stderr
    return result.code.toUInt32

end PocketScheme.Program

/-- Carries out the command line. -/
def main (args : List String) : IO UInt32 := do
  match PocketScheme.Cli.readArguments (args.map PocketScheme.Text.ofString) with
  | .ok action => PocketScheme.Program.perform (← PocketScheme.Program.surroundings) action
  | .error message =>
    PocketScheme.Program.put (← IO.getStderr) ("error: " ++ message ++ "\n")
    return 1
