import PocketScheme.FileSystem

/-!
The machine that a run is on.
-/

namespace PocketScheme

/-- The machine that a run is on: its files, the working directory, environment variables, the
time and the numbers for new names. -/
structure Host where
  files : FileSystem
  /-- The path from the root, without links. -/
  cwd : Text
  vars : List (String × Text)
  /-- The time as text. -/
  now : Text
  /-- The numbers that are tried for a new name, one after the other. -/
  numbers : Nat → UInt32
  /-- How many bytes a file at a place can take, if there is a limit. -/
  space : Place → Option Nat

end PocketScheme
