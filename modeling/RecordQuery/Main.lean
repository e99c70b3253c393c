import RecordQuery.CommandLine
import Std.Time.DateTime.Timestamp

/-!
# The program

Reads the files and variables that the command line may lead to, runs it on what they hold, and
prints what the run leaves.
-/

namespace RecordQuery

namespace CommandLine

/-- What a path leads to. A directory can be opened and cannot be read. -/
def readEntry (path : String) : IO (Option FileEntry) := do
  match ← (IO.FS.Handle.mk path .read).toBaseIO with
  | .error _ => return none
  | .ok handle =>
      match ← handle.readBinToEnd.toBaseIO with
      | .error _ => return some .directory
      | .ok content => return some (.file content.toList)

/-- The files at some paths. -/
def readFiles (workingDirectory : String) (paths : List String) : IO Files := do
  let entries ← paths.mapM fun path => return (path, ← readEntry path)
  return ⟨workingDirectory, fun path => (entries.lookup path).join⟩

/-- The variables of the environment that some names stand for. -/
def readEnvironment (names : List String) : IO Settings.Environment := do
  let values ← names.mapM fun name => return (name, ← IO.getEnv name)
  return fun name => (values.lookup name).join

/-- The present moment. -/
def readClock : IO Instant := do
  let passed := (← Std.Time.Timestamp.now).toNanosecondsSinceUnixEpoch.val
  return ⟨passed.fdiv 1000000000, (passed.fmod 1000000000).toNat⟩

end CommandLine

end RecordQuery

open RecordQuery in
/-- Runs the program and returns its exit code. -/
def main (words : List String) : IO UInt32 := do
  let workingDirectory := (← IO.currentDir).toString
  let settingsPaths := Settings.paths workingDirectory
  let settings ← CommandLine.readFiles workingDirectory settingsPaths
  let environment ← CommandLine.readEnvironment
    (CommandLine.locationVariable :: Settings.mentioned (Settings.ofFiles settings))
  let location := CommandLine.outerLocation settings environment
  let paths := CommandLine.lookups workingDirectory location words
  let files ← CommandLine.readFiles workingDirectory (settingsPaths ++ paths)
  let outcome := CommandLine.run files (← CommandLine.readClock) environment words
  IO.print outcome.output
  IO.eprint (outcome.error.getD "")
  return UInt32.ofNat outcome.code
