import SeriesFilter.Command.Run
import Std.Time.DateTime.Timestamp

/-!
# The program

Connects a run to the environment, the file system, the standard streams and the clock.
-/

namespace SeriesFilter.Command

open Calendar

/-- The reason for an error of the system. -/
def faultOf : IO.Error → FileFault
  | .noFileOrDirectory .. => .missing
  | .inappropriateType .. => .directory
  | .permissionDenied .. => .other "Permission denied (os error 13)"
  | e => .other (toString e)

/-- The text that bytes encode. -/
def decodeText (bytes : ByteArray) : Except FileFault String :=
  match String.fromUTF8? bytes with
  | some s => .ok s
  | none => .error .notText

/-- The text of a file. -/
def readFile (path : String) : IO (Except FileFault String) := do
  match ← (IO.FS.readBinFile path).toBaseIO with
  | .ok bytes => return decodeText bytes
  | .error e => return .error (faultOf e)

/-- The bytes of a stream up to its end, after those that were read before. -/
partial def readAll (stream : IO.FS.Stream) (before : ByteArray) : IO ByteArray := do
  let bytes ← stream.read 65536
  if bytes.isEmpty then return before
  else readAll stream (before ++ bytes)

/-- All of standard input. -/
def readStandardInput : IO (Except FileFault String) := do
  match ← (do readAll (← IO.getStdin) .empty : IO ByteArray).toBaseIO with
  | .ok bytes => return decodeText bytes
  | .error e => return .error (faultOf e)

/-- The present time. -/
def presentTime : IO Instant := do
  let t ← Std.Time.Timestamp.now
  return ⟨t.val.second.val, t.val.nano.val.toNat⟩

/-- The sources of the system. -/
def systemSources : Sources IO where
  lookup name := IO.getEnv name
  file := readFile
  standardInput := readStandardInput
  now := presentTime
  userSettings := return Settings.userFile (← IO.getEnv "XDG_CONFIG_HOME") (← IO.getEnv "HOME")

end SeriesFilter.Command

open SeriesFilter.Command in
/-- Runs the program on its arguments. -/
def main (args : List String) : IO UInt32 := do
  let output ← systemSources.run args
  (← IO.getStdout).putStr output.stdout
  (← IO.getStderr).putStr output.stderr
  return output.code.toUInt32
