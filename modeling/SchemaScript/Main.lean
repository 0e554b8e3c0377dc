import SchemaScript.Command.Run
import Std.Time.DateTime.Timestamp

/-!
# SchemaScript.Main

The command line program: requests to the file system are carried out by the machine, the time is the
clock's, the words are random, and the environment may set the filter of the events.
-/

namespace SchemaScript

/-- The number of an error of the machine, which is reported with either sign. -/
def errorNumber (code : UInt32) : Nat :=
  if 2 * code.toNat < UInt32.size then code.toNat else UInt32.size - code.toNat

/-- The file error that an error of the machine stands for. -/
def fileError : IO.Error → FileError
  | .inappropriateType _ code _ => if errorNumber code = 20 then .notDirectory else .isDirectory
  | .invalidArgument _ code _ => if errorNumber code = 36 then .nameTooLong else .nulInPath
  | _ => .notFound

/-- The answer to a request, with the machine's errors as file errors. -/
def answer {α : Type} (action : IO α) : IO (Except FileError α) := do
  try
    return .ok (← action)
  catch e =>
    return .error (fileError e)

/-- Whether there is a directory at a path. -/
def directoryAt (path : String) : IO Bool := do
  return ← (← IO.currentDir) / path |>.isDir

/-- Whether there is anything at a path. -/
def somethingAt (path : String) : IO Bool := do
  return ← (← IO.currentDir) / path |>.pathExists

/-- The bytes of a file. A directory has none. -/
def readBytes (path : String) : IO (Except FileError ByteArray) := do
  if ← directoryAt path then return .error .isDirectory
  answer (IO.FS.readBinFile path)

def directoryNames (path : String) : IO (List String) := do
  let entries ← (← IO.currentDir) / path |>.readDir
  return entries.toList.map (·.fileName)

/-- Carries out the requests of a program. -/
def Program.perform {α : Type} : Program α → IO α
  | done a => return a
  | read path next => do (next (← readBytes path)).perform
  | write path content next => do
    (next (← answer (IO.FS.writeBinFile path content))).perform
  | rename source target next => do (next (← answer (IO.FS.rename source target))).perform
  | remove path next => do (next (← answer (IO.FS.removeFile path))).perform
  | entries path next => do (next (← answer (directoryNames path))).perform
  | isDirectory path next => do (next (← directoryAt path)).perform
  | present path next => do (next (← somethingAt path)).perform

/-- A random word. -/
def randomWord : IO UInt32 := do
  let bytes ← IO.getRandomBytes 4
  return bytes.toList.foldl (fun w b => (w <<< 8) ||| b.toUInt32) 0

/-- The time of the clock, a supply of random words, and the filter that is set for the process. -/
def Surroundings.now : IO Surroundings := do
  let t ← Std.Time.Timestamp.now
  let since := t.toNanosecondsSinceUnixEpoch.val
  let words ← (List.range 4096).mapM fun _ => randomWord
  return {
    time := ⟨since / 1000000000, (since % 1000000000).toNat⟩
    words := .ofList words
    logFilter := ← IO.getEnv "RUST_LOG" }

end SchemaScript

/-- Carries out the arguments of the command line. -/
def main (arguments : List String) : IO UInt32 := do
  let outcome ← (SchemaScript.runArguments arguments (← SchemaScript.Surroundings.now)).perform
  IO.print outcome.output
  for line in outcome.errors do
    IO.eprintln line
  return outcome.exit.toUInt32
