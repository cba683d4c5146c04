import VliwPack.Command.Run

/-! # The command line

Reads the files a run asks for, runs it, and writes its output, its log and its
errors.
-/

namespace VliwPack.Command

/-- The text of a file of the system. -/
def readSystemFile (path : String) : IO (Except ReadError String) := do
  try
    return textOfBytes (← IO.FS.readBinFile path)
  catch error =>
    return .error <| match error with
      | .noFileOrDirectory .. => .notFound
      | .inappropriateType _ 21 _ => .isDirectory
      | .inappropriateType .. => .notDirectory
      | other => .other (toString other)

/-- The line that logs an event. -/
def logLine (event : Event) : String :=
  let fields := event.fields.map fun (name, value) => " " ++ name ++ "=" ++ value
  event.level.text ++ " " ++ event.source ++ ": " ++ event.message ++ String.join fields

end VliwPack.Command

open VliwPack VliwPack.Command in
/-- Runs the command line on the arguments given. -/
def main (arguments : List String) : IO UInt32 := do
  let files ← (pathsRead arguments).mapM fun path => do return (path, ← readSystemFile path)
  let read : FileReader := fun path => (files.lookup path).getD (.error .notFound)
  let outcome := run read (← IO.getEnv "RUST_LOG") arguments
  let errors ← IO.getStderr
  outcome.logged.forM fun event => errors.putStrLn (logLine event)
  (← IO.getStdout).putStr outcome.output
  errors.putStr outcome.errors
  return UInt32.ofNat outcome.code
