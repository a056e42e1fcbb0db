import ActivityFlow.CommandLine
import ActivityFlow.Json.Pretty

/-!
# The program

Files and the environment are read here, and answers are printed.
-/
namespace ActivityFlow

/-- Why the system did not give the bytes of a file. -/
def faultOfError : IO.Error → FileFault
  | .noFileOrDirectory .. => .missing
  | .inappropriateType _ 21 _ => .directory
  | error => .other (toString error)

def systemFiles : Files IO := fun path => do
  match ← (IO.FS.readBinFile path).toBaseIO with
  | .ok bytes => return .ok bytes.toList
  | .error error => return .error (faultOfError error)

/-- Prints how a call ended. -/
def report : Ending → IO Unit
  | .answered (.lines lines) => lines.forM fun line => IO.println line
  | .answered (.outcome outcome) => IO.println outcome.encode.pretty
  | .failed error => do
    match error.messages with
    | [] => return ()
    | message :: causes =>
      IO.eprintln ("Error: " ++ message)
      causes.forM fun cause => IO.eprintln ("Caused by: " ++ cause)
  | .misused error => IO.eprintln ("error: " ++ error.message)
  | .helped => usageLines.forM fun line => IO.println line
  | .versioned => IO.println versionLine

end ActivityFlow

/-- Runs the program and gives its exit code. -/
def main (words : List String) : IO UInt32 := do
  let configuration ← IO.getEnv "DOCFLOW_ENGINE_CONFIG"
  let ending ← ActivityFlow.runCommandLine ⟨ActivityFlow.systemFiles, configuration⟩ words
  ActivityFlow.report ending
  return ending.code.toUInt32
