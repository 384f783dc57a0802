/-
  RigidFrames.Main

  The command line: runs the example, with settings from the file named by
  the first argument if there is one.
-/
import RigidFrames.Demo

namespace RigidFrames

/-- Why a file cannot be read. -/
def readFailure : IO.Error → String
  | .noFileOrDirectory .. => Demo.noSuchFile
  | e => toString e

/-- The text of a file, or why it cannot be read. -/
def readSource (path : String) : IO Demo.Source := do
  try
    let text ← IO.FS.readFile path
    pure ⟨path, .ok text⟩
  catch e => pure ⟨path, .error (readFailure e)⟩

end RigidFrames

/-- Prints the log of the example to the error stream and ends with its exit code. -/
def main (args : List String) : IO UInt32 := do
  let source ← match args with
    | [] => pure none
    | path :: _ => some <$> RigidFrames.readSource path
  let outcome := RigidFrames.Demo.run source
  for line in outcome.lines do
    IO.eprintln line
  pure outcome.exitCode.toUInt32
