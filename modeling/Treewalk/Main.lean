/-
The program: takes the script named on the command line, runs it and reports. All decisions are made in
`Treewalk.Command`; here files are read and texts are written.
-/
import Treewalk.Command

namespace Treewalk.Command

/-- The contents of a file, if it can be read. -/
def readScript (path : String) : IO (Option String) := do
  try
    return some (← IO.FS.readFile path)
  catch _ =>
    return none

end Treewalk.Command

open Treewalk

def main (args : List String) : IO UInt32 := do
  let tracing := (← IO.getEnv "TRACE").isSome
  let directory := (← IO.currentDir).toString
  let answer ← match Command.request args with
    | .script path => do
      let path := Command.resolvePath directory path
      match ← Command.readScript path with
      | some content => pure (@Command.runScript .utf8 tracing path content)
      | none => pure (Command.notFound path)
    | request => pure (Command.answerWithout request)
  (← IO.getStdout).putStr answer.stdout
  (← IO.getStderr).putStr answer.stderr
  return answer.status.toUInt32
