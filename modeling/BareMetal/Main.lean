/-
# The report as a program

The settings come from the environment. The replies of the controller are read
from standard input, one recorded reply to a line; the report goes to standard
output, and its code is the code of the program. A failure that the report does
not handle is written to standard error, with code 2.
-/

import BareMetal.Http.Recorded
import BareMetal.Report

namespace BareMetal

/-- The lines of a stream. -/
partial def readLines (stream : IO.FS.Stream) : IO (List String) := do
  let line ← stream.getLine
  if line.isEmpty then return []
  return line :: (← readLines stream)

end BareMetal

/-- Writes the report on recorded replies. -/
def main : IO UInt32 := do
  let env : BareMetal.Environment := {
    url := ← IO.getEnv "MAAS_URL"
    apiVersion := ← IO.getEnv "MAAS_API_VERSION"
    verify := ← IO.getEnv "VERIFY_SSL"
    timeout := ← IO.getEnv "MAAS_TIMEOUT" }
  let lines ← BareMetal.readLines (← IO.getStdin)
  let outcome := (BareMetal.Report.run env).run (lines.filterMap BareMetal.Reply.ofLine?)
  IO.print (BareMetal.written outcome.events)
  match outcome.result with
  | .ok code => return code.toUInt32
  | .error e =>
    IO.eprintln e.message
    return 2
