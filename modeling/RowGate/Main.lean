import RowGate.App.Server
/-!
# The command line

Starts the server with the settings of the environment, to which a `.env` file in the working
directory adds the variables that the environment does not set, answers the HTTP/1.1 requests
that arrive on standard input, and writes the responses to standard output in order.
-/

namespace RowGate

/-- The bytes of a stream up to its end. -/
partial def readToEnd (s : IO.FS.Stream) (acc : ByteArray) : IO ByteArray := do
  let chunk ← s.read 65536
  if chunk.isEmpty then pure acc else readToEnd s (acc ++ chunk)

end RowGate

open RowGate in
/-- Serves the requests of standard input with the settings of the environment. -/
def main : IO Unit := do
  let given ← App.Settings.variables.filterMapM fun k => do pure ((← IO.getEnv k).map (k, ·))
  let file ← try pure (some (← IO.FS.readFile ".env")) catch _ => pure none
  let env := fun k => (given.find? (·.1 == k)).map (·.2)
  let settings := App.Settings.ofEnv (App.withEnvFile env file)
  let input ← readToEnd (← IO.getStdin) .empty
  let out ← IO.getStdout
  for response in (App.World.serve settings).answerStream input.toList do
    out.putStr response
  out.flush
