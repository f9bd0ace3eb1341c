import ForumDigest.CommandLine.Run

namespace ForumDigest.CommandLine

def entryAt (path : String) : IO (Option Entry) := do
  match ← (IO.FS.readBinFile path).toBaseIO with
  | .ok bytes => return some (.file bytes.toList)
  | .error (.inappropriateType ..) => return some .directory
  | .error _ => return none

def printOutput : Output → IO Unit
  | .out line => IO.println line
  | .err line => IO.eprintln line
  | .log n => IO.println n.line

end ForumDigest.CommandLine

open ForumDigest CommandLine

/-- The command line. It has no transport of its own: every host is out of reach of its client. -/
def main (args : List String) : IO UInt32 := do
  let preset ← IO.getEnv Arguments.configVariable
  let found ← match Arguments.read preset args with
    | .ok a => entryAt a.configPath
    | .error _ => pure none
  let outcome := Outcome.ofArguments args preset (fun _ => found) { now := .epoch }
  outcome.outputs.forM printOutput
  if outcome.code = 2 then IO.eprintln "error: try '--help'"
  return UInt32.ofNat outcome.code
