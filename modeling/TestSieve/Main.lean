import TestSieve.CommandLine.Outcome

open TestSieve.CommandLine

-- A file that cannot be read, or whose content is no text, is as good as absent.
def readFile? (path : String) : IO (Option String) := do
  try return some (← IO.FS.readFile path)
  catch _ => return none

def readFiles (paths : List String) : IO (List (String × Option String)) :=
  paths.mapM fun path => return (path, ← readFile? path)

def pathsOf : Option Request → List String
  | some (.run command _) => command.paths
  | _                     => []

def main (arguments : List String) : IO UInt32 := do
  let request := Request.ofArguments? arguments
  let read ← readFiles (pathsOf request)
  let outcome := Outcome.ofRequest (fun path => (read.lookup path).join) request
  (← IO.getStdout).putStr outcome.output
  (← IO.getStderr).putStr outcome.errors
  return .ofNat outcome.exit
