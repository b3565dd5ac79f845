import TestSieve.CommandLine.File
import TestSieve.Filter.Reader

namespace TestSieve.CommandLine

inductive Command
  | compile (definition : String)
  | select (definition listing : String) (fullNames : Bool)
  | check (xml : String)
  deriving DecidableEq, Repr

namespace Command

-- The files that a command reads.
def paths : Command → List String
  | compile definition          => [definition]
  | select definition listing _ => [definition, listing]
  | check _                     => []

def build (d : Definition) : Except Failure CompiledFilter :=
  d.build.mapError .notBuilt

variable [Regex.Engine] [Loadable Definition] [Loadable (List TestCase)]

-- The lines that a command prints. Files are read before anything is built.
def run (files : Files) : Command → Except Failure (List String)
  | compile definition                  => do
    let d ← load files definition
    return [(← build d).xml]
  | select definition listing fullNames => do
    let d ← load files definition
    let tests : List TestCase ← load files listing
    let selected ← ((← build d).select tests).mapError .notParsed
    return selected.map fun t => if fullNames then t.fullName else t.id
  | check xml                           => do
    let _ ← (Filter.parse xml).mapError .notValid
    return ["ok"]

end Command

end TestSieve.CommandLine
