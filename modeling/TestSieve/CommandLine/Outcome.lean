import TestSieve.CommandLine.Help
import TestSieve.Regex.Meaning

namespace TestSieve.CommandLine

-- How a call ends.
inductive Ending
  | done
  | failed (f : Failure)
  | misused
  deriving DecidableEq

-- What a call leaves behind. What is told about it while it runs carries the time, and is no part
-- of its outcome.
structure Outcome where
  ending : Ending
  output : String := ""
  deriving DecidableEq

namespace Outcome

def exit (o : Outcome) : Nat :=
  match o.ending with
  | .done     => 0
  | .failed _ => 1
  | .misused  => 2

-- What is said about how a call ended. What is wrong with the arguments of a misuse is not worded,
-- and causes that are worded elsewhere are left out unless they are `told`.
def errors (o : Outcome) (told : Failure → List String := fun _ => []) : String :=
  match o.ending with
  | .done     => ""
  | .failed f => f.report told
  | .misused  => Help.usage

def ofResult : Except Failure (List String) → Outcome
  | .ok lines => { ending := .done, output := .join (lines.map (· ++ "\n")) }
  | .error f  => { ending := .failed f }

def version : String :=
  "suite-filter 0.1.0\n"

variable [Regex.Engine] [Loadable Definition] [Loadable (List TestCase)]

def ofRequest (files : Files) : Option Request → Outcome
  | some (.run command _) => ofResult (command.run files)
  | some .version         => { ending := .done, output := version }
  | some (.help name)     => { ending := .done, output := Help.text name }
  | none                  => { ending := .misused }

-- What a call with these arguments leaves behind.
def ofArguments (files : Files) (arguments : List String) : Outcome :=
  ofRequest files (Request.ofArguments? arguments)

end Outcome

end TestSieve.CommandLine
