import TestSieve.Error

namespace TestSieve.CommandLine

-- The formats that files come in.
inductive Format
  | json
  | yaml
  deriving DecidableEq, Repr

def Format.name : Format → String
  | json => "JSON"
  | yaml => "YAML"

-- What can go wrong when a command is run.
inductive Failure
  | unknownFormat (path : String)
  | unreadable (path : String)
  | invalid (format : Format) (path : String)
  | notBuilt (cause : FilterError)
  | notParsed (cause : FilterError)
  | notValid (cause : FilterError)
  deriving DecidableEq

namespace Failure

def headline : Failure → String
  | unknownFormat path  =>
    "cannot tell the format of " ++ path ++ ": expected .json, .yaml or .yml"
  | unreadable path     => "failed to read " ++ path
  | invalid format path => "invalid " ++ format.name ++ " in " ++ path
  | notBuilt _          => "failed to compile filter"
  | notParsed _         => "compiled filter could not be parsed"
  | notValid _          => "filter is not valid"

-- The causes of a failure, as far as they are worded here. What is wrong with a file, with data in
-- one of the formats, with markup or with a regular expression is worded by whatever noticed it.
def ownCauses? : Failure → Option (List String)
  | unknownFormat _            => some []
  | unreadable _ | invalid _ _ => none
  | notBuilt e | notParsed e | notValid e =>
    match e with
    | .xml _ | .invalidRegex => none
    | e                      => some [e.message]

-- A cause behind its mark. Its further lines are indented as far as its first one.
def marked (mark : List Char) (cause : String) : String :=
  let margin := mark.map fun _ => ' '
  .ofList (mark ++ cause.toList.flatMap fun c => if c = '\n' then '\n' :: margin else [c])

-- Causes are numbered if there are several, with the innermost one last.
def causeLines : List String → List String
  | [cause] => [marked "    ".toList cause]
  | causes  => causes.mapIdx fun n cause =>
    let number := (toString n).toList
    marked (number.leftpad 5 ' ' ++ [':', ' ']) cause

-- What is reported of a failure. The causes that are worded elsewhere are `told`.
def report (told : Failure → List String) (f : Failure) : String :=
  let causes := f.ownCauses?.getD (told f)
  let below := if causes.isEmpty then [] else "" :: "Caused by:" :: causeLines causes
  .join ((("Error: " ++ f.headline) :: below).map (· ++ "\n"))

end Failure

end TestSieve.CommandLine
