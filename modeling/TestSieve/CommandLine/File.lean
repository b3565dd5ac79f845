import TestSieve.CommandLine.Failure
import TestSieve.Definition.Yaml
import TestSieve.TestCase.Yaml

namespace TestSieve.CommandLine

-- The texts of the files that can be read.
abbrev Files := String → Option String

-- The last name in a path, unless the path ends in a way up.
def fileName? (path : String) : Option (List Char) :=
  let names := (path.toList.splitOn '/').filter fun name => !name.isEmpty && name ≠ ['.']
  names.getLast?.filter (· ≠ ['.', '.'])

-- What follows the last dot of a file's name, unless nothing stands before that dot.
def extension? (path : String) : Option String := do
  let reversed := (← fileName? path).reverse
  let stem := (reversed.dropWhile (· != '.')).tail
  if stem.isEmpty then none
  else return .ofList (reversed.takeWhile (· != '.')).reverse

def Format.ofPath? (path : String) : Option Format :=
  match extension? path with
  | some "json" => some json
  | some "yaml" => some yaml
  | some "yml"  => some yaml
  | _           => none

-- A kind of data that files hold. What a text stands for in a format, if it stands for anything,
-- is for the readers of that format to say; commands take it as it is.
class Loadable (α : Type) where
  ofText? : Format → String → Option α

instance : Loadable Definition where
  ofText?
    | .json, text => (Decode.ofText Definition.decode text).toOption
    | .yaml, text => (Yaml.Node.ofText? text).bind Definition.ofYaml?

instance : Loadable (List TestCase) where
  ofText?
    | .json, text => (Decode.ofText TestCase.decodeAll text).toOption
    | .yaml, text => (Yaml.Node.ofText? text).bind (Yaml.Node.list? TestCase.ofYaml?)

-- What a file holds. Its format is told by its name, which is looked at before the file is.
def load {α : Type} [Loadable α] (files : Files) (path : String) : Except Failure α :=
  match Format.ofPath? path with
  | none        => throw (.unknownFormat path)
  | some format =>
    match files path with
    | none      => throw (.unreadable path)
    | some text =>
      match Loadable.ofText? format text with
      | some a => return a
      | none   => throw (.invalid format path)

end TestSieve.CommandLine
