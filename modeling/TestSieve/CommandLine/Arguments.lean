import TestSieve.CommandLine.Command

namespace TestSieve.CommandLine

inductive CommandName
  | compile
  | select
  | check
  deriving DecidableEq, Repr

namespace CommandName

def ofText? : String → Option CommandName
  | "compile" => some compile
  | "select"  => some select
  | "check"   => some check
  | _         => none

def operandCount : CommandName → Nat
  | compile => 1
  | select  => 2
  | check   => 1

-- A path is never empty.
def allowsEmpty : CommandName → Bool
  | check => true
  | _     => false

end CommandName

-- How much is told about a run while it goes on.
inductive Level
  | warn
  | info
  | debug
  deriving DecidableEq, Repr

-- The level that is asked for so many times.
def Level.ofCount : Nat → Level
  | 0 => warn
  | 1 => info
  | _ => debug

-- What a call asks for.
inductive Request
  | run (command : Command) (level : Level)
  | version
  | help (name : Option CommandName)

-- Why the arguments are not read any further.
inductive Stop
  | request (r : Request)
  | misuse

-- The arguments of a call as far as they were read. Options may stand anywhere between them, and one
-- that asks for information is answered as soon as it is met, whatever comes behind it.
structure Arguments where
  name?     : Option CommandName := none
  operands  : List String := []
  fullNames : Bool := false
  -- How often more was asked to be told, before the name of the command and since then.
  outer     : Nat := 0
  verbose   : Nat := 0
  -- All that follows is taken for operands.
  literal   : Bool := false

namespace Arguments

def operand (a : Arguments) (text : String) : Except Stop Arguments :=
  match a.name? with
  | none      => throw .misuse
  | some name =>
    if name.operandCount ≤ a.operands.length || (text = "" && !name.allowsEmpty) then
      throw .misuse
    else return { a with operands := a.operands ++ [text] }

-- The letters of an option of one hyphen.
def letters (a : Arguments) : List Char → Except Stop Arguments
  | []      => return a
  | c :: cs =>
    if c = 'v' then letters { a with verbose := a.verbose + 1 } cs
    else if c = 'h' then throw (.request (.help a.name?))
    else if c = 'V' && a.name?.isNone then throw (.request .version)
    else throw .misuse

def word (a : Arguments) (name : List Char) : Except Stop Arguments :=
  match String.ofList name with
  | ""           => return { a with literal := true }
  | "verbose"    => return { a with verbose := a.verbose + 1 }
  | "help"       => throw (.request (.help a.name?))
  | "version"    => throw (if a.name?.isNone then .request .version else .misuse)
  | "full-names" =>
    if a.name? = some .select && !a.fullNames then return { a with fullNames := true }
    else throw .misuse
  | _            => throw .misuse

def step (a : Arguments) (text : String) : Except Stop Arguments :=
  if a.literal then a.operand text
  else match text.toList with
    | '-' :: '-' :: name => a.word name
    | ['-']              => a.operand text
    | '-' :: letters     => a.letters letters
    | _                  =>
      match a.name? with
      | some _ => a.operand text
      | none   =>
        match CommandName.ofText? text with
        | some name => return { a with name? := some name, outer := a.verbose, verbose := 0 }
        | none      => throw .misuse

def command? (a : Arguments) : Option Command :=
  match a.name?, a.operands with
  | some .compile, [definition]          => some (.compile definition)
  | some .select,  [definition, listing] => some (.select definition listing a.fullNames)
  | some .check,   [xml]                 => some (.check xml)
  | _,             _                     => none

-- What is asked for behind the name of the command replaces what was asked for before it.
def level (a : Arguments) : Level :=
  .ofCount (if a.verbose = 0 then a.outer else a.verbose)

def finish (a : Arguments) : Except Stop Request :=
  match a.command? with
  | some command => return .run command a.level
  | none         => throw .misuse

-- A call for help names at most one command.
def helpWith : List String → Except Stop Request
  | []     => return .help none
  | [name] =>
    match CommandName.ofText? name with
    | some name => return .help (some name)
    | none      => if name = "help" then return .help none else throw .misuse
  | _      => throw .misuse

def read (a : Arguments) : List String → Except Stop Request
  | []           => a.finish
  | text :: rest =>
    if text = "help" && a.name?.isNone && !a.literal then helpWith rest
    else do read (← a.step text) rest

end Arguments

-- What a call with these arguments asks for, if they are used as they should be.
def Request.ofArguments? (arguments : List String) : Option Request :=
  match Arguments.read {} arguments with
  | .ok r               => some r
  | .error (.request r) => some r
  | .error .misuse      => none

end TestSieve.CommandLine
