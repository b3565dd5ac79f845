import TestSieve.Json.Draft
import TestSieve.Decimal
import TestSieve.Quoted

namespace TestSieve

-- What was found where something else was expected.
inductive Found
  | null
  | bool (b : Bool)
  | number (n : JsonNumber)
  | string (s : String)
  | sequence
  | map
  | unitVariant

inductive DataError
  | wrongType (found : Found) (expected : String)
  | missingField (name : String)
  | duplicateField (name : String)
  | unknownVariant (name : String) (known : List String)
  | notOneKey
  | wrongLength (length : Nat) (expected : String)
  | noVariant (type : String)

inductive DecodeError
  | notJson
  | data (cause : DataError)

-- Only a text can give a field twice, and only a text is spoiled where something of the wrong form
-- stands for a term.
inductive Origin
  | value
  | text
  deriving DecidableEq, Repr

namespace Found

def describe : Found → String
  | null                 => "null"
  | bool b               => "boolean `" ++ toString b ++ "`"
  | number (.natural n)  => "integer `" ++ toString n ++ "`"
  | number (.negative n) => "integer `-" ++ toString n ++ "`"
  | number (.float f)    => "floating point `" ++ Decimal.render f ++ "`"
  | string s             => "string " ++ Quoted.render s
  | sequence             => "sequence"
  | map                  => "map"
  | unitVariant          => "unit variant"

end Found

namespace DataError

def message : DataError → String
  | wrongType found expected => "invalid type: " ++ found.describe ++ ", expected " ++ expected
  | missingField name        => "missing field `" ++ name ++ "`"
  | duplicateField name      => "duplicate field `" ++ name ++ "`"
  | unknownVariant name known =>
    "unknown variant `" ++ name ++ "`, expected one of " ++
    ", ".intercalate (known.map fun k => "`" ++ k ++ "`")
  | notOneKey                => "invalid value: map, expected map with a single key"
  | wrongLength n expected   => "invalid length " ++ toString n ++ ", expected " ++ expected
  | noVariant type           => "data did not match any variant of untagged enum " ++ type

end DataError

-- A decoder looks at a draft in the order of its text and reports the first thing that does not
-- fit.
abbrev Decoder (α : Type) := Origin → Draft → Except DecodeError α

namespace Decode

def fail {α : Type} (cause : DataError) : Except DecodeError α :=
  throw (.data cause)

-- What a draft shows of itself without being entered.
def found? : Draft → Option Found
  | .null                   => some .null
  | .bool b                 => some (.bool b)
  | .number n               => some (.number n)
  | .string s               => some (.string s)
  | .array _                => some .sequence
  | .object _               => some .map
  | .unreadable (.array _)  => some .sequence
  | .unreadable (.object _) => some .map
  | .unreadable _           => none
  | .broken                 => none

-- The error for a draft of the wrong type.
def mismatch {α : Type} (d : Draft) (expected : String) : Except DecodeError α :=
  match found? d with
  | none       => throw .notJson
  | some found => fail (.wrongType found expected)

def string : Decoder String
  | _, .string s => return s
  | _, d         => mismatch d "a string"

def bool : Decoder Bool
  | _, .bool b => return b
  | _, d       => mismatch d "a boolean"

def list {α : Type} (item : Decoder α) : Decoder (List α)
  | o, .array items           => items.mapM (item o)
  | _, .unreadable (.array _) => throw .notJson
  | _, d                      => mismatch d "a sequence"

def optional {α : Type} (item : Decoder α) : Decoder (Option α)
  | _, .null => return none
  | o, d     => some <$> item o d

-- Passes over a value that nobody asks for.
def ignore (d : Draft) : Except DecodeError Unit :=
  if d.isWhole then return () else throw .notJson

-- Takes a field that may come once.
def once {α : Type} (name : String) (sofar : Option α) (item : Except DecodeError α) :
    Except DecodeError (Option α) :=
  if sofar.isSome then fail (.duplicateField name) else some <$> item

def required {α : Type} (name : String) : Option α → Except DecodeError α
  | some a => return a
  | none   => fail (.missingField name)

-- Visits the fields of an object one after the other.
def foldFields {σ : Type} (take : σ → String → Draft → Except DecodeError σ) (state : σ) :
    List (Draft × Draft) → Except DecodeError σ
  | []                            => return state
  | (.string name, value) :: rest => do foldFields take (← take state name value) rest
  | _                             => throw .notJson

-- What is left of an array when all fields of a structure were taken from its `length` items.
def endOfArray (o : Origin) (length : Nat) (left : List Draft) : Except DecodeError Unit :=
  match o, left with
  | _,      []     => return ()
  | .value, _ :: _ => fail (.wrongLength length "fewer elements in array")
  | .text,  _ :: _ => throw .notJson

-- A map of names to values; the last of equal names counts.
def entries {α : Type} (item : Decoder α) : Decoder (List (String × α))
  | o, .object fields           => do
    let entries ← foldFields (fun sofar name d => do return (name, ← item o d) :: sofar) [] fields
    return entries.reverse
  | _, .unreadable (.object _)  => throw .notJson
  | _, d                        => mismatch d "a map"

-- Data from a JSON value that is held in memory.
def ofJson {α : Type} (decoder : Decoder α) (j : Json) : Except DecodeError α :=
  decoder .value (.ofJson j)

-- Data from a JSON text, which must hold nothing else.
def ofText {α : Type} (decoder : Decoder α) (text : String) : Except DecodeError α := do
  let (d, alone) := Draft.ofText text
  let a ← decoder .text d
  if alone then return a else throw .notJson

end Decode

end TestSieve
