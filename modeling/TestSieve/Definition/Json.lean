import TestSieve.Definition
import TestSieve.Json.Decode

namespace TestSieve

open Decode

namespace NamePattern

def toJson : NamePattern → Json
  | literal name           => .string name
  | detailed pattern regex => .object [("pattern", .string pattern), ("regex", .bool regex)]

structure Given where
  pattern : Option String := none
  regex   : Option Bool := none

def Given.take (o : Origin) (g : Given) (name : String) (d : Draft) : Except DecodeError Given :=
  match name with
  | "pattern" => do return { g with pattern := ← once name g.pattern (string o d) }
  | "regex"   => do return { g with regex := ← once name g.regex (bool o d) }
  | _         => return g

-- What is read as a pattern is read as a whole before it is looked at.
def decode : Decoder NamePattern
  | o, d =>
    if d.toJson?.isNone then throw .notJson
    else match d with
      | .string name   => return literal name
      | .object fields =>
        match foldFields (Given.take o) {} fields with
        | .ok { pattern := some pattern, regex } => return detailed pattern (regex.getD false)
        | _                                      => fail (.noVariant "NamePattern")
      | _              => fail (.noVariant "NamePattern")

end NamePattern

namespace Term

def fieldName : Field → String
  | .fullName      => "test"
  | .category      => "category"
  | .className     => "class"
  | .methodName    => "method"
  | .namespaceName => "namespace"
  | .shortName     => "given_name"

def toJson : Term → Json
  | ids list                  => .object [("id", .strings list)]
  | field f pattern           => .object [(fieldName f, pattern.toJson)]
  | property name value regex =>
    .object [("property",
      .object [("name", .string name), ("regex", .bool regex), ("value", .string value)])]
  | not operand               => .object [("not", operand.toJson)]

-- A term is an object with one field, whose name says what kind of term it is.
inductive Variant
  | ids
  | field (f : Field)
  | property
  | not
  deriving DecidableEq

namespace Variant

def all : List (String × Variant) := [
  ("id",         ids),
  ("test",       field .fullName),
  ("category",   field .category),
  ("class",      field .className),
  ("method",     field .methodName),
  ("namespace",  field .namespaceName),
  ("given_name", field .shortName),
  ("property",   property),
  ("not",        not)
]

def ofName (name : String) : Except DecodeError Variant :=
  match all.find? (·.1 = name) with
  | some (_, v) => return v
  | none        => fail (.unknownVariant name (all.map (·.1)))

-- The form that the value of a term must have, where it has none at all.
def form : Variant → String
  | property => "struct variant"
  | _        => "newtype variant"

end Variant

structure GivenProperty where
  name  : Option String := none
  value : Option String := none
  regex : Option Bool := none

def GivenProperty.take (o : Origin) (g : GivenProperty) (name : String) (d : Draft) :
    Except DecodeError GivenProperty :=
  match name with
  | "name"  => do return { g with name := ← once name g.name (string o d) }
  | "value" => do return { g with value := ← once name g.value (string o d) }
  | "regex" => do return { g with regex := ← once name g.regex (bool o d) }
  | _       => do ignore d; return g

def GivenProperty.complete (g : GivenProperty) : Except DecodeError Term := do
  return property (← required "name" g.name) (← required "value" g.value) (g.regex.getD false)

-- Only a text may give a property as an array.
def decodePropertyArray (o : Origin) : List Draft → Except DecodeError Term
  | []                       =>
    fail (.wrongLength 0 "struct variant Term::Property with 3 elements")
  | [name]                   => do
    let _ ← string o name
    fail (.wrongLength 1 "struct variant Term::Property with 3 elements")
  | [name, value]            => do return property (← string o name) (← string o value) false
  | name :: value :: regex :: rest => do
    let t := property (← string o name) (← string o value) (← bool o regex)
    endOfArray o (rest.length + 3) rest
    return t

def decodeProperty : Decoder Term
  | o,      .object fields          => do (← foldFields (GivenProperty.take o) {} fields).complete
  | _,      .unreadable (.object _) => throw .notJson
  | .text,  .array items            => decodePropertyArray .text items
  | .text,  .unreadable (.array _)  => throw .notJson
  | .text,  d                       => mismatch d "struct variant Term::Property"
  | .value, d                       => mismatch d "struct variant"

-- In a text, whatever does not have the form of a term breaks the text.
def misformed (o : Origin) (d : Draft) : Except DecodeError Term :=
  match o with
  | .text  => throw .notJson
  | .value => mismatch d "string or map"

def decode (o : Origin) : Draft → Except DecodeError Term
  | .object []                     =>
    match o with
    | .text  => throw .notJson
    | .value => fail .notOneKey
  | .object ((name, value) :: rest) => do
    if o = .value && !rest.isEmpty then fail .notOneKey
    let name ← match name with
      | .string name => pure name
      | other        => mismatch other "variant identifier"
    let t ← match ← Variant.ofName name with
      | .ids      => ids <$> list string o value
      | .field f  => field f <$> NamePattern.decode o value
      | .property => decodeProperty o value
      | .not      => not <$> decode o value
    if rest.isEmpty then return t else throw .notJson
  | .string name                   => do
    fail (.wrongType .unitVariant (← Variant.ofName name).form)
  | d                              => misformed o d

end Term

namespace Conjunction

def toJson (c : Conjunction) : Json :=
  .object [("all", .array (c.all.map Term.toJson))]

def take (o : Origin) (sofar : Option (List Term)) (name : String) (d : Draft) :
    Except DecodeError (Option (List Term)) :=
  match name with
  | "all" => once name sofar (list Term.decode o d)
  | _     => do ignore d; return sofar

def decode : Decoder Conjunction
  | o, .object fields          => do
    return { all := ← required "all" (← foldFields (take o) none fields) }
  | o, .array (first :: rest)  => do
    let all ← list Term.decode o first
    endOfArray o (rest.length + 1) rest
    return { all }
  | _, .array []               =>
    fail (.wrongLength 0 "struct Conjunction with 1 element")
  | _, .unreadable (.object _) => throw .notJson
  | _, .unreadable (.array _)  => throw .notJson
  | _, d                       => mismatch d "struct Conjunction"

end Conjunction

namespace Definition

def toJson (d : Definition) : Json :=
  .object [("any", .array (d.any.map Conjunction.toJson))]

def take (o : Origin) (sofar : Option (List Conjunction)) (name : String) (d : Draft) :
    Except DecodeError (Option (List Conjunction)) :=
  match name with
  | "any" => once name sofar (list Conjunction.decode o d)
  | _     => do ignore d; return sofar

def decode : Decoder Definition
  | o, .object fields          => do return { any := (← foldFields (take o) none fields).getD [] }
  | _, .array []               => return {}
  | o, .array (first :: rest)  => do
    let any ← list Conjunction.decode o first
    endOfArray o (rest.length + 1) rest
    return { any }
  | _, .unreadable (.object _) => throw .notJson
  | _, .unreadable (.array _)  => throw .notJson
  | _, d                       => mismatch d "struct FilterDefinition"

end Definition

end TestSieve
