import TestSieve.Json.Decode
import TestSieve.TestCase

namespace TestSieve.TestCase

def toJson (t : TestCase) : Json :=
  .object [
    ("categories",  .strings t.categories),
    ("class_name",  .optional t.className),
    ("full_name",   .string t.fullName),
    ("id",          .string t.id),
    ("method_name", .optional t.methodName),
    ("name",        .string t.name),
    ("namespace",   .optional t.namespaceName),
    ("properties",  .object (t.properties.entries.map fun e => (e.1, .strings e.2)))
  ]

-- The fields that were given so far.
structure Given where
  id            : Option String := none
  fullName      : Option String := none
  name          : Option String := none
  className     : Option (Option String) := none
  methodName    : Option (Option String) := none
  namespaceName : Option (Option String) := none
  categories    : Option (List String) := none
  properties    : Option PropertyMap := none

def Given.complete (g : Given) : TestCase where
  id            := g.id.getD ""
  fullName      := g.fullName.getD ""
  name          := g.name.getD ""
  className     := g.className.getD none
  methodName    := g.methodName.getD none
  namespaceName := g.namespaceName.getD none
  categories    := g.categories.getD []
  properties    := g.properties.getD .empty

open Decode

def decodeProperties : Decoder PropertyMap
  | o, d => PropertyMap.ofList <$> entries (list string) o d

def Given.take (o : Origin) (g : Given) (name : String) (d : Draft) : Except DecodeError Given :=
  match name with
  | "id"          => do return { g with id := ← once name g.id (string o d) }
  | "full_name"   => do return { g with fullName := ← once name g.fullName (string o d) }
  | "name"        => do return { g with name := ← once name g.name (string o d) }
  | "class_name"  => do
    return { g with className := ← once name g.className (optional string o d) }
  | "method_name" => do
    return { g with methodName := ← once name g.methodName (optional string o d) }
  | "namespace"   => do
    return { g with namespaceName := ← once name g.namespaceName (optional string o d) }
  | "categories"  => do
    return { g with categories := ← once name g.categories (list string o d) }
  | "properties"  => do
    return { g with properties := ← once name g.properties (decodeProperties o d) }
  | _             => do ignore d; return g

-- The fields in the order in which an array gives them.
def order : List String := [
  "id", "full_name", "name", "class_name", "method_name", "namespace", "categories", "properties"
]

-- Takes the items of an array as the fields of these names.
def Given.takeAll (o : Origin) (length : Nat) (g : Given) :
    List String → List Draft → Except DecodeError Given
  | name :: names, d :: items => do Given.takeAll o length (← g.take o name d) names items
  | _,             []         => return g
  | [],            items      => do endOfArray o length items; return g

-- A test case is an object in which every field may be left out, or an array of the fields in their
-- order, of which the last ones may be left out.
def decode : Decoder TestCase
  | o, .object fields          => do return (← foldFields (Given.take o) {} fields).complete
  | o, .array items            => do
    return (← Given.takeAll o items.length {} order items).complete
  | _, .unreadable (.object _) => throw .notJson
  | _, .unreadable (.array _)  => throw .notJson
  | _, d                       => mismatch d "struct TestCase"

def decodeAll : Decoder (List TestCase) :=
  list decode

end TestSieve.TestCase
