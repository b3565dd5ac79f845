import TestSieve.PropertyMap

namespace TestSieve

-- What a filter sees of a test. Nothing matches what a test does not say about itself.
class Selectable (α : Type) where
  id            : α → String
  fullName      : α → String
  name          : α → String
  className     : α → Option String := fun _ => none
  methodName    : α → Option String := fun _ => none
  namespaceName : α → Option String := fun _ => none
  categories    : α → List String := fun _ => []
  properties    : α → String → List String := fun _ _ => []

-- The part of a full name after its last dot; all of it if it has none.
def lastSegment (fullName : String) : String :=
  .ofList (fullName.toList.reverse.takeWhile (· != '.')).reverse

structure TestCase where
  id            : String := ""
  fullName      : String := ""
  name          : String := ""
  className     : Option String := none
  methodName    : Option String := none
  namespaceName : Option String := none
  categories    : List String := []
  properties    : PropertyMap := .empty
  deriving DecidableEq

namespace TestCase

def new (id fullName : String) : TestCase where
  id       := id
  fullName := fullName
  name     := lastSegment fullName

-- Listings often leave the name out.
def shownName (t : TestCase) : String :=
  if t.name = "" then lastSegment t.fullName else t.name

instance : Selectable TestCase where
  id            := TestCase.id
  fullName      := TestCase.fullName
  name          := TestCase.shownName
  className     := TestCase.className
  methodName    := TestCase.methodName
  namespaceName := TestCase.namespaceName
  categories    := TestCase.categories
  properties t  := t.properties.get

def withName (t : TestCase) (name : String) : TestCase :=
  { t with name }

def withClass (t : TestCase) (name : String) : TestCase :=
  { t with className := some name }

def withMethod (t : TestCase) (name : String) : TestCase :=
  { t with methodName := some name }

def withNamespace (t : TestCase) (name : String) : TestCase :=
  { t with namespaceName := some name }

def withCategory (t : TestCase) (name : String) : TestCase :=
  { t with categories := t.categories ++ [name] }

def withProperty (t : TestCase) (name value : String) : TestCase :=
  { t with properties := t.properties.add name value }

end TestCase

end TestSieve
