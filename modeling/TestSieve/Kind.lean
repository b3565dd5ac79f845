namespace TestSieve

-- The part of a test that a name predicate looks at.
inductive Field
  | fullName
  | category
  | className
  | methodName
  | namespaceName
  | shortName
  deriving DecidableEq, Repr

-- Containers give a filter its shape, and predicates ask something of a test.
inductive Kind
  | root
  | and
  | or
  | not
  | id
  | field (f : Field)
  | property
  deriving DecidableEq, Repr

namespace Field

def tag : Field → String
  | fullName      => "test"
  | category      => "cat"
  | className     => "class"
  | methodName    => "method"
  | namespaceName => "namespace"
  | shortName     => "name"

end Field

namespace Kind

def tag : Kind → String
  | root     => "filter"
  | and      => "and"
  | or       => "or"
  | not      => "not"
  | id       => "id"
  | field f  => f.tag
  | property => "prop"

-- Containers come first, then predicates.
def all : List Kind := [
  root, and, or, not, id,
  field .fullName, field .category, field .className, field .methodName, field .namespaceName,
  property,
  field .shortName
]

def ofTag? (tag : String) : Option Kind :=
  all.find? (·.tag == tag)

theorem ofTag?_tag (k : Kind) : ofTag? k.tag = some k := by
  cases k with
  | field f => cases f <;> rfl
  | _ => rfl

theorem tag_of_ofTag? {tag : String} {k : Kind} (h : ofTag? tag = some k) : k.tag = tag := by
  simpa using List.find?_some h

theorem ofTag?_eq_some_iff {tag : String} {k : Kind} : ofTag? tag = some k ↔ k.tag = tag :=
  ⟨tag_of_ofTag?, fun h => h ▸ ofTag?_tag k⟩

theorem tag_injective {k l : Kind} (h : k.tag = l.tag) : k = l := by
  have := ofTag?_tag k
  rw [h, ofTag?_tag] at this
  exact (Option.some.inj this).symm

def isContainer : Kind → Bool
  | root | and | or | not    => true
  | id | field _ | property  => false

def isPredicate (k : Kind) : Bool :=
  !k.isContainer

-- Ids are listed, never searched for.
def supportsRegex (k : Kind) : Bool :=
  k.isPredicate && k != id

end Kind

end TestSieve
