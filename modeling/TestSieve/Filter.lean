import TestSieve.Error
import TestSieve.Regex
import TestSieve.TestCase

namespace TestSieve

-- How a predicate compares a text.
inductive Pattern
  | literal (text : String)
  | regex (text : String) (compiled : Regex)

namespace Pattern

def of [Regex.Engine] (text : String) (regex : Bool) : Except FilterError Pattern :=
  if regex then
    match Regex.ofPattern? text with
    | some compiled => return .regex text compiled
    | none          => throw .invalidRegex
  else return literal text

def text : Pattern → String
  | literal t | regex t _ => t

def isRegex : Pattern → Bool
  | literal _ => false
  | regex _ _ => true

def isMatch : Pattern → String → Bool
  | literal t,       value => t == value
  | regex _ compiled, value => compiled.isMatch value

end Pattern

-- The texts of a test that a name predicate looks at.
def Field.texts {α : Type} [Selectable α] (f : Field) (t : α) : List String :=
  match f with
  | fullName      => [Selectable.fullName t]
  | shortName     => [Selectable.name t]
  | className     => (Selectable.className t).toList
  | methodName    => (Selectable.methodName t).toList
  | namespaceName => (Selectable.namespaceName t).toList
  | category      => Selectable.categories t

-- A predicate on a part of a test holds if some text there matches, so it fails on every test that
-- lacks the part.
inductive Filter
  | empty
  | and (parts : List Filter)
  | or (parts : List Filter)
  | not (operand : Filter)
  | ids (list : List String)
  | field (f : Field) (pattern : Pattern)
  | property (name : String) (pattern : Pattern)

namespace Filter

variable {α : Type} [Selectable α]

mutual

-- Whether a filter selects a test.
def pass (t : α) : Filter → Bool
  | empty                 => true
  | and parts             => passAll t parts
  | or parts              => passAny t parts
  | not operand           => !pass t operand
  | ids list              => list.contains (Selectable.id t)
  | field f pattern       => (f.texts t).any pattern.isMatch
  | property name pattern => (Selectable.properties t name).any pattern.isMatch

def passAll (t : α) : List Filter → Bool
  | []            => true
  | part :: parts => pass t part && passAll t parts

def passAny (t : α) : List Filter → Bool
  | []            => false
  | part :: parts => pass t part || passAny t parts

end

theorem passAll_eq_all (t : α) (parts : List Filter) : passAll t parts = parts.all (pass t) := by
  induction parts with
  | nil            => rfl
  | cons part _ ih => simp [passAll, ih]

theorem passAny_eq_any (t : α) (parts : List Filter) : passAny t parts = parts.any (pass t) := by
  induction parts with
  | nil            => rfl
  | cons part _ ih => simp [passAny, ih]

@[simp] theorem pass_and (t : α) (parts : List Filter) :
    pass t (and parts) = parts.all (pass t) := by
  simp [pass, passAll_eq_all]

@[simp] theorem pass_or (t : α) (parts : List Filter) :
    pass t (or parts) = parts.any (pass t) := by
  simp [pass, passAny_eq_any]

@[simp] theorem pass_not (t : α) (operand : Filter) :
    pass t (not operand) = !pass t operand := by
  simp [pass]

@[simp] theorem pass_empty (t : α) : pass t empty = true := by
  simp [pass]

def isEmpty : Filter → Bool
  | empty => true
  | _     => false

-- The tests that a filter selects, in their order.
def select (f : Filter) (tests : List α) : List α :=
  tests.filter (pass · f)

end Filter

end TestSieve
