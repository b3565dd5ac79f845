import TestSieve.Proofs.Filter.Aspect

namespace TestSieve

-- A call that lets a test case say more about itself.
inductive Enlargement
  | category (name : String)
  | property (name value : String)
  | className (name : String)
  | methodName (name : String)
  | namespaceName (name : String)

namespace Enlargement

def aspect : Enlargement → Aspect
  | category _      => .field .category
  | property name _ => .property name
  | className _     => .field .className
  | methodName _    => .field .methodName
  | namespaceName _ => .field .namespaceName

def apply (t : TestCase) : Enlargement → TestCase
  | category name       => t.withCategory name
  | property name value => t.withProperty name value
  | className name      => t.withClass name
  | methodName name     => t.withMethod name
  | namespaceName name  => t.withNamespace name

-- The text that a call gives at its aspect.
def value : Enlargement → String
  | category name | className name | methodName name | namespaceName name => name
  | property _ value                                                      => value

end Enlargement

-- A call on a test case.
inductive Change
  | rename (name : String)
  | enlarge (e : Enlargement)

namespace Change

def apply (t : TestCase) : Change → TestCase
  | rename name => t.withName name
  | enlarge e   => e.apply t

def aspect : Change → Aspect
  | rename _  => .field .shortName
  | enlarge e => e.aspect

def value : Change → String
  | rename name => name
  | enlarge e   => e.value

-- The texts that calls give at an aspect, in the order of the calls.
def given (changes : List Change) (a : Aspect) : List String :=
  (changes.filter (·.aspect = a)).map value

theorem given_append (cs ds : List Change) (a : Aspect) :
    given (cs ++ ds) a = given cs a ++ given ds a := by
  simp [given]

end Change

namespace TestCase

open Change

-- What a test case `u` says if these calls have made it of `t`.
structure Records (t : TestCase) (changes : List Change) (u : TestCase) : Prop where
  id            : u.id = t.id
  fullName      : u.fullName = t.fullName
  name          : u.name = (given changes (.field .shortName)).getLast?.getD t.name
  className     : u.className = (given changes (.field .className)).getLast?.or t.className
  methodName    : u.methodName = (given changes (.field .methodName)).getLast?.or t.methodName
  namespaceName :
    u.namespaceName = (given changes (.field .namespaceName)).getLast?.or t.namespaceName
  categories    : u.categories = t.categories ++ given changes (.field .category)
  properties    : ∀ name,
    u.properties.get name = t.properties.get name ++ given changes (.property name)

namespace Records

variable {t u v : TestCase} {cs ds : List Change}

theorem refl (t : TestCase) : Records t [] t where
  id            := rfl
  fullName      := rfl
  name          := rfl
  className     := rfl
  methodName    := rfl
  namespaceName := rfl
  categories    := (List.append_nil _).symm
  properties _  := (List.append_nil _).symm

-- A call gives one text, at its own aspect; the other parts are left alone.
theorem single (t : TestCase) (c : Change) : Records t [c] (c.apply t) := by
  have kept {texts : List String} : texts = texts ++ [] := (List.append_nil _).symm
  obtain _ | (_ | _ | _ | _ | _) := c
  case enlarge.category => exact ⟨rfl, rfl, rfl, rfl, rfl, rfl, rfl, fun _ => kept⟩
  case enlarge.property name text =>
    refine ⟨rfl, rfl, rfl, rfl, rfl, rfl, kept, fun asked => ?_⟩
    refine (PropertyMap.get_add t.properties name text asked).trans ?_
    by_cases same : asked = name
    case pos => simp [given, aspect, Enlargement.aspect, value, Enlargement.value, same]
    case neg => simp [given, aspect, Enlargement.aspect, same, Ne.symm same]
  all_goals exact ⟨rfl, rfl, rfl, rfl, rfl, rfl, kept, fun _ => kept⟩

theorem trans (h : Records t cs u) (h' : Records u ds v) : Records t (cs ++ ds) v where
  id            := h'.id.trans h.id
  fullName      := h'.fullName.trans h.fullName
  name          := by rw [h'.name, h.name, given_append, List.getLast?_append, Option.getD_or]
  className     := by
    rw [h'.className, h.className, given_append, List.getLast?_append, Option.or_assoc]
  methodName    := by
    rw [h'.methodName, h.methodName, given_append, List.getLast?_append, Option.or_assoc]
  namespaceName := by
    rw [h'.namespaceName, h.namespaceName, given_append, List.getLast?_append, Option.or_assoc]
  categories    := by rw [h'.categories, h.categories, given_append, List.append_assoc]
  properties p  := by rw [h'.properties, h.properties, given_append, List.append_assoc]

end Records

-- A part that holds one text holds the last one that was given, and a part that holds several keeps
-- all that were given, in their order.
theorem records_foldl (t : TestCase) (changes : List Change) :
    Records t changes (changes.foldl Change.apply t) := by
  induction changes generalizing t
  case nil          => exact .refl t
  case cons c cs hi => exact (Records.single t c).trans (hi (c.apply t))

end TestCase

end TestSieve
