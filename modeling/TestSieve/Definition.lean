import TestSieve.Builder

namespace TestSieve

-- A name as it is, or a pattern with a mark that says whether it is a regular expression.
inductive NamePattern
  | literal (name : String)
  | detailed (pattern : String) (regex : Bool)
  deriving DecidableEq

namespace NamePattern

def text : NamePattern → String
  | literal name       => name
  | detailed pattern _ => pattern

def isRegex : NamePattern → Bool
  | literal _        => false
  | detailed _ regex => regex

end NamePattern

inductive Term
  | ids (list : List String)
  | field (f : Field) (pattern : NamePattern)
  | property (name value : String) (regex : Bool)
  | not (operand : Term)
  deriving DecidableEq

-- Terms that must all hold.
structure Conjunction where
  all : List Term
  deriving DecidableEq

-- Groups of which one must hold. No groups at all select everything.
structure Definition where
  any : List Conjunction := []
  deriving DecidableEq

namespace Term

def append (c : Cursor) : Term → Except FilterError Cursor
  | not operand               => do operand.append (← c.push .not)
  | ids list                  => do c.push (.criterion (← Criterion.ofIds list))
  | field f pattern           => do
    c.push (.criterion (← Criterion.named (.field f) pattern.text pattern.isRegex))
  | property name value regex => do c.push (.criterion (← Criterion.ofProperty name value regex))

end Term

namespace Conjunction

-- The terms after the first, each joined to those before it.
def appendRest (c : Cursor) : List Term → Except FilterError Cursor
  | []         => return c
  | t :: terms => do appendRest (← t.append (← c.push .and)) terms

def append (c : Cursor) (index : Nat) (group : Conjunction) : Except FilterError Cursor :=
  match group.all with
  | []         => throw (.invalidArgument (.emptyGroup index))
  | t :: terms => do
    let c ← if index = 0 then pure c else c.push .or
    appendRest (← t.append c) terms

end Conjunction

namespace Definition

-- The groups from the one with this index on.
def appendFrom (c : Cursor) (index : Nat) : List Conjunction → Except FilterError Cursor
  | []              => return c
  | group :: groups => do appendFrom (← group.append c index) (index + 1) groups

def build (d : Definition) : Except FilterError CompiledFilter := do
  (← appendFrom {} 0 d.any).compile

end Definition

end TestSieve
