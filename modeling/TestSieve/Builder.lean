import TestSieve.Compile

namespace TestSieve

-- A chain and the node that the next one is attached to.
structure Cursor where
  chain : Chain := .start
  node  : Nat := 0
  deriving DecidableEq

namespace Cursor

def push (c : Cursor) (element : Element) : Except FilterError Cursor := do
  let (node, chain) ← c.chain.attach c.node element
  return { chain, node }

def compile (c : Cursor) : Except FilterError CompiledFilter :=
  c.chain.compile c.node

end Cursor

inductive Stage
  | start
  | predicate
  | group
  | negation
  deriving DecidableEq, Repr

namespace Stage

def takesPredicate : Stage → Bool
  | predicate => false
  | _         => true

def takesNot : Stage → Bool
  | predicate => false
  | _         => true

def takesGroup : Stage → Bool
  | negation => false
  | _        => true

def builds : Stage → Bool
  | start | predicate => true
  | _                 => false

end Stage

-- A handle stands for the last node of its chain. Its stage says what that node is, and with it
-- which calls make sense next, so that what offers to be built can be built.
structure Handle (s : Stage) where
  cursor : Cursor
  deriving DecidableEq

namespace Handle

variable {s : Stage}

def new : Handle .start where
  cursor := {}

def chain (h : Handle s) : Chain :=
  h.cursor.chain

def node (h : Handle s) : Nat :=
  h.cursor.node

-- The kind of the handle's node.
def kind (h : Handle s) : Kind :=
  (h.chain.get? h.node).elim .root Chain.Node.kind

def predicate (h : Handle s) (c : Criterion) (_ : s.takesPredicate := by rfl) :
    Except FilterError (Handle .predicate) := do
  return ⟨← h.cursor.push (.criterion c)⟩

def ids (h : Handle s) (entries : List String) (ok : s.takesPredicate := by rfl) :
    Except FilterError (Handle .predicate) := do
  h.predicate (← Criterion.ofIds entries) ok

def field (h : Handle s) (f : Field) (text : String) (regex : Bool)
    (ok : s.takesPredicate := by rfl) : Except FilterError (Handle .predicate) := do
  h.predicate (← Criterion.named (.field f) text regex) ok

def property (h : Handle s) (name value : String) (regex : Bool)
    (ok : s.takesPredicate := by rfl) : Except FilterError (Handle .predicate) := do
  h.predicate (← Criterion.ofProperty name value regex) ok

def and (h : Handle s) (_ : s.takesGroup := by rfl) : Except FilterError (Handle .group) := do
  return ⟨← h.cursor.push .and⟩

def or (h : Handle s) (_ : s.takesGroup := by rfl) : Except FilterError (Handle .group) := do
  return ⟨← h.cursor.push .or⟩

def not (h : Handle s) (_ : s.takesNot := by rfl) : Except FilterError (Handle .negation) := do
  return ⟨← h.cursor.push .not⟩

def build (h : Handle s) (_ : s.builds := by rfl) : Except FilterError CompiledFilter :=
  h.cursor.compile

end Handle

-- A call that adds a node, as data.
inductive Call
  | ids (entries : List String)
  | field (f : Field) (text : String) (regex : Bool)
  | property (name value : String) (regex : Bool)
  | and
  | or
  | not
  deriving DecidableEq

namespace Call

-- Whether a handle at a stage offers the call.
def offered (s : Stage) : Call → Bool
  | ids _ | field _ _ _ | property _ _ _ => s.takesPredicate
  | and | or                             => s.takesGroup
  | not                                  => s.takesNot

-- The stage of the handle that the call gives.
def stage : Call → Stage
  | ids _ | field _ _ _ | property _ _ _ => .predicate
  | and | or                             => .group
  | not                                  => .negation

def apply {s : Stage} (call : Call) (h : Handle s) (ok : call.offered s) :
    Except FilterError (Handle call.stage) :=
  match call, ok with
  | ids entries, ok             => h.ids entries ok
  | field f text regex, ok      => h.field f text regex ok
  | property name value rx, ok  => h.property name value rx ok
  | and, ok                     => h.and ok
  | or, ok                      => h.or ok
  | not, ok                     => h.not ok

end Call

end TestSieve
