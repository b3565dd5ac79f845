import TestSieve.Criterion

namespace TestSieve

inductive Element
  | root
  | and
  | or
  | not
  | criterion (c : Criterion)
  deriving DecidableEq

def Element.kind : Element → Kind
  | root        => .root
  | and         => .and
  | or          => .or
  | not         => .not
  | criterion c => c.kind

namespace Chain

structure Node where
  element : Element
  parent  : Option Nat := none
  child   : Option Nat := none
  deriving DecidableEq

def Node.kind (n : Node) : Kind :=
  n.element.kind

def Node.isLeaf (n : Node) : Bool :=
  n.child.isNone

-- Links stay inside the chain: a parent stands before its node, and a successor after it.
def Linked (nodes : List Node) : Prop :=
  ∀ i n, nodes[i]? = some n →
    (∀ p, n.parent = some p → p < i) ∧ (∀ k, n.child = some k → i < k ∧ k < nodes.length)

theorem linked_root : Linked [{ element := .root }] := by
  intro i n h
  cases i <;> simp at h
  case zero => simp [← h]

-- The nodes with one more at the end, which follows the node `parent`.
def grown (nodes : List Node) (parent : Nat) (p : Node) (element : Element) : List Node :=
  nodes.set parent { p with child := some nodes.length } ++ [{ element, parent := some parent }]

theorem getElem?_grown {nodes : List Node} {parent : Nat} {p : Node}
    (h : nodes[parent]? = some p) (element : Element) (i : Nat) :
    (grown nodes parent p element)[i]? =
      if i = nodes.length then some { element, parent := some parent }
      else if i = parent then some { p with child := some nodes.length }
      else nodes[i]? := by
  have lt := (List.getElem?_eq_some_iff.mp h).1
  simp only [grown, List.getElem?_append, List.length_set, List.getElem?_set]
  grind

@[simp] theorem length_grown (nodes : List Node) (parent : Nat) (p : Node) (element : Element) :
    (grown nodes parent p element).length = nodes.length + 1 := by
  simp [grown]

theorem Linked.grown {nodes : List Node} {parent : Nat} {p : Node} (linked : Linked nodes)
    (h : nodes[parent]? = some p) (element : Element) :
    Linked (grown nodes parent p element) := by
  have lt := (List.getElem?_eq_some_iff.mp h).1
  intro i n hi
  rw [getElem?_grown h] at hi
  split at hi
  case isTrue eq => simp_all [← Option.some.inj hi]
  case isFalse =>
    split at hi
    case isTrue eq =>
      have ⟨before, _⟩ := linked parent p h
      simp_all [← Option.some.inj hi]
    case isFalse =>
      have ⟨before, after⟩ := linked i n hi
      refine ⟨before, fun k hk => ?_⟩
      have := after k hk
      simp only [length_grown]
      omega

end Chain

-- Nodes that each have at most one successor. A chain starts with one root node, and a node is
-- attached to one that has no successor yet.
@[ext]
structure Chain where
  nodes  : List Chain.Node
  linked : Chain.Linked nodes
  deriving DecidableEq

namespace Chain

-- The chain that holds its root and nothing else.
def start : Chain where
  nodes  := [{ element := .root }]
  linked := linked_root

instance : Inhabited Chain := ⟨start⟩

def size (c : Chain) : Nat :=
  c.nodes.length

def isEmpty (c : Chain) : Bool :=
  c.nodes.isEmpty

def get? (c : Chain) (i : Nat) : Option Node :=
  c.nodes[i]?

-- The chain with one more node, after a node that has had no successor.
def grow (c : Chain) {parent : Nat} {p : Node} (h : c.get? parent = some p) (element : Element) :
    Chain where
  nodes  := grown c.nodes parent p element
  linked := c.linked.grown h element

-- Attaches an element to the node `parent` and gives its index in the grown chain. The root is
-- refused before the parent is looked at.
def attach (c : Chain) (parent : Nat) (element : Element) : Except FilterError (Nat × Chain) :=
  if element = .root then throw (.invalidArgument .innerRoot) else
  match h : c.get? parent with
  | none   => throw (.invalidArgument (.unknownNode parent))
  | some p =>
    if p.child.isSome then throw (.invalidState (.hasSuccessor p.kind))
    else return (c.size, c.grow h element)

-- The elements met when following successors from node `i`, for at most `bound` steps.
def runUpTo (c : Chain) : Nat → Nat → List Element
  | 0,         _ => []
  | bound + 1, i =>
    match c.get? i with
    | none   => []
    | some n => n.element :: (n.child.elim [] (c.runUpTo bound))

-- The elements from node `i` to the end of the chain.
def run (c : Chain) (i : Nat) : List Element :=
  c.runUpTo c.size i

end Chain

namespace Element

-- Writes the first element of a run. A criterion ends the fragment, a negation takes the element
-- after it as its operand, and the other containers hold what follows them and write their own tag
-- only on request.
def renderRun (tagged : Bool) : List Element → List Char
  | []               => []
  | criterion c :: _ => c.render
  | not :: rest      => Xml.wrap Kind.not.tag (renderRun true rest)
  | e :: rest        =>
    let content := renderRun tagged rest
    if tagged then Xml.wrap e.kind.tag content else content

end Element

-- Writes the node `i` with what it holds; nothing if there is no such node.
def Chain.render (c : Chain) (i : Nat) (tagged : Bool) : List Char :=
  Element.renderRun tagged (c.run i)

end TestSieve
