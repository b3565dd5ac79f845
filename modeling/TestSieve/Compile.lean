import TestSieve.Chain
import TestSieve.Layout

namespace TestSieve

-- The node without a parent that the node `i` descends from. Every parent on the way must know the
-- node below it as its successor.
def Chain.origin (c : Chain) (i : Nat) : Except StateError Nat :=
  match hi : c.get? i with
  | none   => throw (.missingNode i)
  | some n =>
    match hp : n.parent with
    | none   => if n.kind = .root then return i else throw (.wrongOrigin n.kind)
    | some p =>
      have : p < i := (c.linked i n hi).1 p hp
      match c.get? p with
      | none       => throw (.missingParent p)
      | some above =>
        match above.child with
        | none       => throw .unrecordedChild
        | some below => if below = i then c.origin p else throw .mismatchedLink
termination_by i

-- A node together with what follows it.
abbrev View := List Element

namespace View

-- The groups of a run: an Or node opens the next group, And nodes only separate, and every other
-- node stands in its group as a view. The view of a negation holds the operand, so the walk passes over the
-- operand while it is still `negated`; a further negation takes its own operand with it.
def groups (negated : Bool) : List Element → Except StateError (List (List View))
  | []                   => if negated then throw .missingOperand else return [[]]
  | .criterion c :: rest =>
    if negated then groups false rest
    else do return (← groups false rest).modifyHead ((.criterion c :: rest) :: ·)
  | .not :: rest         =>
    if negated then groups true rest
    else do return (← groups true rest).modifyHead ((.not :: rest) :: ·)
  | .or :: rest          =>
    if negated then throw (.negatedContainer .or) else do return [] :: (← groups false rest)
  | e :: rest            =>
    if negated then throw (.negatedContainer e.kind) else groups false rest

end View

-- The groups of a filter as elements to be written.
def Layout.ofGroup (group : List View) : Layout View :=
  .group Kind.and.tag (group.map .element)

def Layout.ofGroups (groups : List (List View)) : Layout View :=
  .group Kind.or.tag (groups.map Layout.ofGroup)

-- The content of the top element. That is a conjunction already, so a single group is written bare.
def renderGroups : List (List View) → List Char
  | [group] => (Layout.ofGroup group).write Element.renderRun false
  | groups  => (Layout.ofGroups groups).write Element.renderRun true

@[ext]
structure CompiledFilter where
  xml : String
  deriving DecidableEq

namespace CompiledFilter

-- The filter that selects every test.
def empty : CompiledFilter where
  xml := "<filter></filter>"

def isEmpty (f : CompiledFilter) : Bool :=
  f == empty

def ofGroups (groups : List (List View)) : CompiledFilter where
  xml := .ofList (Xml.wrap Kind.root.tag (renderGroups groups))

end CompiledFilter

-- Compiles the chain that ends at `leaf`. The root itself says nothing, so the groups are those of
-- the elements after it.
def Chain.compile (c : Chain) (leaf : Nat) : Except FilterError CompiledFilter :=
  match c.get? leaf with
  | none   => throw (.invalidArgument (.unknownNode leaf))
  | some n =>
    if n.isLeaf then do
      let root ← (c.origin leaf).mapError .invalidState
      let groups ← (View.groups false (c.run root).tail).mapError .invalidState
      return .ofGroups groups
    else throw (.invalidArgument (.notALeaf n.kind))

end TestSieve
