import TestSieve.Kind
import TestSieve.Xml.Error

namespace TestSieve

-- A call received something it cannot use.
inductive ArgumentError
  | notAPredicate (kind : Kind)
  | propertyWithoutValue
  | emptyText (kind : Kind)
  | emptyPropertyName
  | emptyPropertyValue (name : String)
  | noIds
  | innerRoot
  | unknownNode (index : Nat)
  | notALeaf (kind : Kind)
  | emptyGroup (index : Nat)
  deriving DecidableEq

-- A chain is not in a state that allows the operation.
inductive StateError
  | hasSuccessor (kind : Kind)
  -- links that do not fit together
  | missingNode (index : Nat)
  | missingParent (index : Nat)
  | wrongOrigin (kind : Kind)
  | unrecordedChild
  | mismatchedLink
  -- negations without an operand
  | negatedContainer (kind : Kind)
  | missingOperand
  deriving DecidableEq

-- A document is well-formed markup and no filter.
inductive ShapeError
  | wrongTop (tag : String)
  | innerFilter
  | operands (count : Nat)
  | noIds
  | noPropertyName
  | noValue (field : Field)
  | tooDeep (limit : Nat)
  | outerText
  | secondTop
  | unclosed (tag : String)
  | noElement
  deriving DecidableEq

-- Errors keep their causes as data, and are worded when they are reported.
inductive FilterError
  | invalidArgument (cause : ArgumentError)
  | invalidState (cause : StateError)
  | xml (cause : Xml.Error)
  | invalidRegex
  | malformed (cause : ShapeError)
  | unknownElement (tag : String)
  deriving DecidableEq

namespace ArgumentError

def message : ArgumentError → String
  | notAPredicate kind      => "unsupported element kind '" ++ kind.tag ++ "' for a predicate"
  | propertyWithoutValue    => "property predicates need a value"
  | emptyText kind          => "<" ++ kind.tag ++ "> predicate needs a non-empty name"
  | emptyPropertyName       => "property predicate needs a non-empty name"
  | emptyPropertyValue name => "property '" ++ name ++ "' needs a non-empty value"
  | noIds                   => "id predicate needs at least one non-empty id"
  | innerRoot               => "a Root node can only start a chain"
  | unknownNode index       => "node " ++ toString index ++ " is not part of this chain"
  | notALeaf kind           =>
    "<" ++ kind.tag ++ "> node is not a true leaf: it already has a successor"
  | emptyGroup index        => "group " ++ toString index ++ " has no terms"

end ArgumentError

namespace StateError

def message : StateError → String
  | hasSuccessor kind     => "<" ++ kind.tag ++ "> node already has a successor"
  | missingNode index     => "chain broken: node " ++ toString index ++ " is missing"
  | missingParent index   => "chain broken: parent " ++ toString index ++ " is missing"
  | wrongOrigin kind      => "root of chain is a <" ++ kind.tag ++ "> node, not a Root"
  | unrecordedChild       => "chain broken: a node on the path has no recorded child"
  | mismatchedLink        => "chain broken: mismatched parent/child linkage"
  | negatedContainer kind => "a Not cannot negate a <" ++ kind.tag ++ "> node"
  | missingOperand        => "chain ends with a Not that has no operand"

end StateError

namespace ShapeError

def message : ShapeError → String
  | wrongTop tag   => "expected <filter> at the top, found <" ++ tag ++ ">"
  | innerFilter    => "<filter> can only be the top element"
  | operands count => "<not> needs exactly one operand, found " ++ toString count
  | noIds          => "<id> lists no ids"
  | noPropertyName => "<prop> needs a name attribute"
  | noValue field  => "<" ++ field.tag ++ "> has no value"
  | tooDeep limit  => "elements nest deeper than " ++ toString limit ++ " levels"
  | outerText      => "text outside of <filter>"
  | secondTop      => "more than one top-level element"
  | unclosed tag   => "<" ++ tag ++ "> is never closed"
  | noElement      => "document is empty"

end ShapeError

namespace FilterError

def message : FilterError → String
  | invalidArgument cause => "invalid argument: " ++ cause.message
  | invalidState cause    => "invalid state: " ++ cause.message
  | xml cause             => "malformed filter xml: " ++ cause.message
  | invalidRegex          => "invalid regex pattern"
  | malformed cause       => "malformed filter: " ++ cause.message
  | unknownElement tag    => "unsupported filter element <" ++ tag ++ ">"

end FilterError

end TestSieve
