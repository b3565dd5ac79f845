namespace TestSieve.Regex

inductive Flag
  | ignoreCase
  | multiLine
  | dotAll
  | swapGreed
  | unicode
  | crlf
  | extended
  deriving DecidableEq, Repr

-- Flags that a group sets, and flags that it takes back.
structure FlagChange where
  on  : List Flag := []
  off : List Flag := []
  deriving DecidableEq, Repr

def FlagChange.apply (change : FlagChange) (flag : Flag) (value : Bool) : Bool :=
  if change.on.contains flag then true
  else if change.off.contains flag then false
  else value

-- The classes with a letter of their own.
inductive ShortClass
  | digit
  | space
  | word
  deriving DecidableEq, Repr

-- What a pattern may ask about a place in the text.
inductive Assertion
  | lineStart
  | lineEnd
  | textStart
  | textEnd
  | wordBoundary
  | noWordBoundary
  | wordStart
  | wordEnd
  | wordStartHalf
  | wordEndHalf
  deriving DecidableEq, Repr

inductive PropertyQuery
  | byName (name : String)
  | byValue (property value : String)
  deriving DecidableEq, Repr

-- The classes that have a name between colons.
inductive PosixClass
  | alnum | alpha | ascii | blank | cntrl | digit | graph | lower | print | punct | space | upper
  | word | xdigit
  deriving DecidableEq, Repr

inductive SetOperation
  | intersection
  | difference
  | symmetricDifference
  deriving DecidableEq, Repr

-- What stands between brackets.
inductive SetTree
  | literal (c : Char)
  | range (first last : Char)
  | posix (p : PosixClass) (negated : Bool)
  | short (s : ShortClass) (negated : Bool)
  | property (q : PropertyQuery) (negated : Bool)
  | bracket (negated : Bool) (content : SetTree)
  | union (items : List SetTree)
  | operation (op : SetOperation) (left right : SetTree)

-- A pattern as it was written, with flags where they were set.
inductive Tree
  | empty
  | flags (change : FlagChange)
  -- `asByte` marks a character that was written as two hexadecimal digits.
  | literal (c : Char) (asByte : Bool)
  | dot
  | assertion (a : Assertion)
  | short (s : ShortClass) (negated : Bool)
  | property (q : PropertyQuery) (negated : Bool)
  | bracket (negated : Bool) (content : SetTree)
  | repetition (min : Nat) (max? : Option Nat) (body : Tree)
  | group (change : FlagChange) (body : Tree)
  | alternation (branches : List Tree)
  | concat (parts : List Tree)

-- The deepest nesting that is accepted.
def maxNesting : Nat := 250

mutual

def SetTree.depth : SetTree → Nat
  | .bracket _ content => content.depth + 1
  | .union []          => 0
  | .union items       => SetTree.depthAll items + 1
  | .operation _ l r   => max l.depth r.depth + 1
  | _                  => 0

def SetTree.depthAll : List SetTree → Nat
  | []            => 0
  | item :: items => max item.depth (SetTree.depthAll items)

end

mutual

def Tree.depth : Tree → Nat
  | .bracket _ content    => content.depth + 1
  | .repetition _ _ body  => body.depth + 1
  | .group _ body         => body.depth + 1
  | .alternation branches => Tree.depthAll branches + 1
  | .concat parts         => Tree.depthAll parts + 1
  | _                     => 0

def Tree.depthAll : List Tree → Nat
  | []            => 0
  | part :: parts => max part.depth (Tree.depthAll parts)

end

namespace SetTree

-- One item stands for itself.
def ofItems : List SetTree → SetTree
  | [item] => item
  | items  => .union items

end SetTree

namespace Tree

def ofParts : List Tree → Tree
  | []     => .empty
  | [part] => part
  | parts  => .concat parts

def ofBranches : List Tree → Tree
  | [branch] => branch
  | branches => .alternation branches

end Tree

end TestSieve.Regex
