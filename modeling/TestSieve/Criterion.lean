import TestSieve.Error
import TestSieve.Xml.Escape

namespace TestSieve

abbrev NonemptyText := { text : String // text ≠ "" }

-- What a single predicate asks for. The functions that take plain text refuse what is empty.
inductive Criterion
  | ids (list : NonemptyText)
  | field (of : Field) (text : NonemptyText) (regex : Bool)
  | property (name value : NonemptyText) (regex : Bool)
  deriving DecidableEq

namespace Criterion

def kind : Criterion → Kind
  | ids _            => .id
  | field f _ _      => .field f
  | property _ _ _   => .property

-- The text that stands for the criterion as a whole; of a property, its name.
def name : Criterion → String
  | ids l            => l.val
  | field _ t _      => t.val
  | property n _ _   => n.val

def value? : Criterion → Option String
  | property _ v _   => some v.val
  | _                => none

def isRegex : Criterion → Bool
  | ids _            => false
  | field _ _ r      => r
  | property _ _ r   => r

theorem kind_isPredicate (c : Criterion) : c.kind.isPredicate := by
  cases c <;> rfl

-- The regex flag means nothing for ids and is dropped there.
def named (kind : Kind) (text : String) (regex : Bool) : Except FilterError Criterion :=
  match kind with
  | .root | .and | .or | .not => throw (.invalidArgument (.notAPredicate kind))
  | .property                 => throw (.invalidArgument .propertyWithoutValue)
  | .id                       =>
    if h : text ≠ "" then return ids ⟨text, h⟩
    else throw (.invalidArgument (.emptyText .id))
  | .field f                  =>
    if h : text ≠ "" then return field f ⟨text, h⟩ regex
    else throw (.invalidArgument (.emptyText (.field f)))

def ofProperty (name value : String) (regex : Bool) : Except FilterError Criterion :=
  if hn : name ≠ "" then
    if hv : value ≠ "" then return property ⟨name, hn⟩ ⟨value, hv⟩ regex
    else throw (.invalidArgument (.emptyPropertyValue name))
  else throw (.invalidArgument .emptyPropertyName)

-- Entries that are empty say nothing; the others are kept as one list, separated by commas.
def joinIds (entries : List String) : String :=
  ",".intercalate (entries.filter (· ≠ ""))

def ofIds (entries : List String) : Except FilterError Criterion :=
  if h : joinIds entries ≠ "" then return ids ⟨joinIds entries, h⟩
  else throw (.invalidArgument .noIds)

-- The criterion as an element: the regex mark comes before the name of a property.
def render (c : Criterion) : List Char :=
  let tag := c.kind.tag
  let regexMark := if c.isRegex then Xml.renderAttribute "re" "1" else []
  let content := match c with
    | property n v _ => Xml.renderAttribute "name" n.val ++ ['>'] ++ Xml.escapeText v.val.toList
    | _              => ['>'] ++ Xml.escapeText c.name.toList
  ['<'] ++ tag.toList ++ regexMark ++ content ++ Xml.closeTag tag

end Criterion

end TestSieve
