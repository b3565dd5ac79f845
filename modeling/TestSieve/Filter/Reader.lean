import TestSieve.Compile
import TestSieve.Filter
import TestSieve.Unicode.Space
import TestSieve.Xml.Document

namespace TestSieve

-- The ids in a list that is separated by commas; what is blank between two commas is none.
def splitIds (text : String) : List String :=
  (text.toList.splitOn ',').map (.ofList <| Unicode.trimSpace ·) |>.filter (· ≠ "")

namespace Xml.Element

def marksRegex (e : Xml.Element) : Bool :=
  e.attribute? "re" == some "1"

end Xml.Element

namespace Filter

variable [Regex.Engine]

-- A predicate that looks at a field or the like, made from the text of its element.
def ofIds (e : Xml.Element) : Except FilterError Filter :=
  match splitIds e.text with
  | []   => throw (.malformed .noIds)
  | list => return .ids list

def ofProperty (e : Xml.Element) : Except FilterError Filter := do
  match (e.attribute? "name").filter (· ≠ "") with
  | none      => throw (.malformed .noPropertyName)
  | some name => return .property name (← Pattern.of e.text e.marksRegex)

def ofField (f : Field) (e : Xml.Element) : Except FilterError Filter := do
  if e.text = "" then throw (.malformed (.noValue f))
  else return .field f (← Pattern.of e.text e.marksRegex)

-- A negation has one operand, which is looked for only when all children have a meaning.
def ofOperands : List Filter → Except FilterError Filter
  | [operand] => return .not operand
  | operands  => throw (.malformed (.operands operands.length))

mutual

-- The filter that an element below the top stands for. An element is judged by its tag, then by its
-- children from left to right, and last by what it holds itself.
def ofElement : Xml.Element → Except FilterError Filter
  | ⟨tag, attributes, text, children⟩ =>
    let e : Xml.Element := ⟨tag, attributes, text, children⟩
    match Kind.ofTag? tag with
    | none           => throw (.unknownElement tag)
    | some .root     => throw (.malformed .innerFilter)
    | some .and      => do return .and (← ofElements children)
    | some .or       => do return .or (← ofElements children)
    | some .not      => do ofOperands (← ofElements children)
    | some .id       => ofIds e
    | some .property => ofProperty e
    | some (.field f) => ofField f e

def ofElements : List Xml.Element → Except FilterError (List Filter)
  | []            => return []
  | e :: elements => do
    let f ← ofElement e
    return f :: (← ofElements elements)

end

-- The parts of a document are one conjunction, written without its tag.
def ofParts : List Filter → Filter
  | []     => .empty
  | [part] => part
  | parts  => .and parts

-- Reads the filter that a document holds.
def ofDocument (document : Xml.Element) : Except FilterError Filter := do
  if document.tag ≠ Kind.root.tag then throw (.malformed (.wrongTop document.tag))
  else return ofParts (← ofElements document.children)

def parse (xml : String) : Except FilterError Filter := do
  ofDocument (← Xml.readDocument xml.toList)

end Filter

namespace CompiledFilter

variable [Regex.Engine]

def filter (c : CompiledFilter) : Except FilterError Filter :=
  Filter.parse c.xml

def select {α : Type} [Selectable α] (c : CompiledFilter) (tests : List α) :
    Except FilterError (List α) := do
  return (← c.filter).select tests

def pass {α : Type} [Selectable α] (c : CompiledFilter) (t : α) : Except FilterError Bool := do
  return (← c.filter).pass t

end CompiledFilter

end TestSieve
