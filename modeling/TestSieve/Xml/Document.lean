import TestSieve.Error
import TestSieve.Xml.Attribute
import TestSieve.Xml.Item

namespace TestSieve.Xml

structure Element where
  tag        : String
  attributes : List Attribute
  text       : String
  children   : List Element

namespace Element

def attribute? (e : Element) (key : String) : Option String :=
  (e.attributes.find? (·.key = key)).map (·.value)

end Element

-- The deepest nesting of elements that have an end tag.
def maxDepth : Nat := 128

-- An element without its content, from what stands in its tag.
def Element.ofTag (content : List Char) : Except Error Element := do
  let name := content.takeWhile (!isBlank ·)
  let rest := content.dropWhile (!isBlank ·)
  let attributes ← Attribute.readAll (byteLength name) rest
  return { tag := .ofList name, attributes, text := "", children := [] }

-- Blanks after the name do not belong to it, unless there is nothing but blanks.
def endTagName (content : List Char) : String :=
  .ofList (if content.all isBlank then content else trimEnd content)

-- Elements that are open, innermost first, each with its children so far, last one first.
structure Builder where
  opened : List Element := []
  top    : Option Element := none

namespace Builder

-- Puts a complete element where it belongs: into the innermost open one, or to the top.
def place (b : Builder) (e : Element) : Except FilterError Builder :=
  match b.opened, b.top with
  | parent :: outer, _ =>
    return { b with opened := { parent with children := e :: parent.children } :: outer }
  | [], none           => return { b with top := some e }
  | [], some _         => throw (.malformed .secondTop)

def addText (b : Builder) (text : List Char) : Except FilterError Builder :=
  match b.opened with
  | e :: outer => return { b with opened := { e with text := e.text ++ .ofList text } :: outer }
  | []         => throw (.malformed .outerText)

-- An element whose children are complete; they were collected last one first.
def completed (e : Element) : Element :=
  { e with children := e.children.reverse }

def take (b : Builder) : Item → Except FilterError Builder
  | .text raw        => do b.addText (← (unescape raw).mapError (.xml ∘ .badEntity))
  | .literal content => b.addText content
  | .opening content => do
    if b.opened.length ≥ maxDepth then throw (.malformed (.tooDeep maxDepth))
    let e ← (Element.ofTag content).mapError .xml
    return { b with opened := e :: b.opened }
  | .empty content   => do b.place (← (Element.ofTag content).mapError .xml)
  | .closing content =>
    let name := endTagName content
    match b.opened with
    | []         => throw (.xml (.unmatchedEnd name))
    | e :: outer =>
      if e.tag = name then { b with opened := outer }.place (completed e)
      else throw (.xml (.mismatchedEnd e.tag name))

def finish (b : Builder) : Except FilterError Element :=
  match b.opened, b.top with
  | e :: _, _    => throw (.malformed (.unclosed e.tag))
  | [], some top => return top
  | [], none     => throw (.malformed .noElement)

end Builder

-- A document that is being read: where the reader stands, and the elements so far.
structure Reader where
  phase   : Phase := .outside
  builder : Builder := {}

namespace Reader

def deliver (r : Reader) : Option Item → Except FilterError Reader
  | none      => return r
  | some item => do return { r with builder := ← r.builder.take item }

def step (r : Reader) (c : Char) : Except FilterError Reader := do
  let (phase, item) ← (r.phase.step c).mapError .xml
  { r with phase }.deliver item

def finish (r : Reader) : Except FilterError Element := do
  let item ← r.phase.finish.mapError .xml
  (← r.deliver item).builder.finish

end Reader

-- A byte order mark may stand before the document.
def withoutMark : List Char → List Char
  | c :: cs => if c = '\uFEFF' then cs else c :: cs
  | []      => []

-- The top element of a document.
def readDocument (text : List Char) : Except FilterError Element := do
  (← (withoutMark text).foldlM Reader.step {}).finish

end TestSieve.Xml
