import TestSieve.Regex
import TestSieve.Regex.Parser
import TestSieve.Regex.Program
import TestSieve.Unicode.Folding
import TestSieve.Unicode.Segmentation
import TestSieve.Unicode.Age

namespace TestSieve.Regex

open Unicode (CharSet NamedSet)

-- Flags hold from where they are set to the end of the group around them. Without the Unicode flag
-- a pattern speaks of bytes; since texts are never cut inside a character, it must then not match a
-- byte beyond ASCII by itself.
structure Flags where
  ignoreCase : Bool := false
  multiLine  : Bool := false
  dotAll     : Bool := false
  unicode    : Bool := true
  crlf       : Bool := false

def Flags.change (f : Flags) (change : FlagChange) : Flags where
  ignoreCase := change.apply .ignoreCase f.ignoreCase
  multiLine  := change.apply .multiLine f.multiLine
  dotAll     := change.apply .dotAll f.dotAll
  unicode    := change.apply .unicode f.unicode
  crlf       := change.apply .crlf f.crlf

namespace PosixClass

def set : PosixClass → CharSet
  | alnum  => .ofRanges (.ofText "30-39 41-5A 61-7A")
  | alpha  => .ofRanges (.ofText "41-5A 61-7A")
  | ascii  => .ofRanges (.ofText "0-7F")
  | blank  => .ofRanges (.ofText "9 20")
  | cntrl  => .ofRanges (.ofText "0-1F 7F")
  | digit  => .ofRanges (.ofText "30-39")
  | graph  => .ofRanges (.ofText "21-7E")
  | lower  => .ofRanges (.ofText "61-7A")
  | print  => .ofRanges (.ofText "20-7E")
  | punct  => .ofRanges (.ofText "21-2F 3A-40 5B-60 7B-7E")
  | space  => .ofRanges (.ofText "9-D 20")
  | upper  => .ofRanges (.ofText "41-5A")
  | word   => .ofRanges (.ofText "30-39 41-5A 5F 61-7A")
  | xdigit => .ofRanges (.ofText "30-39 41-46 61-66")

end PosixClass

-- The letters, digits and the like that words are made of.
def wordChars : CharSet :=
  Unicode.Property.alphabetic ∪ Unicode.Category.mark ∪ Unicode.Category.decimalNumber ∪
    Unicode.Category.connectorPunctuation ∪ .ofRanges (.ofText "200C-200D")

namespace ShortClass

def set (unicode : Bool) : ShortClass → CharSet
  | digit => if unicode then Unicode.Category.decimalNumber else PosixClass.digit.set
  | space => if unicode then { contains := Unicode.isSpace } else PosixClass.space.set
  | word  => if unicode then wordChars else PosixClass.word.set

end ShortClass

namespace PropertyQuery

-- These go by the names of categories too.
def wideSets : List NamedSet := [
  ⟨"Any", .all⟩,
  ⟨"Assigned", Unicode.Category.unassigned.complement⟩,
  .ofText "ASCII" "0-7F"
]

def category? (name : String) : Option CharSet :=
  NamedSet.find? (wideSets ++ Unicode.Category.named) name

-- A name alone is that of a property, a category or a script, in this order; three short names of
-- categories are also short for properties that are no sets, and stand for the category.
def set? : PropertyQuery → Option CharSet
  | byName name =>
    NamedSet.find? Unicode.Property.named name <|> category? name <|>
      NamedSet.find? Unicode.Script.named name
  | byValue property value =>
    match Unicode.looseName property with
    | "gc" | "generalcategory"        => category? value
    | "sc" | "script"                 => NamedSet.find? Unicode.Script.named value
    | "scx" | "scriptextensions"      => NamedSet.find? Unicode.Script.namedExtensions value
    | "age"                           => Unicode.Age.known? value
    | "gcb" | "graphemeclusterbreak"  =>
      NamedSet.find? Unicode.Segmentation.graphemeRoles value
    | "wb" | "wordbreak"              => NamedSet.find? Unicode.Segmentation.wordRoles value
    | "sb" | "sentencebreak"          => NamedSet.find? Unicode.Segmentation.sentenceRoles value
    | _                               => none

end PropertyQuery

def otherCaseAscii (c : Char) : Char :=
  if 'a' ≤ c ∧ c ≤ 'z' then Char.ofNat (c.toNat - 32)
  else if 'A' ≤ c ∧ c ≤ 'Z' then Char.ofNat (c.toNat + 32)
  else c

namespace Flags

-- With case ignored a set grows by all variants of its characters.
def fold (f : Flags) (s : CharSet) : CharSet :=
  if f.ignoreCase then
    if f.unicode then { contains := fun c => (Unicode.Folding.variants c).any s.contains }
    else { contains := fun c => s.contains c || s.contains (otherCaseAscii c) }
  else s

-- Among bytes the complement of a set always has members beyond ASCII.
def negate? (f : Flags) (negated : Bool) (s : CharSet) : Option CharSet :=
  if negated then if f.unicode then some s.complement else none else some s

def short? (f : Flags) (k : ShortClass) (negated : Bool) : Option CharSet :=
  f.negate? negated (k.set f.unicode)

def property? (f : Flags) (q : PropertyQuery) (negated : Bool) : Option CharSet := do
  if f.unicode then f.negate? negated (f.fold (← q.set?)) else none

end Flags

namespace SetOperation

def apply : SetOperation → CharSet → CharSet → CharSet
  | intersection,        s, t => s ∩ t
  | difference,          s, t => s \ t
  | symmetricDifference, s, t => s.symmetricDifference t

end SetOperation

mutual

-- The characters of a set; case is ignored before a set is negated.
def SetTree.set? (f : Flags) : SetTree → Option CharSet
  | .literal c                => if f.unicode || c.toNat < 128 then some (.singleton c) else none
  | .range first last         =>
    if f.unicode || last.toNat < 128 then some (.range first last) else none
  | .posix p negated          => f.negate? negated (f.fold p.set)
  | .short k negated          => f.short? k negated
  | .property q negated       => f.property? q negated
  | .bracket negated content  => do f.negate? negated (f.fold (← content.set? f))
  | .union items              => SetTree.unionAll? f items
  | .operation op left right  => do
    return op.apply (f.fold (← left.set? f)) (f.fold (← right.set? f))

def SetTree.unionAll? (f : Flags) : List SetTree → Option CharSet
  | []            => some ∅
  | item :: items => do return (← item.set? f) ∪ (← SetTree.unionAll? f items)

end

namespace Flags

-- The set of a literal. Bytes beyond ASCII are no characters.
def literal? (f : Flags) (c : Char) (asByte : Bool) : Option CharSet :=
  if !f.unicode && asByte && 128 ≤ c.toNat then none else some (f.fold (.singleton c))

def dot? (f : Flags) : Option CharSet :=
  if !f.unicode then none
  else if f.dotAll then some .all
  else if f.crlf then some (CharSet.ofList ['\r', '\n']).complement
  else some (CharSet.singleton '\n').complement

def look (f : Flags) (a : Assertion) : Look :=
  let word := ShortClass.word.set f.unicode
  match a with
  | .lineStart      =>
    if f.multiLine then if f.crlf then .crlfStart else .lineStart else .textStart
  | .lineEnd        => if f.multiLine then if f.crlf then .crlfEnd else .lineEnd else .textEnd
  | .textStart      => .textStart
  | .textEnd        => .textEnd
  | .wordBoundary   => .boundary word
  | .noWordBoundary => .noBoundary word
  | .wordStart      => .wordStart word
  | .wordEnd        => .wordEnd word
  | .wordStartHalf  => .wordStartHalf word
  | .wordEndHalf    => .wordEndHalf word

end Flags

-- A program with the flags that hold after it.
abbrev Meaning := Program × Flags

mutual

-- The program of a pattern under the flags that hold before it.
def Tree.meaning? (f : Flags) : Tree → Option Meaning
  | .empty                    => some (.empty, f)
  | .flags change             => some (.empty, f.change change)
  | .literal c asByte         => do return (.ofSet (← f.literal? c asByte), f)
  | .dot                      => do return (.ofSet (← f.dot?), f)
  | .assertion a              => some (.look (f.look a), f)
  | .short k negated          => do return (.ofSet (← f.short? k negated), f)
  | .property q negated       => do return (.ofSet (← f.property? q negated), f)
  | .bracket negated content  => do
    return (.ofSet (← f.negate? negated (f.fold (← content.set? f))), f)
  | .repetition min max? body => do
    let (program, f) ← body.meaning? f
    return (.between min max? program, f)
  | .group change body        => do
    let (program, _) ← body.meaning? (f.change change)
    return (program, f)
  | .alternation branches     => Tree.anyOf? f branches
  | .concat parts             => Tree.allOf? f parts

def Tree.anyOf? (f : Flags) : List Tree → Option Meaning
  | []      => some (.ofSet ∅, f)
  | [tree]  => tree.meaning? f
  | tree :: trees => do
    let (first, f) ← tree.meaning? f
    let (others, f) ← Tree.anyOf? f trees
    return (.alt first others, f)

def Tree.allOf? (f : Flags) : List Tree → Option Meaning
  | []      => some (.empty, f)
  | [tree]  => tree.meaning? f
  | tree :: trees => do
    let (first, f) ← tree.meaning? f
    let (others, f) ← Tree.allOf? f trees
    return (.seq first others, f)

end

-- The engine judges a pattern by its form alone. How large a pattern grows when its repetitions are
-- written out is not looked at.
instance : Engine where
  ofPattern? pattern := do
    let tree ← Tree.ofPattern? pattern.toList
    let (program, _) ← tree.meaning? {}
    return { isMatch := fun text => program.search none text.toList }

end TestSieve.Regex
