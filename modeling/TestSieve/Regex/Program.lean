import TestSieve.Unicode.CharSet

namespace TestSieve.Regex

open Unicode (CharSet)

-- The characters before and after a place in a text.
structure Place where
  before : Option Char
  after  : Option Char

-- A question about a place.
inductive Look
  | textStart
  | textEnd
  | lineStart
  | lineEnd
  | crlfStart
  | crlfEnd
  | boundary (word : CharSet)
  | noBoundary (word : CharSet)
  | wordStart (word : CharSet)
  | wordEnd (word : CharSet)
  | wordStartHalf (word : CharSet)
  | wordEndHalf (word : CharSet)

namespace Look

private def isWord (word : CharSet) (c? : Option Char) : Bool :=
  c?.any word.contains

-- A line break of two characters is never cut in two.
def holds (p : Place) : Look → Bool
  | textStart          => p.before.isNone
  | textEnd            => p.after.isNone
  | lineStart          => p.before.isNone || p.before == some '\n'
  | lineEnd            => p.after.isNone || p.after == some '\n'
  | crlfStart          =>
    p.before.isNone || p.before == some '\n' || (p.before == some '\r' && p.after != some '\n')
  | crlfEnd            =>
    p.after.isNone || p.after == some '\r' || (p.after == some '\n' && p.before != some '\r')
  | boundary word      => isWord word p.before != isWord word p.after
  | noBoundary word    => isWord word p.before == isWord word p.after
  | wordStart word     => !isWord word p.before && isWord word p.after
  | wordEnd word       => isWord word p.before && !isWord word p.after
  | wordStartHalf word => !isWord word p.before
  | wordEndHalf word   => !isWord word p.after

end Look

-- A regular expression whose characters can be marked: a mark says that a way through the
-- expression has just taken that character. One step moves all marks at once, so a search takes as
-- many steps as the text has characters, whatever the expression.
inductive Program
  | empty
  | char (set : CharSet) (marked : Bool)
  | look (l : Look)
  | seq (first second : Program)
  | alt (left right : Program)
  | star (body : Program)

namespace Program

def ofSet (set : CharSet) : Program :=
  char set false

def optional (body : Program) : Program :=
  alt empty body

-- A number of copies in a row. They are halved again and again to keep the program shallow.
def copies (body : Program) (count : Nat) : Program :=
  match count with
  | 0     => empty
  | 1     => body
  | n + 2 =>
    let half := (n + 2) / 2
    seq (copies body half) (copies body (n + 2 - half))
termination_by count

def between (min : Nat) (max? : Option Nat) (body : Program) : Program :=
  match max? with
  | none     => seq (copies body min) (star body)
  | some max => seq (copies body min) (copies (optional body) (max - min))

-- Whether the program can pass a place without taking a character.
def passes (p : Place) : Program → Bool
  | empty      => true
  | char _ _   => false
  | look l     => l.holds p
  | seq a b    => a.passes p && b.passes p
  | alt a b    => a.passes p || b.passes p
  | star _     => true

-- Whether a way through the program that has taken characters ends at a place.
def ends (p : Place) : Program → Bool
  | empty         => false
  | char _ marked => marked
  | look _        => false
  | seq a b       => b.ends p || (a.ends p && b.passes p)
  | alt a b       => a.ends p || b.ends p
  | star a        => a.ends p

-- A program after a step, with its answers about the place before the step.
structure Stepped where
  program : Program
  ended   : Bool
  passed  : Bool

-- Takes the character `c` after the place `p`. A new way through the program starts at that place
-- if `enter` is set; the others go on from their marks.
def step (p : Place) (c : Char) (enter : Bool) : Program → Stepped
  | empty           => ⟨empty, false, true⟩
  | char set marked => ⟨char set (enter && set.contains c), marked, false⟩
  | look l          => ⟨look l, false, l.holds p⟩
  | seq a b         =>
    let first := a.step p c enter
    let second := b.step p c (first.ended || (enter && first.passed))
    ⟨seq first.program second.program, second.ended || (first.ended && second.passed),
      first.passed && second.passed⟩
  | alt a b         =>
    let left := a.step p c enter
    let right := b.step p c enter
    ⟨alt left.program right.program, left.ended || right.ended, left.passed || right.passed⟩
  | star a          =>
    let body := a.step p c (enter || a.ends p)
    ⟨star body.program, body.ended, true⟩

-- Whether a way through the program ends somewhere in a text; it may start at any place.
def search (program : Program) (before : Option Char) : List Char → Bool
  | []      =>
    let p : Place := ⟨before, none⟩
    program.ends p || program.passes p
  | c :: cs =>
    let next := program.step ⟨before, some c⟩ c true
    next.ended || next.passed || search next.program (some c) cs

end Program

end TestSieve.Regex
