import TestSieve.Yaml.Node

namespace TestSieve.Yaml

-- What is left of a text, and where in the text that is.
structure Place where
  rest   : List Char
  column : Nat := 0
  line   : Nat := 0

def isBlank (c : Char) : Bool :=
  c == ' ' || c == '\t'

-- Nothing more stands on the line, or a blank comes next.
def endsWord : List Char → Bool
  | []     => true
  | c :: _ => isBlank c || c == '\n'

namespace Place

def next? (p : Place) : Option Char :=
  p.rest.head?

def step (p : Place) : Place :=
  match p.rest with
  | []           => p
  | '\n' :: rest => { rest, line := p.line + 1 }
  | _ :: rest    => { rest, column := p.column + 1, line := p.line }

theorem rest_step (p : Place) : p.step.rest = p.rest.tail := by
  rw [step]
  split <;> simp_all

theorem length_step_lt {p : Place} {c : Char} {rest : List Char} (h : p.rest = c :: rest) :
    p.step.rest.length < p.rest.length := by
  simp [rest_step, h]

-- The marks that begin and end a document stand at the beginning of a line.
def atMark (p : Place) (mark : Char) : Bool :=
  p.column == 0 && p.rest.take 3 == [mark, mark, mark] && endsWord (p.rest.drop 3)

def atStart (p : Place) : Bool :=
  p.atMark '-'

def atEnd (p : Place) : Bool :=
  p.atMark '.'

-- No node of this document follows.
def isDone (p : Place) : Bool :=
  p.rest.isEmpty || p.atStart || p.atEnd

-- An indicator counts as such if its word is complete.
def atIndicator (p : Place) (indicator : Char) : Bool :=
  p.next? == some indicator && endsWord p.rest.tail

-- Passes over what separates nodes. The result says whether the next node is the first thing on its
-- line, which `fresh` says of the place that the search begins at.
def skip (bracketed fresh comment : Bool) (p : Place) : Bool × Place :=
  match _h : p.rest with
  | []     => (fresh, p)
  | c :: _ =>
    if c = '\n' then skip bracketed true false p.step
    else if comment then skip bracketed fresh true p.step
    else if c = '#' then skip bracketed fresh true p.step
    else if c = ' ' || (c = '\t' && (bracketed || !fresh)) then
      skip bracketed fresh false p.step
    else (fresh, p)
termination_by p.rest.length
decreasing_by all_goals exact length_step_lt _h

-- Passes over the blanks before something on the same line.
def skipBlanks (p : Place) : Place :=
  match _h : p.rest with
  | []     => p
  | c :: _ => if isBlank c then skipBlanks p.step else p
termination_by p.rest.length
decreasing_by exact length_step_lt _h

end Place

end TestSieve.Yaml
