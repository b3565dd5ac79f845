import TestSieve.Yaml.Place

namespace TestSieve.Yaml

-- What was passed over since the last character of a scalar; blanks are kept last one first.
inductive Gap
  | blanks (sofar : List Char)
  | lines (kept : Nat)
  | joined (kept : Nat)

namespace Gap

def none : Gap :=
  blanks []

def isNone : Gap → Bool
  | blanks [] => true
  | _         => false

def isBroken : Gap → Bool
  | blanks _ => false
  | _        => true

def addBlank (c : Char) : Gap → Gap
  | blanks sofar => blanks (c :: sofar)
  | g            => g

def addLine : Gap → Gap
  | blanks _    => lines 0
  | lines kept  => lines (kept + 1)
  | joined kept => joined (kept + 1)

-- The text that a gap stands for, last character first.
def reversed : Gap → List Char
  | blanks sofar => sofar
  | lines 0      => [' ']
  | lines kept   => List.replicate kept '\n'
  | joined kept  => List.replicate kept '\n'

end Gap

-- Characters that end a word between brackets.
def isBracketed (c : Char) : Bool :=
  [',', '[', ']', '\x7b', '\x7d'].contains c

namespace Plain

def isIndicator (c : Char) : Bool :=
  isBracketed c ||
    ['-', '?', ':', '#', '&', '*', '!', '|', '>', '\'', '"', '%', '@', '\x60'].contains c

-- A plain scalar begins here: with no indicator, or with one that its word makes harmless.
def startsWith (bracketed : Bool) : List Char → Bool
  | []        => false
  | c :: rest =>
    if isIndicator c then
      (c == '-' || (!bracketed && (c == '?' || c == ':'))) && !endsWord rest
    else c != ' ' && c != '\t' && c != '\n'

-- Reads a plain scalar, whose lines after the first stand at column `least` or further right unless
-- there are brackets around it.
def read (bracketed : Bool) (least : Nat) (sofar : List Char) (gap : Gap) (p : Place) :
    Option (String × Place) :=
  let done := some (String.ofList sofar.reverse, p)
  match _h : p.rest with
  | []        => done
  | c :: rest =>
    if c = '\n' then read bracketed least sofar gap.addLine p.step
    else if isBlank c then
      if c = '\t' && gap.isBroken && p.column < least then none
      else read bracketed least sofar (gap.addBlank c) p.step
    else if p.isDone || (gap.isBroken && !bracketed && p.column < least) then done
    else if c = '#' && !gap.isNone then done
    else if c = ':' && endsWord rest then done
    else if bracketed && c = ':' && rest.head?.any fun d => isBracketed d || d == '?' then none
    else if bracketed && isBracketed c then done
    else read bracketed least (c :: (gap.reversed ++ sofar)) .none p.step
termination_by p.rest.length
decreasing_by all_goals exact Place.length_step_lt _h

end Plain

namespace Quoted

-- Escapes of one character.
def simpleEscapes : List (Char × Char) := [
  ('0', '\x00'), ('a', '\x07'), ('b', '\x08'), ('t', '\t'), ('\t', '\t'), ('n', '\n'),
  ('v', '\x0b'), ('f', '\x0c'), ('r', '\r'), ('e', '\x1b'), (' ', ' '), ('"', '"'),
  ('\'', '\''), ('/', '/'), ('\\', '\\'), ('N', '\u0085'), ('_', '\u00a0'), ('L', '\u2028'),
  ('P', '\u2029')
]

-- How many hexadecimal digits follow the letter of an escape.
def digitCounts : List (Char × Nat) := [('x', 2), ('u', 4), ('U', 8)]

def charOfDigits? (count : Nat) (text : List Char) : Option Char :=
  let digits := text.take count
  if digits.length = count && digits.all (Digit.isDigit 16) then
    Digit.char? (Digit.number 16 digits)
  else none

-- The character that an escape stands for, and how much of the text after it belongs to it.
def escape? (c : Char) (rest : List Char) : Option (Char × Nat) :=
  match simpleEscapes.lookup c, digitCounts.lookup c with
  | some d, _          => some (d, 0)
  | none,   some count => (charOfDigits? count rest).map (·, count)
  | none,   none       => none

-- How a quote is being read.
inductive Phase
  | text
  | afterBackslash
  | afterQuote
  | escaped (left : Nat)

-- Reads up to the closing quote, of which two count as one character between single quotes.
def read (quote : Char) (phase : Phase) (sofar : List Char) (gap : Gap) (p : Place) :
    Option (String × Place) :=
  match _h : p.rest with
  | []        =>
    match phase with
    | .afterQuote => some (.ofList (gap.reversed ++ sofar).reverse, p)
    | _           => none
  | c :: rest =>
    match phase with
    | .afterQuote =>
      if c = quote && quote = '\'' then
        read quote .text (c :: (gap.reversed ++ sofar)) .none p.step
      else some (.ofList (gap.reversed ++ sofar).reverse, p)
    | .escaped (left + 1) => read quote (.escaped left) sofar gap p.step
    | .afterBackslash =>
      if c = '\n' then read quote .text (gap.reversed ++ sofar) (.joined 0) p.step
      else match escape? c rest with
        | none            => none
        | some (d, count) =>
          read quote (.escaped count) (d :: (gap.reversed ++ sofar)) .none p.step
    | .text | .escaped 0 =>
      if p.atStart || p.atEnd then none
      else if c = '\n' then read quote .text sofar gap.addLine p.step
      else if isBlank c then read quote .text sofar (gap.addBlank c) p.step
      else if c = quote then read quote .afterQuote sofar gap p.step
      else if c = '\\' && quote = '"' then read quote .afterBackslash sofar gap p.step
      else read quote .text (c :: (gap.reversed ++ sofar)) .none p.step
termination_by p.rest.length
decreasing_by all_goals exact Place.length_step_lt _h

end Quoted

end TestSieve.Yaml
