import TestSieve.Digit
import TestSieve.Regex.Tree
import TestSieve.Unicode.Property

namespace TestSieve.Regex

open Unicode (isSpace)

-- What is left to read, whether blanks are skipped, and the group names that are taken. Every reader
-- gives what it has read with what is left then, or nothing if the text is no pattern.
structure Source where
  rest     : List Char
  extended : Bool := false
  names    : List (List Char) := []

namespace Source

-- Blanks and comments at the start of a text; a comment ends with its line.
def dropBlank (inComment : Bool) : List Char → List Char
  | []      => []
  | c :: cs =>
    if inComment then dropBlank (c != '\n') cs
    else if isSpace c then dropBlank false cs
    else if c = '#' then dropBlank true cs
    else c :: cs

def skipBlank (s : Source) : Source :=
  if s.extended then { s with rest := dropBlank false s.rest } else s

-- Passes over the next character and the blanks after it. Something must be left.
def advance? (s : Source) : Option Source :=
  let next := { s with rest := s.rest.tail }.skipBlank
  if next.rest.isEmpty then none else some next

-- The next character and the blanks after it, even at the end.
def advance (s : Source) : Source :=
  { s with rest := s.rest.tail }.skipBlank

-- What follows the next character. A comment hides its mark and its blanks, but no more.
def peekBlank (s : Source) : Option Char :=
  let after := s.rest.tail
  if s.extended then
    match after.dropWhile isSpace with
    | '#' :: comment => (comment.dropWhile isSpace).head?.or after.head?
    | c :: _         => some c
    | []             => after.head?
  else after.head?

end Source

def isMeta (c : Char) : Bool :=
  "\\.+*?()|[]\x7b\x7d^$#&-~".toList.contains c

-- Characters that stand for themselves after a backslash.
def isEscapable (c : Char) : Bool :=
  isMeta c || (c.toNat < 128 && !Digit.isDigit 36 c && c != '<' && c != '>')

-- A fixed number of digits, the first of which is next.
def readHexDigits (s : Source) (code : Nat) : Nat → Option (Nat × Source)
  | 0         => some (code, s)
  | 1         => do return (code * 16 + (← Digit.value? 16 (← s.rest.head?)), s.advance)
  | count + 1 => do
    let value ← Digit.value? 16 (← s.rest.head?)
    readHexDigits (← s.advance?) (code * 16 + value) count

-- Digits up to the closing brace; `count` of them were read.
def readHexBraced (fuel : Nat) (s : Source) (code count : Nat) : Option (Nat × Source) :=
  match fuel with
  | 0        => none
  | fuel + 1 => do
    let s ← s.advance?
    let c ← s.rest.head?
    if c = '\x7d' then if count = 0 then none else return (code, s.advance)
    else readHexBraced fuel s (code * 16 + (← Digit.value? 16 c)) (count + 1)

-- The letter before the digits says how many there are without braces.
def readHex (s : Source) (digits : Nat) : Option (Tree × Source) := do
  let s ← s.advance?
  if s.rest.head? = some '\x7b' then
    let (code, s) ← readHexBraced s.rest.length s 0 0
    return (.literal (← Digit.char? code) false, s)
  else
    let (code, s) ← readHexDigits s 0 digits
    return (.literal (← Digit.char? code) (digits = 2), s)

-- The text up to the closing brace, which is left out.
def readBraced (fuel : Nat) (s : Source) (sofar : List Char) : Option (List Char × Source) :=
  match fuel with
  | 0        => none
  | fuel + 1 => do
    let s ← s.advance?
    let c ← s.rest.head?
    if c = '\x7d' then return (sofar.reverse, { s with rest := s.rest.tail })
    else readBraced fuel s (c :: sofar)

-- Cuts a text at the first place where a mark stands.
def cutAt? (mark : List Char) : List Char → Option (List Char × List Char)
  | []      => none
  | c :: cs =>
    if mark.isPrefixOf (c :: cs) then some ([], (c :: cs).drop mark.length)
    else do
      let (before, after) ← cutAt? mark cs
      return (c :: before, after)

def PropertyQuery.ofText (text : List Char) : PropertyQuery :=
  match cutAt? ['!', '='] text <|> cutAt? [':'] text <|> cutAt? ['='] text with
  | some (property, value) => .byValue (.ofList property) (.ofList value)
  | none                   => .byName (.ofList text)

def readProperty (s : Source) (negated : Bool) : Option (Tree × Source) := do
  let s ← s.advance?
  let c ← s.rest.head?
  if c = '\x7b' then
    let (text, s) ← readBraced s.rest.length s []
    return (.property (.ofText text) negated, s)
  else if c = '\\' then none
  else return (.property (.byName c.toString) negated, s.advance)

def boundaryNamed? : List Char → Option Assertion
  | ['s', 't', 'a', 'r', 't']                          => some .wordStart
  | ['e', 'n', 'd']                                    => some .wordEnd
  | ['s', 't', 'a', 'r', 't', '-', 'h', 'a', 'l', 'f'] => some .wordStartHalf
  | ['e', 'n', 'd', '-', 'h', 'a', 'l', 'f']           => some .wordEndHalf
  | _                                                  => none

def isBoundaryChar (c : Char) : Bool :=
  c = '-' || ('a' ≤ c && c ≤ 'z') || ('A' ≤ c && c ≤ 'Z')

def readBoundaryName (fuel : Nat) (s : Source) (sofar : List Char) : Option (List Char × Source) :=
  match fuel with
  | 0        => none
  | fuel + 1 => do
    let c ← s.rest.head?
    if isBoundaryChar c then readBoundaryName fuel s.advance (c :: sofar)
    else if c = '\x7d' then return (sofar.reverse, { s with rest := s.rest.tail })
    else none

-- A brace after a boundary names a kind of it, unless what it holds cannot be a name.
def readBoundary (s : Source) : Option (Tree × Source) :=
  if s.rest.head? = some '\x7b' then do
    let inner ← s.advance?
    if isBoundaryChar (← inner.rest.head?) then
      let (name, s) ← readBoundaryName inner.rest.length inner []
      return (.assertion (← boundaryNamed? name), s)
    else return (.assertion .wordBoundary, s)
  else some (.assertion .wordBoundary, s)

-- What a backslash starts; the backslash is next.
def readEscape (s : Source) : Option (Tree × Source) := do
  let s := { s with rest := s.rest.tail }
  let c ← s.rest.head?
  let after := { s with rest := s.rest.tail }
  let literal (d : Char) : Option (Tree × Source) := some (.literal d false, after)
  let assertion (a : Assertion) : Option (Tree × Source) := some (.assertion a, after)
  if isEscapable c then literal c else
  match c with
  | 'x' => readHex s 2
  | 'u' => readHex s 4
  | 'U' => readHex s 8
  | 'p' => readProperty s false
  | 'P' => readProperty s true
  | 'd' => return (.short .digit false, after)
  | 'D' => return (.short .digit true, after)
  | 's' => return (.short .space false, after)
  | 'S' => return (.short .space true, after)
  | 'w' => return (.short .word false, after)
  | 'W' => return (.short .word true, after)
  | 'a' => literal '\x07'
  | 'f' => literal '\x0C'
  | 't' => literal '\t'
  | 'n' => literal '\n'
  | 'r' => literal '\r'
  | 'v' => literal '\x0B'
  | 'A' => assertion .textStart
  | 'z' => assertion .textEnd
  | 'B' => assertion .noWordBoundary
  | '<' => assertion .wordStart
  | '>' => assertion .wordEnd
  | 'b' => readBoundary after
  | _   => none

def posixNamed? (name : List Char) : Option PosixClass :=
  match String.ofList name with
  | "alnum"  => some .alnum
  | "alpha"  => some .alpha
  | "ascii"  => some .ascii
  | "blank"  => some .blank
  | "cntrl"  => some .cntrl
  | "digit"  => some .digit
  | "graph"  => some .graph
  | "lower"  => some .lower
  | "print"  => some .print
  | "punct"  => some .punct
  | "space"  => some .space
  | "upper"  => some .upper
  | "word"   => some .word
  | "xdigit" => some .xdigit
  | _        => none

-- A class named between colons. If it is anything else, a bracket is just a bracket.
def readPosix (s : Source) : Option (SetTree × Source) :=
  match s.rest with
  | '[' :: ':' :: text =>
    let (negated, text) := match text with
      | '^' :: cs => (true, cs)
      | cs        => (false, cs)
    match text.dropWhile (· != ':') with
    | ':' :: ']' :: rest => do
      return (.posix (← posixNamed? (text.takeWhile (· != ':'))) negated, { s with rest })
    | _                  => none
  | _ => none

-- One member of a set: an escape, or a character as it is.
def readMember (s : Source) : Option (Tree × Source) :=
  match s.rest with
  | []      => none
  | c :: cs => if c = '\\' then readEscape s else some (.literal c false, { s with rest := cs })

def Tree.asMember? : Tree → Option SetTree
  | literal c _        => some (.literal c)
  | short k negated    => some (.short k negated)
  | property q negated => some (.property q negated)
  | _                  => none

def Tree.asChar? : Tree → Option Char
  | literal c _ => some c
  | _           => none

-- A member or a range of two. A hyphen before the end of the set or another one makes no range.
def readRange (s : Source) : Option (SetTree × Source) := do
  let (first, s) ← readMember s
  let s := s.skipBlank
  let c ← s.rest.head?
  let next := s.peekBlank
  if c != '-' || next = some ']' || next = some '-' then return (← first.asMember?, s)
  else do
    let (last, s) ← readMember (← s.advance?)
    let first ← first.asChar?
    let last ← last.asChar?
    if first ≤ last then return (.range first last, s) else none

-- Hyphens at the start of a set stand for themselves.
def readHyphens (fuel : Nat) (s : Source) (items : List SetTree) : Option (List SetTree × Source) :=
  match fuel with
  | 0        => none
  | fuel + 1 => do
    if s.rest.head? = some '-' then readHyphens fuel (← s.advance?) (.literal '-' :: items)
    else return (items, s)

-- The start of a set: its bracket, its negation, and the members that only its start allows.
def readSetStart (s : Source) : Option ((Bool × List SetTree) × Source) := do
  let s ← s.advance?
  let negated := s.rest.head? = some '^'
  let s ← if negated then s.advance? else some s
  let (items, s) ← readHyphens (s.rest.length + 1) s []
  if items.isEmpty && s.rest.head? = some ']' then
    return ((negated, [.literal ']']), ← s.advance?)
  else return ((negated, items), s)

-- An operation that waits for its right side takes the items since then.
def closeOperand (pending? : Option (SetOperation × SetTree)) (items : List SetTree) : SetTree :=
  let right := SetTree.ofItems items.reverse
  match pending? with
  | none            => right
  | some (op, left) => .operation op left right

-- The rest of a set up to its closing bracket, which is passed over. Items are collected last one
-- first; operations all bind alike and group to the left.
def readSet (fuel : Nat) (pending? : Option (SetOperation × SetTree)) (items : List SetTree)
    (s : Source) : Option (SetTree × Source) :=
  match fuel with
  | 0        => none
  | fuel + 1 =>
    let s := s.skipBlank
    let operate (op : SetOperation) (rest : List Char) :=
      readSet fuel (some (op, closeOperand pending? items)) [] { s with rest }
    match s.rest with
    | []                 => none
    | ']' :: rest        => some (closeOperand pending? items, { s with rest })
    | '&' :: '&' :: rest => operate .intersection rest
    | '-' :: '-' :: rest => operate .difference rest
    | '~' :: '~' :: rest => operate .symmetricDifference rest
    | '[' :: _           =>
      match readPosix s with
      | some (item, s) => readSet fuel pending? (item :: items) s
      | none           => do
        let ((negated, start), s) ← readSetStart s
        let (content, s) ← readSet fuel none start s
        readSet fuel pending? (.bracket negated content :: items) s
    | _                  => do
      let (item, s) ← readRange s
      readSet fuel pending? (item :: items) s

def readBracket (s : Source) : Option (Tree × Source) := do
  let ((negated, start), s) ← readSetStart s
  let (content, s) ← readSet (s.rest.length + 1) none start s
  return (.bracket negated content, s)

def flagNamed? : Char → Option Flag
  | 'i' => some .ignoreCase
  | 'm' => some .multiLine
  | 's' => some .dotAll
  | 'U' => some .swapGreed
  | 'u' => some .unicode
  | 'R' => some .crlf
  | 'x' => some .extended
  | _   => none

-- Flags up to a colon or a closing parenthesis. Each comes once, and a hyphen needs one after it.
def readFlags (change : FlagChange) (taking : Bool) (afterHyphen : Bool) :
    List Char → Option (FlagChange × List Char)
  | []        => none
  | c :: rest =>
    if c = ':' || c = ')' then if afterHyphen then none else some (change, c :: rest)
    else if c = '-' then if taking then none else readFlags change true true rest
    else do
      let flag ← flagNamed? c
      if change.on.contains flag || change.off.contains flag then none
      else if taking then readFlags { change with off := change.off ++ [flag] } true false rest
      else readFlags { change with on := change.on ++ [flag] } false false rest

def isNameStart (c : Char) : Bool :=
  c = '_' || Unicode.Property.alphabetic.contains c

def isNameChar (c : Char) : Bool :=
  isNameStart c || c = '.' || c = '[' || c = ']' || Unicode.Category.number.contains c

-- A group name up to its closing angle bracket. No two groups share a name.
def readGroupName (s : Source) : Option Source :=
  let name := s.rest.takeWhile (· != '>')
  match s.rest.dropWhile (· != '>') with
  | []        => none
  | _ :: rest =>
    match name with
    | []      => none
    | c :: cs =>
      if isNameStart c && cs.all isNameChar && !s.names.contains name then
        some { s with rest, names := name :: s.names }
      else none

-- What a parenthesis opens: a change of flags for the rest of the group around it, or a group.
inductive Opening
  | flags (change : FlagChange)
  | group (change : FlagChange)

def readOpening (s : Source) : Option (Opening × Source) :=
  let s := s.advance
  match s.rest with
  | '?' :: '=' :: _               => none
  | '?' :: '!' :: _               => none
  | '?' :: '<' :: '=' :: _        => none
  | '?' :: '<' :: '!' :: _        => none
  | '?' :: 'P' :: '<' :: rest     => do return (.group {}, ← readGroupName { s with rest })
  | '?' :: '<' :: rest            => do return (.group {}, ← readGroupName { s with rest })
  | '?' :: rest                   => do
    let (change, rest) ← readFlags {} false false rest
    match rest with
    | ')' :: rest =>
      if change.on.isEmpty && change.off.isEmpty then none
      else return (.flags change, { s with rest })
    | _           => return (.group change, { s with rest := rest.tail })
  | _                             => some (.group {}, s)

-- The operand of a repetition is the last part. Flags cannot be repeated.
def repeatLast (min : Nat) (max? : Option Nat) : List Tree → Option (List Tree)
  | []             => none
  | .empty :: _    => none
  | .flags _ :: _  => none
  | part :: parts  => some (.repetition min max? part :: parts)

-- A question mark after a repetition changes which match is preferred, not whether there is one.
def skipLazy (s : Source) : Source :=
  match s.rest with
  | '?' :: rest => { s with rest }
  | _           => s

def readDigits (fuel : Nat) (s : Source) (sofar : List Char) : List Char × Source :=
  match fuel with
  | 0        => (sofar.reverse, s)
  | fuel + 1 =>
    match s.rest.head? with
    | none   => (sofar.reverse, s)
    | some c =>
      if Digit.isDigit 10 c then readDigits fuel s.advance (c :: sofar) else (sofar.reverse, s)

def dropSpaces (s : Source) : Source :=
  { s with rest := s.rest.dropWhile isSpace }.skipBlank

def maxCount : Nat := 0xFFFFFFFF

-- A number with blanks around it, which count for nothing in any mode.
def readCount (s : Source) : Option (Nat × Source) :=
  let s := { s with rest := s.rest.dropWhile isSpace }
  let (digits, s) := readDigits s.rest.length s []
  let s := if (s.rest.head?.map isSpace).getD false then dropSpaces s else s
  let value := Digit.number 10 digits
  if digits.isEmpty || value > maxCount then none else some (value, s)

-- The bound after a comma; without one there is no bound.
def readMaximum (s : Source) : Option (Option Nat × Source) := do
  let s ← s.advance?
  if s.rest.head? = some '\x7d' then return (none, s)
  else
    let (max, s) ← readCount s
    return (some max, s)

def readRepetition (parts : List Tree) (s : Source) : Option ((List Tree) × Source) := do
  let (min, s) ← readCount (← s.advance?)
  let (max?, s) ← if s.rest.head? = some ',' then readMaximum s else some (some min, s)
  if s.rest.head? != some '\x7d' then none
  else if max?.any (· < min) then none
  else return (← repeatLast min max? parts, skipLazy s.advance)

def readPrimitive (s : Source) : Option (Tree × Source) :=
  match s.rest with
  | []         => none
  | '\\' :: _  => readEscape s
  | '.' :: cs  => some (.dot, { s with rest := cs })
  | '^' :: cs  => some (.assertion .lineStart, { s with rest := cs })
  | '$' :: cs  => some (.assertion .lineEnd, { s with rest := cs })
  | c :: cs    => some (.literal c false, { s with rest := cs })

-- The branches of a group up to its closing parenthesis or the end of the pattern, neither of which
-- is passed over. Branches and parts are collected last one first.
def readBranches (fuel : Nat) (branches parts : List Tree) (s : Source) : Option (Tree × Source) :=
  match fuel with
  | 0        => none
  | fuel + 1 =>
    let s := s.skipBlank
    let branch := Tree.ofParts parts.reverse
    let repeated (min : Nat) (max? : Option Nat) (rest : List Char) : Option (Tree × Source) := do
      readBranches fuel branches (← repeatLast min max? parts) (skipLazy { s with rest })
    match s.rest with
    | []          => some (.ofBranches (branch :: branches).reverse, s)
    | ')' :: _    => some (.ofBranches (branch :: branches).reverse, s)
    | '|' :: rest => readBranches fuel (branch :: branches) [] { s with rest }
    | '?' :: rest => repeated 0 (some 1) rest
    | '*' :: rest => repeated 0 none rest
    | '+' :: rest => repeated 1 none rest
    | '\x7b' :: _ => do
      let (parts, s) ← readRepetition parts s
      readBranches fuel branches parts s
    | '[' :: _    => do
      let (set, s) ← readBracket s
      readBranches fuel branches (set :: parts) s
    | '(' :: _    => do
      let (opening, inner) ← readOpening s
      match opening with
      | .flags change =>
        let extended := change.apply .extended inner.extended
        readBranches fuel branches (.flags change :: parts) { inner with extended }
      | .group change =>
        let extended := change.apply .extended inner.extended
        let (body, last) ← readBranches fuel [] [] { inner with extended }
        match last.rest with
        | ')' :: rest =>
          let next := { last with rest, extended := s.extended }
          readBranches fuel branches (.group change body :: parts) next
        | _           => none
    | _           => do
      let (part, s) ← readPrimitive s
      readBranches fuel branches (part :: parts) s

-- The tree of a pattern, if it is one that is accepted.
def Tree.ofPattern? (pattern : List Char) : Option Tree := do
  let (tree, left) ← readBranches (pattern.length + 1) [] [] { rest := pattern }
  if left.rest.isEmpty && tree.depth ≤ maxNesting then return tree else none

end TestSieve.Regex
