import TestSieve.Yaml.Scalar

namespace TestSieve.Yaml

abbrev Reader := StateT Place Option

namespace Reader

def advance : Reader Unit :=
  modify Place.step

-- Reads on if the next character is this one.
def expect (c : Char) : Reader Unit := do
  if (← get).next? = some c then advance else failure

def skip (bracketed fresh : Bool) : Reader Bool := do
  let (fresh, p) := (← get).skip bracketed fresh false
  set p
  return fresh

def skipBlanks : Reader Unit :=
  modify Place.skipBlanks

def isTagChar (c : Char) : Bool :=
  c.isAlphanum || (";/?:@&=+$.!~*'()%-_".toList.contains c)

-- A tag ends with its word, or at a comma between brackets.
def tag? (bracketed : Bool) : Reader (Option String) := do
  let p ← get
  if p.next? ≠ some '!' then return none
  let tag := p.rest.tail.takeWhile isTagChar
  let rest := p.rest.tail.dropWhile isTagChar
  if endsWord rest || (bracketed && rest.head? = some ',') then
    set { p with rest, column := p.column + 1 + tag.length }
    skipBlanks
    return some (.ofList tag)
  else failure

def withTag : Option String → Node → Node
  | none     => id
  | some tag => .tagged tag

def plain (bracketed : Bool) (least : Nat) : Reader Node := fun p =>
  (Plain.read bracketed least [] .none p).map fun (text, p) => (.scalar .plain text, p)

def quoted (quote : Char) : Reader Node := fun p =>
  (Quoted.read quote .text [] .none p.step).map fun (text, p) => (.scalar .quoted text, p)

-- Nothing is written where the text goes on with what follows a node between brackets.
def isBracketEnd (p : Place) : Bool :=
  [some ',', some ']', some '\x7d'].contains p.next?

mutual

-- Reads a node that is more than a tag.
def content (bracketed : Bool) (least : Nat) : Nat → Reader Node
  | 0        => failure
  | fuel + 1 => do
    let p ← get
    match p.next? with
    | some '['    => do advance; items least [] fuel
    | some '\x7b' => do advance; entries least [] fuel
    | some '"'    => quoted '"'
    | some '\''   => quoted '\''
    | _           => if Plain.startsWith bracketed p.rest then plain bracketed least else failure

-- Reads a node between brackets.
def bracketedNode (least : Nat) : Nat → Reader Node
  | 0        => failure
  | fuel + 1 => do
    let tag? ← tag? true
    let _ ← skip true false
    if tag?.isSome && isBracketEnd (← get) then return withTag tag? .empty
    else return withTag tag? (← content true least fuel)

-- Reads what follows the colon after a key between brackets.
def bracketedValue (least : Nat) : Nat → Reader Node
  | 0        => failure
  | fuel + 1 => do
    advance
    let _ ← skip true false
    if isBracketEnd (← get) then return .empty
    else bracketedNode least fuel

-- Reads the rest of a sequence between brackets, in which an item may be a lone entry.
def items (least : Nat) (sofar : List Node) : Nat → Reader Node
  | 0        => failure
  | fuel + 1 => do
    let _ ← skip true false
    let start ← get
    if start.next? = some ']' then
      advance
      return .sequence sofar.reverse
    let node ← bracketedNode least fuel
    let _ ← skip true false
    let p ← get
    let node ←
      if p.next? = some ':' && p.line = start.line then do
        let value ← bracketedValue least fuel
        let _ ← skip true false
        pure (Node.mapping [(node, value)])
      else pure node
    if (← get).next? ≠ some ']' then expect ','
    items least (node :: sofar) fuel

-- Reads the rest of a mapping between brackets, in which a key may lack a value.
def entries (least : Nat) (sofar : List (Node × Node)) : Nat → Reader Node
  | 0        => failure
  | fuel + 1 => do
    let _ ← skip true false
    let start ← get
    if start.next? = some '\x7d' then
      advance
      return .mapping sofar.reverse
    let key ← bracketedNode least fuel
    let _ ← skip true false
    let p ← get
    let value ←
      if p.next? = some ':' && p.line = start.line then do
        let value ← bracketedValue least fuel
        let _ ← skip true false
        pure value
      else pure .empty
    if (← get).next? ≠ some '\x7d' then expect ','
    entries least ((key, value) :: sofar) fuel

end

-- A node that is written on one line from here on and is a key there.
def key (least fuel : Nat) : Reader Node := do
  let start ← get
  let tag? ← tag? false
  let node ← content false least fuel
  skipBlanks
  let p ← get
  if p.line = start.line && p.atIndicator ':' then
    advance
    return withTag tag? node
  else failure

-- Only a tag was written on this line so far.
def isLineOver (p : Place) : Bool :=
  p.rest.isEmpty || p.next? = some '\n' || p.next? = some '#'

mutual

-- Reads a node that stands at column `least` or further right. A sequence may also stand in the
-- column of the key that it is the value of, which `underKey` allows; and a collection begins on a
-- fresh line.
def node (least : Nat) (underKey fresh : Bool) : Nat → Reader Node
  | 0        => failure
  | fuel + 1 => do
    let fresh ← skip false fresh
    let start ← get
    if start.isDone then return .empty
    else if start.atIndicator '-' then
      if !fresh then failure
      else if least ≤ start.column then dashes start.column false [] fuel
      else if underKey && start.column + 1 = least then dashes start.column true [] fuel
      else return .empty
    else if start.column < least then return .empty
    else
      let tag? ← tag? false
      if tag?.isSome && isLineOver (← get) then
        match ← node least underKey false fuel with
        | .tagged .. => failure
        | n          => return withTag tag? n
      else
        let n := withTag tag? (← content false least fuel)
        skipBlanks
        let p ← get
        if fresh && p.line = start.line && p.atIndicator ':' then
          advance
          keys start.column [] n fuel
        else return n

-- Reads the rest of a sequence whose dashes stand in this column. Where it shares the column with
-- keys, the next key ends it.
def dashes (column : Nat) (amongKeys : Bool) (sofar : List Node) : Nat → Reader Node
  | 0        => failure
  | fuel + 1 => do
    advance
    let sofar := (← node (column + 1) false true fuel) :: sofar
    let _ ← skip false false
    let p ← get
    if p.isDone || p.column < column then return .sequence sofar.reverse
    else if p.column = column && p.atIndicator '-' then dashes column amongKeys sofar fuel
    else if p.column = column && amongKeys then return .sequence sofar.reverse
    else failure

-- Reads the rest of a mapping whose keys stand in this column, from after a colon on.
def keys (column : Nat) (sofar : List (Node × Node)) (last : Node) : Nat → Reader Node
  | 0        => failure
  | fuel + 1 => do
    let sofar := (last, ← node (column + 1) true false fuel) :: sofar
    let _ ← skip false false
    let p ← get
    if p.isDone || p.column < column then return .mapping sofar.reverse
    else if p.column = column then keys column sofar (← key (column + 1) fuel) fuel
    else failure

end

-- Passes over marks that end the document.
def ends : Nat → Reader Unit
  | 0        => return
  | fuel + 1 => do
    let _ ← skip false false
    if (← get).atEnd then
      advance
      advance
      advance
      ends fuel
    else return

def document (fuel : Nat) : Reader Node := do
  let _ ← skip false true
  let started := (← get).atStart
  if started then
    advance
    advance
    advance
  let n ← node 0 false (!started) fuel
  ends fuel
  if (← get).rest.isEmpty then return n else failure

end Reader

-- A carriage return ends a line, alone or before a line feed, and so does the next line character.
def withLines : List Char → List Char
  | []                   => []
  | '\r' :: '\n' :: rest => '\n' :: withLines rest
  | c :: rest            => (if c = '\r' || c = '\u0085' then '\n' else c) :: withLines rest

-- The characters that a text may hold.
def isPrintable (c : Char) : Bool :=
  c == '\t' || c == '\n' || ('\x20' ≤ c && c ≤ '\x7e') ||
    ('\u00a0' ≤ c && c != '\ufeff' && c != '\ufffe' && c != '\uffff')

-- Reads the node that a text holds. Anchors, directives, block scalars and keys behind a question
-- mark are not read. No call nests deeper than four times the text's length.
def Node.ofText? (text : String) : Option Node :=
  let chars := text.toList
  let chars := withLines (if chars.head? = some '\ufeff' then chars.tail else chars)
  if chars.all isPrintable then
    (Reader.document (4 * chars.length + 8) { rest := chars }).map (·.1)
  else none

end TestSieve.Yaml
