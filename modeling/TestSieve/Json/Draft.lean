import TestSieve.Json.Number

namespace TestSieve

-- A JSON text as far as it can be read, since what is wrong with it matters only where it is looked
-- at. The place where the text breaks off is marked, and so is what is well written but cannot be
-- taken as a value: text with half a surrogate pair, numbers beyond all bounds, and containers that
-- nest too deeply.
inductive Draft
  | null
  | bool (b : Bool)
  | number (n : JsonNumber)
  | string (s : String)
  | array (items : List Draft)
  -- The name of a field is a draft too, since anything may stand in its place.
  | object (fields : List (Draft × Draft))
  | unreadable (d : Draft)
  | broken

namespace Draft

mutual

def ofJson : Json → Draft
  | .null          => null
  | .bool b        => bool b
  | .number n      => number n
  | .string s      => string s
  | .array items   => array (ofItems items)
  | .object fields => object (ofFields fields)

def ofItems : List Json → List Draft
  | []            => []
  | item :: items => ofJson item :: ofItems items

def ofFields : List (String × Json) → List (Draft × Draft)
  | []                    => []
  | (name, value) :: rest => (string name, ofJson value) :: ofFields rest

end

mutual

-- The value of a draft that can be read as a whole.
def toJson? : Draft → Option Json
  | null          => some .null
  | bool b        => some (.bool b)
  | number n      => some (.number n)
  | string s      => some (.string s)
  | array items   => do return .array (← toItems? items)
  | object fields => do return .object (← toFields? fields)
  | unreadable _  => none
  | broken        => none

def toItems? : List Draft → Option (List Json)
  | []            => some []
  | item :: items => do return (← toJson? item) :: (← toItems? items)

def toFields? : List (Draft × Draft) → Option (List (String × Json))
  | []                           => some []
  | (string name, value) :: rest => do return (name, ← toJson? value) :: (← toFields? rest)
  | _                            => none

end

-- Whether a draft can stand where a name is expected, even if it cannot be read.
def isName : Draft → Bool
  | string _              => true
  | unreadable (string _) => true
  | _                     => false

mutual

-- Whether a draft is well written, which is all that is asked of what is passed over.
def isWhole : Draft → Bool
  | array items   => allWhole items
  | object fields => allFieldsWhole fields
  | unreadable d  => isWhole d
  | broken        => false
  | _             => true

def allWhole : List Draft → Bool
  | []            => true
  | item :: items => isWhole item && allWhole items

def allFieldsWhole : List (Draft × Draft) → Bool
  | []                   => true
  | (name, value) :: rest => isName name && isWhole value && allFieldsWhole rest

end

def isBlank (c : Char) : Bool :=
  c == ' ' || c == '\n' || c == '\t' || c == '\r'

def skipBlank (text : List Char) : List Char :=
  text.dropWhile isBlank

-- A piece of a string: a character, or half a character given by its code.
inductive Piece
  | char (c : Char)
  | unit (code : Nat)

def unit? (a b c d : Char) : Option Nat :=
  let digits := [a, b, c, d]
  if digits.all (Digit.isDigit 16) then some (Digit.number 16 digits) else none

def plainEscape? : Char → Option Char
  | '"'  => some '"'
  | '\\' => some '\\'
  | '/'  => some '/'
  | 'b'  => some '\x08'
  | 'f'  => some '\x0C'
  | 'n'  => some '\n'
  | 'r'  => some '\r'
  | 't'  => some '\t'
  | _    => none

-- The pieces of a string up to its closing quote, and what follows it.
def readPieces : List Char → Option (List Piece × List Char)
  | []                                  => none
  | '"' :: rest                         => some ([], rest)
  | '\\' :: 'u' :: a :: b :: c :: d :: rest => do
    let code ← unit? a b c d
    let (pieces, rest) ← readPieces rest
    return (.unit code :: pieces, rest)
  | '\\' :: c :: rest                   => do
    let escaped ← plainEscape? c
    let (pieces, rest) ← readPieces rest
    return (.char escaped :: pieces, rest)
  | c :: rest                           =>
    if c == '\\' || c.toNat < 0x20 then none
    else do
      let (pieces, rest) ← readPieces rest
      return (.char c :: pieces, rest)

-- Joins the halves of characters; each half needs its other one next to it.
def joinPieces? : List Piece → Option (List Char)
  | []                              => some []
  | .char c :: rest                 => do return c :: (← joinPieces? rest)
  | .unit high :: .unit low :: rest =>
    if 0xD800 ≤ high && high < 0xDC00 then
      if 0xDC00 ≤ low && low < 0xE000 then do
        let code := 0x10000 + (high - 0xD800) * 0x400 + (low - 0xDC00)
        return Char.ofNat code :: (← joinPieces? rest)
      else none
    else if 0xDC00 ≤ high && high < 0xE000 then none
    else do return Char.ofNat high :: (← joinPieces? (.unit low :: rest))
  | .unit code :: rest              =>
    if 0xD800 ≤ code && code < 0xE000 then none
    else do return Char.ofNat code :: (← joinPieces? rest)

-- Containers that lie in as many others are not entered.
def maxDepth : Nat := 127

-- A container is readable only if it does not lie too deep.
def container (depth : Nat) (d : Draft) : Draft :=
  if depth < maxDepth then d else unreadable d

-- A word that stands for a value.
def readWord (word : String) (value : Draft) (text : List Char) : Draft × Option (List Char) :=
  if word.toList.isPrefixOf text then (value, some (text.drop word.toList.length))
  else (broken, none)

def readNumber (text : List Char) : Draft × Option (List Char) :=
  match JsonNumber.Literal.read? text with
  | none           => (broken, none)
  | some (l, rest) => ((l.value?.map number).getD (unreadable (number (.natural 0))), some rest)

def readString (text : List Char) : Draft × Option (List Char) :=
  match readPieces text with
  | none                => (broken, none)
  | some (pieces, rest) =>
    (((joinPieces? pieces).map (string <| .ofList ·)).getD (unreadable (string "")), some rest)

mutual

-- Reads a value that lies in `depth` containers. The text behind it is given if the value is
-- complete; otherwise the text breaks off inside it.
def readValue (fuel depth : Nat) (text : List Char) : Draft × Option (List Char) :=
  match fuel with
  | 0        => (broken, none)
  | fuel + 1 =>
    let text := skipBlank text
    match text with
    | 'n' :: _    => readWord "null" null text
    | 't' :: _    => readWord "true" (bool true) text
    | 'f' :: _    => readWord "false" (bool false) text
    | '"' :: rest => readString rest
    | '[' :: rest =>
      let (items, rest) := readItems fuel (depth + 1) true rest
      (container depth (array items), rest)
    | '\x7b' :: rest =>
      let (fields, rest) := readFields fuel (depth + 1) true rest
      (container depth (object fields), rest)
    | c :: _      =>
      if c == '-' || Digit.isDigit 10 c then readNumber text else (broken, none)
    | []          => (broken, none)

-- The items of an array from here on; the first one needs no comma before it.
def readItems (fuel depth : Nat) (first : Bool) (text : List Char) :
    List Draft × Option (List Char) :=
  match fuel with
  | 0        => ([broken], none)
  | fuel + 1 =>
    let text := skipBlank text
    match text with
    | ']' :: rest => ([], some rest)
    | c :: rest   =>
      if !first && c != ',' then ([broken], none)
      else
        let (item, rest) := readValue fuel depth (if first then text else rest)
        match rest with
        | none      => ([item], none)
        | some rest =>
          let (items, rest) := readItems fuel depth false rest
          (item :: items, rest)
    | []          => ([broken], none)

-- The fields of an object from here on.
def readFields (fuel depth : Nat) (first : Bool) (text : List Char) :
    List (Draft × Draft) × Option (List Char) :=
  match fuel with
  | 0        => ([(broken, broken)], none)
  | fuel + 1 =>
    let text := skipBlank text
    match text with
    | '\x7d' :: rest => ([], some rest)
    | c :: rest      =>
      if !first && c != ',' then ([(broken, broken)], none)
      else
        let (name, rest) := readValue fuel depth (if first then text else rest)
        match rest.map skipBlank with
        | some (':' :: rest) =>
          if name.isName then
            let (value, rest) := readValue fuel depth rest
            match rest with
            | none      => ([(name, value)], none)
            | some rest =>
              let (fields, rest) := readFields fuel depth false rest
              ((name, value) :: fields, rest)
          else ([(name, broken)], none)
        | _                  => ([(name, broken)], none)
    | []             => ([(broken, broken)], none)

end

-- The draft of a text; nothing but blanks may follow the value.
def ofText (text : String) : Draft × Bool :=
  match readValue (2 * text.length + 2) 0 text.toList with
  | (d, none)      => (d, false)
  | (d, some rest) => (d, (skipBlank rest).isEmpty)

end Draft

end TestSieve
