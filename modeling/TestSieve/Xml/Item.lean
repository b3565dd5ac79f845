import TestSieve.Xml.Blank
import TestSieve.Xml.Error

namespace TestSieve.Xml

-- What stands in a tag is kept as it is, without the angle brackets and the slash.
inductive Item
  | text (raw : List Char)
  | literal (content : List Char)
  | opening (content : List Char)
  | empty (content : List Char)
  | closing (content : List Char)
  deriving DecidableEq, Repr

-- What the reader is in the middle of. Contents are kept last character first; those of markup
-- that begins with a mark include that mark.
inductive Phase
  | outside
  | text (sofar : List Char)
  | markup
  | declaration
  | literal (sofar : List Char)
  | comment (sofar : List Char)
  | doctype (depth : Nat) (sofar : List Char)
  | instruction (sofar : List Char)
  | tag (quote : Option Char) (sofar : List Char)
  deriving DecidableEq

namespace Item

-- The content of a tag decides what kind of tag it is; it is given last character first.
def ofTag (sofar : List Char) : Item :=
  match sofar.reverse with
  | '/' :: name => .closing name
  | content     =>
    match sofar with
    | '/' :: rest => .empty rest.reverse
    | _           => .opening content

def ofLiteral (sofar : List Char) : Except Error Item :=
  let content := sofar.reverse
  let mark := "![CDATA[".toList
  if mark.isPrefixOf content then return .literal ((content.drop mark.length).dropLast.dropLast)
  else throw .unclosedSection

def ofText (sofar : List Char) : Item :=
  .text (trimEnd sofar.reverse)

end Item

namespace Phase

def checkComment (sofar : List Char) : Except Error Unit :=
  if "!--".toList.isPrefixOf sofar.reverse then return () else throw .unclosedComment

def lowerAscii (c : Char) : Char :=
  if 'A' ≤ c ∧ c ≤ 'Z' then Char.ofNat (c.toNat + 32) else c

-- The keyword may be written in any case, and something must follow it.
def checkDoctype (sofar : List Char) : Except Error Unit :=
  let content := sofar.reverse
  let mark := "!doctype".toList
  if mark.isPrefixOf (content.map lowerAscii) then
    if (content.drop mark.length).all isBlank then throw .namelessDoctype else return ()
  else throw .unclosedDoctype

def tagStep (quote : Option Char) (sofar : List Char) (c : Char) : Phase × Option Item :=
  match quote with
  | some q => (tag (if c = q then none else some q) (c :: sofar), none)
  | none   =>
    if c = '>' then (outside, some (Item.ofTag sofar))
    else if c = '\'' || c = '"' then (tag (some c) (c :: sofar), none)
    else (tag none (c :: sofar), none)

-- The phase after one more character, with the item that the character completes.
def step (p : Phase) (c : Char) : Except Error (Phase × Option Item) :=
  match p with
  | outside     =>
    if isBlank c then return (outside, none)
    else if c = '<' then return (markup, none)
    else return (text [c], none)
  | text sofar  =>
    if c = '<' then return (markup, some (Item.ofText sofar))
    else return (text (c :: sofar), none)
  | markup      =>
    if c = '!' then return (declaration, none)
    else if c = '?' then return (instruction [c], none)
    else return tagStep none [] c
  | declaration =>
    if c = '[' then return (literal [c, '!'], none)
    else if c = '-' then return (comment [c, '!'], none)
    else if c = 'D' || c = 'd' then return (doctype 0 [c, '!'], none)
    else throw .unknownMarkup
  | literal sofar =>
    if c = '>' && "]]".toList.isPrefixOf sofar then
      return (outside, some (← Item.ofLiteral sofar))
    else return (literal (c :: sofar), none)
  | comment sofar =>
    -- The shortest comment has four dashes of its own.
    if c = '>' && "--".toList.isPrefixOf sofar && 5 ≤ sofar.length then do
      checkComment sofar
      return (outside, none)
    else return (comment (c :: sofar), none)
  | doctype depth sofar =>
    if c = '<' then return (doctype (depth + 1) (c :: sofar), none)
    else if c = '>' then
      match depth with
      | 0         => do checkDoctype sofar; return (outside, none)
      | depth + 1 => return (doctype depth (c :: sofar), none)
    else return (doctype depth (c :: sofar), none)
  | instruction sofar =>
    if c = '>' && sofar.head? = some '?' then
      if sofar.length = 1 then throw .unclosedInstruction else return (outside, none)
    else return (instruction (c :: sofar), none)
  | tag quote sofar => return tagStep quote sofar c

-- What is still to be delivered when the text ends in this phase.
def finish : Phase → Except Error (Option Item)
  | outside       => return none
  | text sofar    => return some (Item.ofText sofar)
  | markup        => throw .unclosedTag
  | declaration   => throw .unknownMarkup
  | literal _     => throw .unclosedSection
  | comment _     => throw .unclosedComment
  | doctype _ _   => throw .unclosedDoctype
  | instruction _ => throw .unclosedInstruction
  | tag _ _       => throw .unclosedTag

end Phase

end TestSieve.Xml
