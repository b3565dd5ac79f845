import TestSieve.Xml.Entity

namespace TestSieve.Xml

structure Attribute where
  key   : String
  value : String
  deriving DecidableEq, Repr

namespace Attribute

-- What the reader is in the middle of. Texts are kept last character first.
inductive Phase
  | between
  | key (start : Nat) (sofar : List Char)
  | afterKey (start : Nat) (key : String)
  | beforeValue (start : Nat) (key : String)
  | value (start : Nat) (key : String) (quote : Char) (sofar : List Char)

-- Attributes that were read are kept last one first, each with the position of its key.
structure Progress where
  position : Nat
  phase    : Phase := .between
  found    : List (Nat × Attribute) := []

namespace Progress

-- The key is complete: it must be new among those found before.
def withKey (p : Progress) (start : Nat) (key : String) : Except Error Phase :=
  match p.found.find? (·.2.key = key) with
  | some (previous, _) => throw (.badAttribute (.duplicated start previous))
  | none               => return .beforeValue start key

def step (p : Progress) (c : Char) : Except Error Progress := do
  let next := { p with position := p.position + c.utf8Size }
  match p.phase with
  | .between =>
    if isBlank c then return next
    else return { next with phase := .key p.position [c] }
  | .key start sofar =>
    let key := String.ofList sofar.reverse
    if c = '=' then return { next with phase := ← p.withKey start key }
    else if isBlank c then return { next with phase := .afterKey start key }
    else return { next with phase := .key start (c :: sofar) }
  | .afterKey start key =>
    if c = '=' then return { next with phase := ← p.withKey start key }
    else if isBlank c then return next
    else throw (.badAttribute (.noEquals p.position))
  | .beforeValue start key =>
    if isBlank c then return next
    else if c = '"' || c = '\'' then return { next with phase := .value start key c [] }
    else throw (.badAttribute (.unquoted p.position))
  | .value start key quote sofar =>
    if c = quote then do
      let value ← (unescape sofar.reverse).mapError .badEntity
      let found := (start, { key, value := .ofList value }) :: p.found
      return { next with phase := .between, found }
    else return { next with phase := .value start key quote (c :: sofar) }

def finish (p : Progress) : Except Error (List Attribute) :=
  match p.phase with
  | .between              => return p.found.reverse.map (·.2)
  | .key ..               => throw (.badAttribute (.noEquals p.position))
  | .afterKey ..          => throw (.badAttribute (.noEquals p.position))
  | .beforeValue ..       => throw (.badAttribute (.noValue p.position))
  | .value _ _ quote _    => throw (.badAttribute (.unclosed p.position quote))

end Progress

-- The attributes in a text that begins at position `position` of its tag.
def readAll (position : Nat) (text : List Char) : Except Error (List Attribute) := do
  (← text.foldlM Progress.step { position }).finish

end Attribute

end TestSieve.Xml
