import TestSieve.Digit
import TestSieve.Xml.Error
import TestSieve.Xml.Escape
import TestSieve.Xml.Blank

namespace TestSieve.Xml

namespace Reference

-- Codes beyond this do not fit the 32 bits that a reference may name.
def maxCode : Nat := 0xFFFFFFFF

-- Digits are judged from the left, each first as a digit and then for the size of the number.
def number (radix : Nat) (sofar : Nat) : List Char → Except ReferenceError Nat
  | []      => return sofar
  | c :: cs =>
    match Digit.value? radix c with
    | none   => throw .digit
    | some d =>
      let value := sofar * radix + d
      if value ≤ maxCode then number radix value cs else throw .overflow

def code (radix : Nat) (digits : List Char) : Except ReferenceError Nat :=
  match digits with
  | []                 => throw .empty
  | '+' :: _ | '-' :: _ => throw .sign
  | _                  => number radix 0 digits

-- The character that a reference names, given without its number sign.
def char (digits : List Char) : Except ReferenceError Char := do
  let code ← match digits with
    | 'x' :: hex => code 16 hex
    | decimal    => code 10 decimal
  if code = 0 then throw .zero
  else match Digit.char? code with
    | some c => return c
    | none   => throw (.notACharacter code)

end Reference

def namedEntity? : List Char → Option Char
  | ['l', 't']                => some '<'
  | ['g', 't']                => some '>'
  | ['a', 'm', 'p']           => some '&'
  | ['a', 'p', 'o', 's']      => some '\''
  | ['q', 'u', 'o', 't']      => some '"'
  | _                         => none

-- The character for the name of an entity; `start` is where the name begins.
def resolve (start : Nat) (name : List Char) : Except EntityError Char :=
  match name with
  | '#' :: digits => (Reference.char digits).mapError .reference
  | _             =>
    match namedEntity? name with
    | some c => return c
    | none   => throw (.unknown start (start + byteLength name) (.ofList name))

-- An entity that has begun: where its name starts, and the name so far, last character first.
structure PendingEntity where
  start : Nat
  name  : List Char

-- Resolves the entities of a text that is `stop` bytes long, from position `position` on. An entity
-- must end before the next one begins.
def unescapeFrom (stop position : Nat) (pending : Option PendingEntity) :
    List Char → Except EntityError (List Char)
  | []      =>
    match pending with
    | none   => return []
    | some e => throw (.unterminated (e.start - 1) stop)
  | c :: cs =>
    let next := position + c.utf8Size
    match pending with
    | none   =>
      if c = '&' then unescapeFrom stop next (some ⟨next, []⟩) cs
      else do return c :: (← unescapeFrom stop next none cs)
    | some e =>
      if c = ';' then do
        let resolved ← resolve e.start e.name.reverse
        return resolved :: (← unescapeFrom stop next none cs)
      else if c = '&' then throw (.unterminated (e.start - 1) stop)
      else unescapeFrom stop next (some { e with name := c :: e.name }) cs

def unescape (text : List Char) : Except EntityError (List Char) :=
  unescapeFrom (byteLength text) 0 none text

-- Reading one escaped character and then the rest.
theorem unescapeFrom_escapeValueChar (stop position : Nat) (c : Char) (rest : List Char) :
    ∃ next, unescapeFrom stop position none (escapeValueChar c ++ rest) =
      (do return c :: (← unescapeFrom stop next none rest)) := by
  by_cases h : c = '\'' ∨ c = '"' ∨ c = '<' ∨ c = '>' ∨ c = '&'
  · rcases h with rfl | rfl | rfl | rfl | rfl <;> exact ⟨_, rfl⟩
  · simp only [not_or] at h
    refine ⟨position + c.utf8Size, ?_⟩
    have : escapeValueChar c = [c] := by simp_all [escapeValueChar, escapeTextChar]
    simp [this, unescapeFrom, h]

theorem unescapeFrom_escapeTextChar (stop position : Nat) (c : Char) (rest : List Char) :
    ∃ next, unescapeFrom stop position none (escapeTextChar c ++ rest) =
      (do return c :: (← unescapeFrom stop next none rest)) := by
  by_cases h : c = '<' ∨ c = '>' ∨ c = '&'
  · rcases h with rfl | rfl | rfl <;> exact ⟨_, rfl⟩
  · simp only [not_or] at h
    refine ⟨position + c.utf8Size, ?_⟩
    have : escapeTextChar c = [c] := by simp_all [escapeTextChar]
    simp [this, unescapeFrom, h]

theorem unescapeFrom_escapeText (stop position : Nat) (text : List Char) :
    unescapeFrom stop position none (escapeText text) = .ok text := by
  induction text generalizing position with
  | nil => rfl
  | cons c cs ih =>
    have ⟨next, h⟩ := unescapeFrom_escapeTextChar stop position c (escapeText cs)
    simp only [escapeText, List.flatMap_cons] at h ih ⊢
    rw [h, ih]
    rfl

theorem unescapeFrom_escapeValue (stop position : Nat) (value : List Char) :
    unescapeFrom stop position none (escapeValue value) = .ok value := by
  induction value generalizing position with
  | nil => rfl
  | cons c cs ih =>
    have ⟨next, h⟩ := unescapeFrom_escapeValueChar stop position c (escapeValue cs)
    simp only [escapeValue, List.flatMap_cons] at h ih ⊢
    rw [h, ih]
    rfl

theorem unescape_escapeText (text : List Char) : unescape (escapeText text) = .ok text :=
  unescapeFrom_escapeText _ _ text

theorem unescape_escapeValue (value : List Char) : unescape (escapeValue value) = .ok value :=
  unescapeFrom_escapeValue _ _ value

end TestSieve.Xml
