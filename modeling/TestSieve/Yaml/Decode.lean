import TestSieve.Yaml.Reader

namespace TestSieve.Yaml.Node

def text? : Node → Option String
  | scalar _ text    => some text
  | tagged _ content => content.text?
  | _                => none

def bool? : Node → Option Bool
  | scalar .plain text => Plain.bool? text
  | tagged _ content   => content.bool?
  | _                  => none

-- A text that may be absent.
def optionalText? : Node → Option (Option String)
  | scalar .plain text => some (if Plain.isNull text then none else some text)
  | n                  => n.text?.map some

def list? {α : Type} (item : Node → Option α) : Node → Option (List α)
  | sequence items   => items.mapM item
  | scalar .plain "" => some []
  | tagged _ content => content.list? item
  | _                => none

-- Texts with what they stand for.
def entries? {α : Type} (item : Node → Option α) : Node → Option (List (String × α))
  | mapping entries  => entries.mapM fun (key, value) => return (← key.text?, ← item value)
  | scalar .plain "" => some []
  | tagged _ content => content.entries? item
  | _                => none

-- The fields of a structure with these names, as far as they are given. They may also come without
-- their names, in order.
def fields? (names : List String) : Node → Option (List (String × Node))
  | sequence items   => if items.length ≤ names.length then some (names.zip items) else none
  | tagged _ content => content.fields? names
  | n                => do
    let known := (← n.entries? some).filter (names.contains ·.1)
    if (known.map (·.1)).Nodup then return known else none

-- A field that may be left out.
def optionalField? {α : Type} (fields : List (String × Node)) (name : String) (absent : α)
    (value : Node → Option α) : Option α :=
  (fields.lookup name).elim (some absent) value

def field? {α : Type} (fields : List (String × Node)) (name : String) (value : Node → Option α) :
    Option α :=
  (fields.lookup name).bind value

end TestSieve.Yaml.Node
