namespace TestSieve

-- Numbers that are too large for 64 bits are floating point numbers, and so is minus zero.
inductive JsonNumber
  | natural (n : Nat)
  | negative (n : Nat)
  | float (f : Float)

-- The fields of an object are in the order in which they are visited.
inductive Json
  | null
  | bool (b : Bool)
  | number (n : JsonNumber)
  | string (s : String)
  | array (items : List Json)
  | object (fields : List (String × Json))

namespace Json

def strings (texts : List String) : Json :=
  array (texts.map string)

def optional : Option String → Json
  | none   => null
  | some s => string s

-- Puts a field in its place; it replaces one of the same name.
def insertField (name : String) (value : Json) : List (String × Json) → List (String × Json)
  | []                   => [(name, value)]
  | (key, other) :: rest =>
    if name = key then (key, value) :: rest
    else if name < key then (name, value) :: (key, other) :: rest
    else (key, other) :: insertField name value rest

mutual

-- The value with all fields in the order of their names; of equal names the last counts.
def canonical : Json → Json
  | array items   => array (canonicalItems items)
  | object fields => object (canonicalFields fields [])
  | value         => value

def canonicalItems : List Json → List Json
  | []            => []
  | item :: items => canonical item :: canonicalItems items

def canonicalFields : List (String × Json) → List (String × Json) → List (String × Json)
  | [],                    done => done
  | (name, value) :: rest, done => canonicalFields rest (insertField name (canonical value) done)

end

end Json

end TestSieve
