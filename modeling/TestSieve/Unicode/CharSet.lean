import TestSieve.Digit

namespace TestSieve.Unicode

structure CharSet where
  contains : Char → Bool

namespace CharSet

instance : EmptyCollection CharSet where
  emptyCollection := { contains := fun _ => false }

instance : Union CharSet where
  union s t := { contains := fun c => s.contains c || t.contains c }

instance : Inter CharSet where
  inter s t := { contains := fun c => s.contains c && t.contains c }

instance : SDiff CharSet where
  sdiff s t := { contains := fun c => s.contains c && !t.contains c }

instance : Inhabited CharSet := ⟨∅⟩

def all : CharSet where
  contains _ := true

def complement (s : CharSet) : CharSet where
  contains c := !s.contains c

def symmetricDifference (s t : CharSet) : CharSet where
  contains c := s.contains c != t.contains c

def singleton (c : Char) : CharSet where
  contains d := d == c

def range (first last : Char) : CharSet where
  contains c := first ≤ c && c ≤ last

def ofList (chars : List Char) : CharSet where
  contains c := chars.contains c

end CharSet

-- Closed ranges of code points, in increasing order.
structure Ranges where
  bounds : Array (Nat × Nat)

namespace Ranges

-- A table that is being read: the number so far, and the one before the hyphen.
structure Progress where
  found  : Array (Nat × Nat) := #[]
  first? : Option Nat := none
  code?  : Option Nat := none

namespace Progress

def close (p : Progress) : Progress :=
  match p.code? with
  | none      => p
  | some last => { found := p.found.push (p.first?.getD last, last) }

def step (p : Progress) (c : Char) : Progress :=
  if Digit.isDigit 16 c then { p with code? := some (Digit.extend 16 (p.code?.getD 0) c) }
  else if c = '-' then { p with first? := p.code?, code? := none }
  else p.close

end Progress

def ofText (text : String) : Ranges where
  bounds := (text.toList.foldl Progress.step {}).close.found

-- Looks for a code among the ranges from index `low` up to `high`.
def search (bounds : Array (Nat × Nat)) (code low high : Nat) : Bool :=
  if _h : low < high then
    let middle := (low + high) / 2
    match bounds[middle]? with
    | none               => false
    | some (first, last) =>
      if code < first then search bounds code low middle
      else if last < code then search bounds code (middle + 1) high
      else true
  else false
termination_by high - low

def contains (r : Ranges) (code : Nat) : Bool :=
  search r.bounds code 0 r.bounds.size

end Ranges

def CharSet.ofRanges (r : Ranges) : CharSet where
  contains c := r.contains c.toNat

-- A set with the names that it goes by, separated by blanks.
structure NamedSet where
  names : String
  set   : CharSet

namespace NamedSet

def ofText (names table : String) : NamedSet where
  names := names
  set   := .ofRanges (.ofText table)

end NamedSet

-- The form in which names are compared: letter case, blanks, hyphens, underscores and a leading
-- "is" make no difference, and characters beyond ASCII are passed over. The one name that would
-- lose too much by this is kept apart.
def looseName (name : String) : String :=
  let chars := name.toList
  let isMarked := (chars.take 2).map Char.toLower == ['i', 's']
  let kept := (if isMarked then chars.drop 2 else chars).filter fun c =>
    c.toNat < 128 && c != ' ' && c != '_' && c != '-'
  let plain := kept.map Char.toLower
  if isMarked && plain == ['c'] then "isc" else .ofList plain

namespace NamedSet

def looseNames (s : NamedSet) : List String :=
  ((s.names.toList.splitOn ' ').map (looseName <| .ofList ·))

def hasName (s : NamedSet) (name : String) : Bool :=
  s.looseNames.contains (looseName name)

-- The first set that goes by a name.
def find? (sets : List NamedSet) (name : String) : Option CharSet :=
  (sets.find? (·.hasName name)).map (·.set)

end NamedSet

end TestSieve.Unicode
