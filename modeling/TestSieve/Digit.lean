namespace TestSieve.Digit

-- Letters of both cases count on from ten.
def value? (base : Nat) (c : Char) : Option Nat :=
  let value :=
    if '0' ≤ c ∧ c ≤ '9' then some (c.toNat - '0'.toNat)
    else if 'a' ≤ c ∧ c ≤ 'z' then some (c.toNat - 'a'.toNat + 10)
    else if 'A' ≤ c ∧ c ≤ 'Z' then some (c.toNat - 'A'.toNat + 10)
    else none
  value.filter (· < base)

def isDigit (base : Nat) (c : Char) : Bool :=
  (value? base c).isSome

-- One more digit at the end; a character that is no digit counts as zero.
def extend (base number : Nat) (c : Char) : Nat :=
  number * base + (value? base c).getD 0

-- The number that digits stand for.
def number (base : Nat) (digits : List Char) : Nat :=
  digits.foldl (extend base) 0

-- The character that a code stands for, if it stands for one.
def char? (code : Nat) : Option Char :=
  if code.isValidChar then some (Char.ofNat code) else none

end TestSieve.Digit
