import TestSieve.Digit
import TestSieve.Json.Value

namespace TestSieve.JsonNumber

-- A number in its parts, as it was written.
structure Literal where
  negative : Bool
  whole    : List Char
  fraction : Option (List Char)
  exponent : Option (Bool × List Char)

-- The parts of a number that begins here, with what follows it. No zero stands before other digits,
-- and a point or an exponent mark is followed by a digit.
def Literal.read? (text : List Char) : Option (Literal × List Char) := do
  let negative := text.head? = some '-'
  let text := if negative then text.tail else text
  let isDigit := Digit.isDigit 10
  let whole := text.takeWhile isDigit
  let text := text.dropWhile isDigit
  if whole.isEmpty || (whole.head? = some '0' && whole.length ≠ 1) then none
  let fraction := if text.head? = some '.' then some (text.tail.takeWhile isDigit) else none
  let text := if fraction.isSome then text.tail.dropWhile isDigit else text
  if fraction = some [] then none
  if text.head? = some 'e' || text.head? = some 'E' then
    let text := text.tail
    let signed := text.head? = some '+' || text.head? = some '-'
    let raising := text.head? ≠ some '-'
    let text := if signed then text.tail else text
    let digits := text.takeWhile isDigit
    if digits.isEmpty then none
    return ({ negative, whole, fraction, exponent := some (raising, digits) },
      text.dropWhile isDigit)
  else return ({ negative, whole, fraction, exponent := none }, text)

def maxWord : Nat := 0xFFFFFFFFFFFFFFFF

-- The largest number whose opposite is kept whole.
def maxOpposite : Nat := 0x8000000000000000

-- Takes digits as long as the number fits a word; gives the number and the digits left over.
def takeDigits (value : Nat) : List Char → Nat × List Char
  | []      => (value, [])
  | c :: cs =>
    let next := Digit.extend 10 value c
    if next ≤ maxWord then takeDigits next cs else (value, c :: cs)

-- The largest power of ten that one step applies.
def maxStep : Nat := 308

def powerOfTen (n : Nat) : Float :=
  Float.ofScientific 1 false n

-- `f * 10 ^ exponent`, or nothing if that is too large.
def scale? (f : Float) (exponent : Int) (fuel : Nat) : Option Float :=
  match fuel with
  | 0        => some f
  | fuel + 1 =>
    if exponent.natAbs ≤ maxStep then
      if 0 ≤ exponent then
        let scaled := f * powerOfTen exponent.natAbs
        if scaled.isInf then none else some scaled
      else some (f / powerOfTen exponent.natAbs)
    else if f == 0.0 then some f
    else if 0 ≤ exponent then none
    else scale? (f / powerOfTen maxStep) (exponent + maxStep) fuel

def maxExponent : Nat := 0x7FFFFFFF

-- The exponent as it is applied, kept within 32 bits.
def clamp (e : Int) : Int :=
  if e < 0 then -Nat.min e.natAbs (maxExponent + 1) else Nat.min e.natAbs maxExponent

def signed (negative : Bool) (f : Float) : Float :=
  if negative then -f else f

-- The value of a literal; nothing if it is too large for a floating point number. Digits beyond 64
-- bits are left out, and the power of ten is applied in floating point arithmetic.
def Literal.value? (l : Literal) : Option JsonNumber := do
  let (value, left) := takeDigits 0 l.whole
  if left.isEmpty && l.fraction.isNone && l.exponent.isNone then
    if !l.negative then return .natural value
    else if value = 0 || maxOpposite < value then return .float (-value.toUInt64.toFloat)
    else return .negative value
  else
    let places := l.fraction.getD []
    let (value, unread) := takeDigits value places
    let start : Int := left.length - (places.length - unread.length : Nat)
    match l.exponent with
    | none => return .float (signed l.negative (← scale? value.toUInt64.toFloat start 20))
    | some (raising, digits) =>
      let e := Digit.number 10 digits
      if maxExponent < e then
        if value ≠ 0 && raising then none else return .float (signed l.negative 0.0)
      else
        let e := clamp (if raising then start + e else start - e)
        return .float (signed l.negative (← scale? value.toUInt64.toFloat e 20))

end TestSieve.JsonNumber
