namespace TestSieve

-- The number `digits * 10 ^ exponent`.
structure Decimal where
  digits   : Nat
  exponent : Int
  deriving DecidableEq, Repr

namespace Decimal

-- A positive number as the quotient `num / den`, with the ends of the interval that rounds to it;
-- the ends belong to it if `closed` is set.
structure Interval where
  num    : Nat
  low    : Nat
  high   : Nat
  den    : Nat
  closed : Bool

-- The interval of the number `mantissa * 2 ^ power`, all four parts over one denominator.
def Interval.ofBinary (mantissa : Nat) (power : Int) (narrow : Bool) : Interval :=
  -- Everything is scaled by four, so that half of the distance below can be halved again.
  let scale := Nat.pow 2 (power - 2).toNat
  let den := Nat.pow 2 (2 - power).toNat
  { num    := 4 * mantissa * scale
    low    := (if narrow then 4 * mantissa - 1 else 4 * mantissa - 2) * scale
    high   := (4 * mantissa + 2) * scale
    den    := den
    closed := mantissa % 2 == 0 }

-- Whether `value / unit` lies in the interval.
def Interval.contains (i : Interval) (value unit : Nat) : Bool :=
  let v := value * i.den
  if i.closed then i.low * unit ≤ v && v ≤ i.high * unit
  else i.low * unit < v && v < i.high * unit

-- The least `k` up to a bound with `num / den < 10 ^ k`, starting from an exponent.
def magnitude (num den : Nat) (start : Int) : Nat → Int
  | 0         => start
  | bound + 1 =>
    if num * Nat.pow 10 (-start).toNat < den * Nat.pow 10 start.toNat then start
    else magnitude num den (start + 1) bound

-- The multiples of `10 ^ exponent` on both sides of the number, the nearer first.
def Interval.neighbours (i : Interval) (exponent : Int) : List Nat :=
  let top := i.num * Nat.pow 10 (-exponent).toNat
  let bottom := i.den * Nat.pow 10 exponent.toNat
  let below := top / bottom
  let rest := top % bottom
  if 2 * rest < bottom || (2 * rest == bottom && below % 2 == 0) then [below, below + 1]
  else [below + 1, below]

def Interval.hit? (i : Interval) (exponent : Int) : Option Decimal :=
  let inside (digits : Nat) : Bool :=
    i.contains (digits * Nat.pow 10 exponent.toNat) (Nat.pow 10 (-exponent).toNat)
  (i.neighbours exponent).find? inside |>.map ({ digits := ·, exponent })

-- Tries one digit more each time; the number lies below `10 ^ size`.
def Interval.search (i : Interval) (size : Int) (count : Nat) : Nat → Decimal
  | 0         => { digits := 0, exponent := 0 }
  | tries + 1 =>
    match i.hit? (size - count) with
    | some d => d
    | none   => i.search size (count + 1) tries

-- Without zeros at the end.
def strip (digits : Nat) (exponent : Int) : Nat → Decimal
  | 0         => { digits, exponent }
  | tries + 1 =>
    if digits % 10 == 0 && digits != 0 then strip (digits / 10) (exponent + 1) tries
    else { digits, exponent }

-- In the 64 bits of a number, a sign stands before 11 bits of exponent and 52 of fraction.
def fractionSize : Nat := 0x10000000000000

def exponentSize : Nat := 0x800

-- The fewest digits that read back as the same finite number, and of these the nearest to it. The
-- sign is left out.
def ofFloat (f : Float) : Decimal :=
  let bits := f.toBits.toNat
  let fraction := bits % fractionSize
  let field := bits / fractionSize % exponentSize
  if fraction == 0 && field == 0 then { digits := 0, exponent := 0 }
  else
    let mantissa := if field == 0 then fraction else fraction + fractionSize
    let power : Int := Nat.max field 1 - 1075
    let i := Interval.ofBinary mantissa power (fraction == 0 && 1 < field)
    let d := i.search (magnitude i.num i.den (-330) 700) 1 18
    strip d.digits d.exponent 20

-- Numbers from `10 ^ -5` up to `10 ^ 16` are written out, the others with an exponent.
def layout (negative : Bool) (d : Decimal) : String :=
  let digits := toString d.digits
  let count : Int := digits.length
  let point := count + d.exponent
  let zeros (n : Int) : String := .ofList (List.replicate n.toNat '0')
  let cut (n : Int) : String × String :=
    (.ofList (digits.toList.take n.toNat), .ofList (digits.toList.drop n.toNat))
  let body :=
    if d.digits == 0 then "0.0"
    else if 0 ≤ d.exponent && point ≤ 16 then digits ++ zeros d.exponent ++ ".0"
    else if 0 < point && point ≤ 16 then (cut point).1 ++ "." ++ (cut point).2
    else if -5 < point && point ≤ 0 then "0." ++ zeros (-point) ++ digits
    else
      let fraction := if count == 1 then "" else "." ++ (cut 1).2
      (cut 1).1 ++ fraction ++ "e" ++ toString (point - 1)
  if negative then "-" ++ body else body

def render (f : Float) : String :=
  layout (fractionSize * exponentSize ≤ f.toBits.toNat) (ofFloat f)

end Decimal

end TestSieve
