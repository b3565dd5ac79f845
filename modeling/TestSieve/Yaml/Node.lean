import TestSieve.Digit

namespace TestSieve.Yaml

inductive Style
  | plain
  | quoted
  deriving DecidableEq

inductive Node
  | scalar (style : Style) (text : String)
  | sequence (items : List Node)
  | mapping (entries : List (Node × Node))
  | tagged (tag : String) (content : Node)

-- What a node is where nothing is written.
def Node.empty : Node :=
  .scalar .plain ""

namespace Plain

def isNull (text : String) : Bool :=
  ["", "~", "null", "Null", "NULL"].contains text

def bool? (text : String) : Option Bool :=
  if ["true", "True", "TRUE"].contains text then some true
  else if ["false", "False", "FALSE"].contains text then some false
  else none

def isSign (c : Char) : Bool :=
  c == '+' || c == '-'

def dropSign : List Char → List Char
  | []      => []
  | c :: cs => if isSign c then cs else c :: cs

def areDigits (base : Nat) (text : List Char) : Bool :=
  !text.isEmpty && text.all (Digit.isDigit base)

-- A whole number in base sixteen, eight or two.
def isBased : List Char → Bool
  | '0' :: 'x' :: digits => areDigits 16 digits
  | '0' :: 'o' :: digits => areDigits 8 digits
  | '0' :: 'b' :: digits => areDigits 2 digits
  | _                    => false

-- Digits of which one part, before or after the point, may be missing, and perhaps an exponent.
def isDecimal (text : List Char) : Bool :=
  let isDigit := Digit.isDigit 10
  let whole := text.takeWhile isDigit
  let rest := text.dropWhile isDigit
  let pointed := rest.head? = some '.'
  let fraction := if pointed then rest.tail.takeWhile isDigit else []
  let rest := if pointed then rest.tail.dropWhile isDigit else rest
  let exponent : Bool := match rest with
    | []      => true
    | c :: cs => (c == 'e' || c == 'E') && areDigits 10 (dropSign cs)
  (!whole.isEmpty || !fraction.isEmpty) && exponent

def isInfinite (text : List Char) : Bool :=
  [".inf", ".Inf", ".INF"].contains (String.ofList text)

def isNotANumber (text : String) : Bool :=
  [".nan", ".NaN", ".NAN"].contains text

-- Digits that begin with a needless zero are a text.
def isPadded (digits : List Char) : Bool :=
  2 ≤ digits.length && digits.head? = some '0' && digits.all (Digit.isDigit 10)

def isNumber (text : String) : Bool :=
  let unsigned := dropSign text.toList
  isBased unsigned || isInfinite unsigned || isNotANumber text ||
    (isDecimal unsigned && !isPadded unsigned)

def isText (text : String) : Bool :=
  !isNull text && (bool? text).isNone && !isNumber text

end Plain

end TestSieve.Yaml
