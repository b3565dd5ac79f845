import TestSieve.Unicode.Property

namespace TestSieve.Quoted

open Unicode (CharSet)

-- What shows on its own.
def showing : CharSet :=
  (Unicode.Category.other ∪ Unicode.Category.separator ∪ Unicode.Property.graphemeExtend).complement

def hexDigit (n : Nat) : Char :=
  if n < 10 then Char.ofNat ('0'.toNat + n) else Char.ofNat ('a'.toNat + n - 10)

def hex (n : Nat) : List Char :=
  if n < 16 then [hexDigit n] else hex (n / 16) ++ [hexDigit (n % 16)]

def escapeChar (c : Char) : List Char :=
  match c with
  | '\x00' => ['\\', '0']
  | '\t'   => ['\\', 't']
  | '\r'   => ['\\', 'r']
  | '\n'   => ['\\', 'n']
  | '\\'   => ['\\', '\\']
  | '"'    => ['\\', '"']
  | _      =>
    if c == ' ' || showing.contains c then [c]
    else ['\\', 'u', '\x7b'] ++ hex c.toNat ++ ['\x7d']

def render (text : String) : String :=
  .ofList (['"'] ++ text.toList.flatMap escapeChar ++ ['"'])

end TestSieve.Quoted
