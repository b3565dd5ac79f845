namespace TestSieve.Xml

def isBlank (c : Char) : Bool :=
  c == ' ' || c == '\t' || c == '\r' || c == '\n'

def trimStart (text : List Char) : List Char :=
  text.dropWhile isBlank

def trimEnd (text : List Char) : List Char :=
  (text.reverse.dropWhile isBlank).reverse

def trim (text : List Char) : List Char :=
  trimEnd (trimStart text)

-- The number of bytes that a text takes in UTF-8.
def byteLength : List Char → Nat
  | []        => 0
  | c :: text => c.utf8Size + byteLength text

end TestSieve.Xml
