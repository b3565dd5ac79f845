namespace TestSieve.Xml

-- Quotes stay as they are inside of an element, and are escaped inside of an attribute.
def escapeTextChar : Char → List Char
  | '<' => "&lt;".toList
  | '>' => "&gt;".toList
  | '&' => "&amp;".toList
  | c   => [c]

def escapeValueChar : Char → List Char
  | '\'' => "&apos;".toList
  | '"'  => "&quot;".toList
  | c    => escapeTextChar c

def escapeText (text : List Char) : List Char :=
  text.flatMap escapeTextChar

def escapeValue (value : List Char) : List Char :=
  value.flatMap escapeValueChar

def openTag (tag : String) : List Char :=
  ['<'] ++ tag.toList ++ ['>']

def closeTag (tag : String) : List Char :=
  ['<', '/'] ++ tag.toList ++ ['>']

-- An attribute as it follows a tag name, with the blank before it.
def renderAttribute (key value : String) : List Char :=
  [' '] ++ key.toList ++ ['=', '"'] ++ escapeValue value.toList ++ ['"']

-- The content between a pair of tags.
def wrap (tag : String) (content : List Char) : List Char :=
  openTag tag ++ content ++ closeTag tag

end TestSieve.Xml
