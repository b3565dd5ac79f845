namespace TestSieve.Xml

-- Why the number in a character reference names no character.
inductive ReferenceError
  | sign
  | empty
  | digit
  | overflow
  | zero
  | notACharacter (code : Nat)
  deriving DecidableEq, Repr

inductive EntityError
  | unterminated (start stop : Nat)
  | unknown (start stop : Nat) (name : String)
  | reference (cause : ReferenceError)
  deriving DecidableEq, Repr

inductive AttributeError
  | noEquals (position : Nat)
  | duplicated (position previous : Nat)
  | noValue (position : Nat)
  | unquoted (position : Nat)
  | unclosed (position : Nat) (quote : Char)
  deriving DecidableEq, Repr

inductive Error
  -- markup that never ends, or begins with an unknown mark
  | unknownMarkup
  | unclosedSection
  | unclosedComment
  | unclosedDoctype
  | unclosedInstruction
  | unclosedTag
  | namelessDoctype
  -- end tags that do not fit
  | mismatchedEnd (expected found : String)
  | unmatchedEnd (found : String)
  -- faults inside a tag or a text
  | badAttribute (cause : AttributeError)
  | badEntity (cause : EntityError)
  deriving DecidableEq, Repr

namespace ReferenceError

def message : ReferenceError → String
  | sign               => "unexpected number sign"
  | empty              => "cannot parse integer from empty string"
  | digit              => "invalid digit found in string"
  | overflow           => "number too large to fit in target type"
  | zero               => "0x0 character is not permitted in XML"
  | notACharacter code => "`" ++ toString code ++ "` is not a valid codepoint"

end ReferenceError

namespace EntityError

def message : EntityError → String
  | unterminated start stop =>
    "Error while escaping character at range " ++ toString start ++ ".." ++ toString stop ++
    ": Cannot find ';' after '&'"
  | unknown start stop name =>
    "at " ++ toString start ++ ".." ++ toString stop ++ ": unrecognized entity `" ++ name ++ "`"
  | reference cause         => "invalid character reference: " ++ cause.message

end EntityError

namespace AttributeError

def position : AttributeError → Nat
  | noEquals p | duplicated p _ | noValue p | unquoted p | unclosed p _ => p

def reason : AttributeError → String
  | noEquals _            => "attribute key must be directly followed by `=` or space"
  | duplicated _ previous =>
    "duplicated attribute, previous declaration at position " ++ toString previous
  | noValue _             => "`=` must be followed by an attribute value"
  | unquoted _            => "attribute value must be enclosed in `\"` or `'`"
  | unclosed _ quote      => "missing closing quote `" ++ quote.toString ++ "` in attribute value"

def message (e : AttributeError) : String :=
  "position " ++ toString e.position ++ ": " ++ e.reason

end AttributeError

namespace Error

private def unended (what mark : String) : String :=
  "syntax error: " ++ what ++ " not closed: `" ++ mark ++ "` not found before end of input"

def message : Error → String
  | unknownMarkup       => "syntax error: unknown or missed symbol in markup"
  | unclosedSection     => unended "CDATA" "]]>"
  | unclosedComment     => unended "comment" "-->"
  | unclosedDoctype     => unended "DOCTYPE" ">"
  | unclosedInstruction => unended "processing instruction or xml declaration" "?>"
  | unclosedTag         => unended "tag" ">"
  | namelessDoctype     =>
    "ill-formed document: `<!DOCTYPE>` declaration does not contain a name of a document type"
  | mismatchedEnd expected found =>
    "ill-formed document: expected `</" ++ expected ++ ">`, but `</" ++ found ++ ">` was found"
  | unmatchedEnd found  =>
    "ill-formed document: close tag `</" ++ found ++ ">` does not match any open tag"
  | badAttribute cause  => "error while parsing attribute: " ++ cause.message
  | badEntity cause     => cause.message

end Error

end TestSieve.Xml
