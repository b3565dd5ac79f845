namespace TestSieve

-- A regular expression that was accepted is known by the texts in which it matches somewhere.
structure Regex where
  isMatch : String → Bool

namespace Regex

-- Which texts are regular expressions, and what they match, is for an engine to say. Filters are
-- made with whatever it says.
class Engine where
  ofPattern? : String → Option Regex

export Engine (ofPattern?)

end Regex

end TestSieve
