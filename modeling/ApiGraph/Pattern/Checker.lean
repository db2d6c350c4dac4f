/-!
# Checkers of patterns

Whether a text is a regular expression that can be used is up to the matcher that is to use it,
which takes a pattern or says why not. Validation relies on this verdict and on nothing else, so
what is shown of validation holds for every checker.
-/

namespace ApiGraph.Pattern

/-- A judge of patterns. -/
class Checker where
  /-- What is wrong with a pattern, if anything is. -/
  objection? (pattern : String) : Option String

end ApiGraph.Pattern
