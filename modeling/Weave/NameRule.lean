/-! Name rules, the patterns of bean names and matcher names: a name itself, or a name part with one
star before or after it. Further stars are ordinary characters. -/

namespace Weave.NameRule

def matchesStem (rule name : List Char) : Bool :=
  rule.getLast? == some '*' && rule.dropLast.isPrefixOf name

def matchesEnding : List Char → List Char → Bool
  | '*' :: ending, name => ending.isSuffixOf name
  | _, _ => false

/-- Whether the star of a rule, first or last, covers the name. -/
def covers (rule name : String) : Bool :=
  matchesStem rule.toList name.toList || matchesEnding rule.toList name.toList

def selects (rule name : String) : Bool := name == rule || covers rule name

end Weave.NameRule
