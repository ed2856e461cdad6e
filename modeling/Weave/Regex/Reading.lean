import Weave.Regex.Beginnings
import Weave.Regex.Meaning
import Weave.Regex.Parser

/-! The regular expression that a text spells. -/

namespace Weave.Regex

/-- Reads a pattern. It is refused if it is nested too deeply, has no meaning or needs too large an
automaton; a search for words needs none. -/
def parse? (text : String) : Option Regex := do
  let pattern ← Pattern.read? text
  guard (pattern.depth ≤ deepestNesting)
  let (regex, _) ← pattern.regex? {}
  guard (regex.isWordSearch || regex.fitsAutomata)
  pure regex

end Weave.Regex
