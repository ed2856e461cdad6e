import Weave.Declaration.TypeExpr

/-! The compact name of a type: its tokens as they are spelled, with blanks taken out around double
colons, angle brackets and commas. The replacements run one after another, each on the result of
the one before. -/

namespace Weave.Declaration

/-- Replaces the occurrences of a text, from the left and without overlaps. -/
def replaceAll (old new : List Char) : List Char → List Char
  | [] => []
  | c :: rest =>
    if old.isPrefixOf (c :: rest) then new ++ replaceAll old new (rest.drop (old.length - 1))
    else c :: replaceAll old new rest
termination_by text => text.length
decreasing_by
  all_goals simp only [List.length_drop, List.length_cons]; omega

def compactions : List (String × String) :=
  [(" :: ", "::"), (":: ", "::"), (" < ", "<"), ("< ", "<"), (" <", "<"), (" >", ">"), (" ,", ","),
    ("& ", "&")]

def compact (text : List Char) : List Char :=
  compactions.foldl (fun text (old, new) => replaceAll old.toList new.toList text) text

def TypeExpr.name (type : TypeExpr) : String :=
  String.ofList (compact (Token.spellingAll type.tokens))

end Weave.Declaration
