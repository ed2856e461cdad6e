/-! Patterns with stars: each star stands for any run of characters, wherever it is. Matching is
greedy from the left, which loses nothing because the last piece is only tested at the end. -/

namespace Weave.Glob

/-- The text before the first star, and the texts after each star. -/
def pieces : List Char → List Char × List (List Char)
  | [] => ([], [])
  | c :: rest =>
    let (first, others) := pieces rest
    if c = '*' then ([], first :: others) else (c :: first, others)

def after? (piece : List Char) : List Char → Option (List Char)
  | [] => if piece.isEmpty then some [] else none
  | c :: rest =>
    if piece.isPrefixOf (c :: rest) then some ((c :: rest).drop piece.length) else after? piece rest

/-- The pieces after the first star against what is left of the target: each takes its leftmost
occurrence, and the last one must end the target. -/
def matchPieces : List (List Char) → List Char → Bool
  | [], target => target.isEmpty
  | [last], target => last.isSuffixOf target
  | piece :: more, target =>
    match after? piece target with
    | some left => matchPieces more left
    | none => false

def matchChars (pattern target : List Char) : Bool :=
  match pieces pattern with
  | (first, []) => first == target
  | (first, others) => first.isPrefixOf target && matchPieces others (target.drop first.length)

def accepts (pattern target : String) : Bool := matchChars pattern.toList target.toList

end Weave.Glob
