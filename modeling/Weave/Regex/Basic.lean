import Weave.Regex.Trait

/-! Regular expressions and the search for a match. Only whether a text contains a match is asked,
so a match is a pair of positions and matching carries whole sets of end positions along: there is
no backtracking and no preference between matches. -/

namespace Weave

inductive Look where
  | textStart | textEnd
  | lineStart (carriageReturn : Bool) | lineEnd (carriageReturn : Bool)
  | wordBoundary (unicode negated : Bool)
  | wordStart (unicode half : Bool) | wordEnd (unicode half : Bool)
deriving DecidableEq, Repr

/-- Sequences and choices have any number of parts: the second argument is the rest of them. Groups
are numbered, and a repetition may prefer few rounds; neither has a bearing on what matches. -/
inductive Regex where
  | empty
  | literal (text : List Char)
  | set (chars : Text.Charset)
  | look (condition : Look)
  | repeated (body : Regex) (least : Nat) (most : Option Nat) (greedy : Bool)
  | group (index : Nat) (body : Regex)
  | concat (first rest : Regex)
  | alternate (first rest : Regex)
deriving DecidableEq, Repr

namespace Look

def isAsciiWord (c : Char) : Bool := c.isAlphanum || c == '_'

def isUnicodeWord (c : Char) : Bool :=
  if Text.isAscii c then isAsciiWord c else Regex.Trait.wordChars.contains c

def isWord (unicode : Bool) (c : Option Char) : Bool :=
  c.any (if unicode then isUnicodeWord else isAsciiWord)

def holds (before after : Option Char) : Look → Bool
  | textStart => before.isNone
  | textEnd => after.isNone
  | lineStart false => before.isNone || before == some '\n'
  | lineStart true =>
    before.isNone || before == some '\n' || (before == some '\r' && after != some '\n')
  | lineEnd false => after.isNone || after == some '\n'
  | lineEnd true =>
    after.isNone || after == some '\r' || (after == some '\n' && before != some '\r')
  | wordBoundary unicode negated => (isWord unicode before != isWord unicode after) != negated
  | wordStart unicode half => !isWord unicode before && (half || isWord unicode after)
  | wordEnd unicode half => (half || isWord unicode before) && !isWord unicode after

end Look

abbrev Positions := List Nat

namespace Positions

def merge : Positions → Positions → Positions
  | [], right => right
  | left, [] => left
  | a :: left, b :: right =>
    if a < b then a :: merge left (b :: right)
    else if b < a then b :: merge (a :: left) right
    else a :: merge left right

def iterate (step : Positions → Positions) : Nat → Positions → Positions
  | 0, positions => positions
  | count + 1, positions =>
    let next := step positions
    if next = positions then positions else iterate step count next

def closure (step : Positions → Positions) : Nat → Positions → Positions
  | 0, positions => positions
  | count + 1, positions =>
    let next := merge positions (step positions)
    if next = positions then positions else closure step count next

end Positions

namespace Regex

def charBefore (text : Array Char) : Nat → Option Char
  | 0 => none
  | position + 1 => text[position]?

def advance (text : Array Char) (accepts : Char → Bool) (starts : Positions) : Positions :=
  starts.filterMap fun position =>
    if text[position]?.any accepts then some (position + 1) else none

/-- The positions where a match that starts in the given set can end. An unbounded repetition
needs no more rounds than there are positions. -/
def ends (text : Array Char) : Regex → Positions → Positions
  | empty, starts => starts
  | literal chars, starts => chars.foldl (fun reached c => advance text (· == c) reached) starts
  | set chars, starts => advance text chars.contains starts
  | look condition, starts =>
    starts.filter fun position => condition.holds (charBefore text position) text[position]?
  | group _ body, starts => ends text body starts
  | concat first rest, starts => ends text rest (ends text first starts)
  | alternate first rest, starts => (ends text first starts).merge (ends text rest starts)
  | repeated body least most _, starts =>
    let required := Positions.iterate (ends text body) least starts
    match most with
    | some most => Positions.closure (ends text body) (most - least) required
    | none => Positions.closure (ends text body) (text.size + 1) required

def occursIn (regex : Regex) (text : String) : Bool :=
  let chars := text.toList.toArray
  !(regex.ends chars (List.range (chars.size + 1))).isEmpty

def matchesAll (regex : Regex) (text : String) : Bool :=
  let chars := text.toList.toArray
  (regex.ends chars [0]).contains chars.size

end Regex

end Weave
