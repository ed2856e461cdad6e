import Weave.Regex.Automaton

/-! The words that a match can begin with. Where they are few, and all of them are whole matches, a
search for the words decides and no automaton is made. -/

namespace Weave.Regex

/-- The first bytes of a match, and whether the match ends behind them. -/
structure Beginning where
  bytes : List Nat
  whole : Bool := true
deriving DecidableEq, Repr

namespace Beginning

def opened (beginning : Beginning) : Beginning := { beginning with whole := false }

def take (count : Nat) (beginning : Beginning) : Beginning :=
  if beginning.bytes.length ≤ count then beginning
  else ⟨beginning.bytes.take count, false⟩

def joinEqual : List Beginning → List Beginning
  | [] => []
  | beginning :: rest =>
    match joinEqual rest with
    | next :: others =>
      if beginning.bytes = next.bytes then ⟨next.bytes, beginning.whole && next.whole⟩ :: others
      else beginning :: next :: others
    | [] => [beginning]

def andThen (first second : Beginning) : Beginning :=
  ⟨first.bytes ++ second.bytes, second.whole⟩

/-- Leaves out what has an earlier word in front: the search stops at the earlier one. -/
def minimal (beginnings : List Beginning) : List Beginning :=
  beginnings.foldl (fun kept beginning =>
    if kept.any (·.bytes.isPrefixOf beginning.bytes) then kept else kept ++ [beginning]) []

end Beginning

abbrev Beginnings := Option (List Beginning)

namespace Beginnings

def mostBeginnings : Nat := 250

def mostBytes : Nat := 100

def mostChars : Nat := 10

def mostRounds : Nat := 10

def nothing : Beginnings := some [⟨[], true⟩]

def opened (beginnings : Beginnings) : Beginnings := beginnings.map (List.map Beginning.opened)

def isOpen (beginnings : Beginnings) : Bool := beginnings.all (List.all · fun b => !b.whole)

/-- Whether two lists are too long to be joined, by the length of the joined list. -/
def exceed (joined : Nat → Nat → Nat) (left right : Beginnings) : Bool :=
  match left, right with
  | some left, some right => mostBeginnings < joined left.length right.length
  | _, _ => false

def andThen (first second : Beginnings) : Beginnings :=
  match first, if exceed (· * ·) first second then none else second with
  | none, _ => none
  | some first, none =>
    if first.any (·.bytes.isEmpty) then none else some (first.map (·.opened.take mostBytes))
  | some first, some second =>
    some ((Beginning.joinEqual (first.flatMap fun beginning =>
      if beginning.whole then second.map beginning.andThen else [beginning])).map
        (·.take mostBytes))

def orElse (first second : Beginnings) : Beginnings :=
  let short (beginnings : Beginnings) : Beginnings :=
    beginnings.map fun beginnings => Beginning.joinEqual (beginnings.map (·.take 4))
  let (first, second) :=
    if exceed (· + ·) first second then (short first, short second) else (first, second)
  match first, second with
  | some left, some right =>
    if exceed (· + ·) first second then none else some (Beginning.joinEqual (left ++ right))
  | _, _ => none

def times (round : Beginnings) : Nat → Beginnings → Beginnings
  | 0, known => known
  | count + 1, known => if known.isOpen then known else times round count (known.andThen round)

def repeated (round : Beginnings) (least : Nat) (most : Option Nat) (greedy : Bool) : Beginnings :=
  let required := times round (min least mostRounds) nothing
  if least = 0 then
    let round := if most = some 1 then round else round.opened
    if greedy then round.orElse nothing else nothing.orElse round
  else if most = some least && least ≤ mostRounds then required
  else required.opened

def ofSet (chars : Text.Charset) : Beginnings :=
  let count := chars.ranges.foldl (fun total (low, high) => total + (high + 1 - low)) 0
  if mostChars < count then none
  else some (chars.ranges.flatMap fun (low, high) =>
    (List.range' low (high + 1 - low)).map fun point => ⟨Text.utf8Bytes point, true⟩)

/-- Where a part stands: by itself, in a sequence behind others, or in a choice behind others. -/
inductive Known where
  | alone
  | before (known : Beginnings)
  | beside (known : Beginnings)

namespace Known

def add : Known → Beginnings → Beginnings
  | alone, more => more
  | before known, more => if known.isOpen then known else known.andThen more
  | beside known, more => if known.isNone then known else known.orElse more

end Known

def addFrom : Regex → Known → Beginnings
  | .empty, known | .look _, known => known.add nothing
  | .literal text, known =>
    let word : Beginning := ⟨text.flatMap fun c => Text.utf8Bytes c.toNat, true⟩
    known.add (some [word.take mostBytes])
  | .set chars, known => known.add (ofSet chars)
  | .repeated body least most greedy, known =>
    known.add (repeated (addFrom body .alone) least most greedy)
  | .group _ body, known => known.add (addFrom body .alone)
  | .concat first rest, .before known => addFrom rest (.before (addFrom first (.before known)))
  | .concat first rest, known =>
    known.add (addFrom rest (.before (addFrom first (.before nothing))))
  | .alternate first rest, .beside known =>
    addFrom rest (.beside (addFrom first (.beside known)))
  | .alternate first rest, known =>
    known.add (addFrom rest (.beside (addFrom first (.beside (some [])))))

end Beginnings

def beginnings (regex : Regex) : Beginnings := Beginnings.addFrom regex (.beside (some []))

/-! ### Words to search for -/

def isRareByte (byte : Nat) : Bool :=
  byte < 0x80 &&
    !"\n\r (),-./0129:_abcdefghilmnoprstuvxy|".toList.contains (Char.ofNat byte)

def sharedBytes : List (List Nat) → List Nat
  | [] => []
  | [word] => word
  | word :: rest =>
    ((word.zip (sharedBytes rest)).takeWhile fun (byte, other) => byte = other).map (·.1)

def shorten : List (Nat × Nat) → List Beginning → List Beginning
  | [], words => words
  | (kept, few) :: rest, words =>
    if words.length ≤ few then words
    else shorten rest (Beginning.minimal (words.map (·.take kept)))

def prefersShort (words : List Beginning) : Bool :=
  let short := shorten [(5, 10), (4, 10), (3, 64), (2, 64), (1, 10)] words
  short.any (!·.whole) && short.all (2 < ·.bytes.length) && short.length ≤ 64

/-- Whether a search for the words finds all matches and no search for less is preferred: one for a
rare first byte, for what all words begin with, or for short beginnings. -/
def areSearched (found : List Beginning) : Bool :=
  let words := Beginning.minimal found
  let shared := sharedBytes (words.map (·.bytes))
  let byte := 1 < found.length && shared.length ≤ 3 && shared.head?.any isRareByte
  let less := 4 < shared.length || (1 < shared.length && 16 < words.length)
  !found.isEmpty && found.all (!·.bytes.isEmpty) && words.all (·.whole) &&
    if byte then words.all (·.bytes.length = 1)
    else words.length = 1 || !(less || prefersShort words)

def isPlain : Regex → Bool
  | look _ | group _ _ => false
  | repeated body _ _ _ => isPlain body
  | concat first rest | alternate first rest => isPlain first && isPlain rest
  | empty | literal _ | set _ => true

def isWordList (regex : Regex) : Bool :=
  (words? regex).any (3000 ≤ ·.length)

def isWordSearch (regex : Regex) : Bool :=
  regex.isPlain && (regex.beginnings.any areSearched || regex.isWordList)

end Weave.Regex
