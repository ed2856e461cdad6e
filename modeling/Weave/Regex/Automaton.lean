import Std.Data.HashMap
import Weave.Regex.Build
import Weave.Text.ByteRange

/-! The size of the automata for a regular expression: one reads the bytes of a text forward and
marks the ends of groups, the other reads backward. A pattern is too large if either of them is.
Equal states of one set of characters are shared as far as a table of bounded size knows them. -/

namespace Weave.Regex

open Text

/-- The number of states, and the bytes of the tables that belong to them. -/
structure Extent where
  states : Nat := 0
  tables : Nat := 0
deriving DecidableEq, Repr

namespace Extent

def bytes (extent : Extent) : Nat := 32 * extent.states + extent.tables

def add (extent : Extent) (tables : Nat) : Extent := ⟨extent.states + 1, extent.tables + tables⟩

end Extent

def largestAutomaton : Nat := 10 * 1024 * 1024

/-- What a part adds to an automaton, unless it grows too large. -/
abbrev Growth := Extent → Option Extent

namespace Growth

def checked (extent : Extent) : Option Extent :=
  if extent.bytes ≤ largestAutomaton then some extent else none

def none : Growth := some

def state (tables : Nat) : Growth := fun extent => checked (extent.add tables)

def plain : Growth := state 0

def andThen (first second : Growth) : Growth := fun extent =>
  match first extent with
  | some extent => second extent
  | .none => .none

def all : List Growth → Growth
  | [] => none
  | growth :: rest => growth.andThen (all rest)

def times (growth : Growth) : Nat → Growth
  | 0 => none
  | count + 1 => fun extent =>
    match growth extent with
    | some extent => times growth count extent
    | .none => .none

end Growth

inductive Direction where
  | forward | backward
deriving DecidableEq, Repr

/-! ### Sets of characters -/

structure SharedStates where
  extent : Extent
  known : Std.HashMap Nat (List Nat × Nat) := {}

namespace SharedStates

def hash (words : List Nat) : Nat :=
  (words.foldl (fun (code : UInt64) word => (code ^^^ word.toUInt64) * 1099511628211)
    14695981039346656037).toNat

/-- The number of a state, which is added if it is not known; it then takes its place from any
other state. -/
def share (places tables : Nat) (key : List Nat) (states : SharedStates) : Nat × SharedStates :=
  let place := hash key % places
  let number := states.extent.states
  let added : SharedStates := ⟨states.extent.add tables, states.known.insert place (key, number)⟩
  match states.known[place]? with
  | some (other, known) => if other = key then (known, states) else (number, added)
  | none => (number, added)

end SharedStates

def groupByFirst : List (List ByteRange) → List (ByteRange × List (List ByteRange))
  | [] => []
  | [] :: rest => groupByFirst rest
  | (range :: more) :: rest =>
    match groupByFirst rest with
    | (other, others) :: groups =>
      if other = range then (range, (more :: others)) :: groups
      else (range, [more]) :: (other, others) :: groups
    | [] => [(range, [more])]

/-- The state that reads one of some sequences and goes on at `target`. States behind it are made
first; `depth` is the length of the longest sequence. -/
def readForward (target : Nat) : Nat → List (List ByteRange) → SharedStates → Nat × SharedStates
  | 0, _, states => (target, states)
  | depth + 1, sequences, states =>
    if sequences.all List.isEmpty then (target, states)
    else
      let (key, states) := (groupByFirst sequences).foldl (fun (key, states) (range, rests) =>
        let (next, states) := readForward target depth rests states
        (key ++ [range.1, range.2, next], states)) ([], states)
      states.share 10000 (8 * (key.length / 3)) key

def readBackward (target : Nat) (sequence : List ByteRange) (states : SharedStates) :
    SharedStates :=
  (sequence.foldl (fun (next, states) (range : ByteRange) =>
    SharedStates.share 1000 0 [next, range.1, range.2] states) (target, states)).2

def encodedGrowth (direction : Direction) (sequences : List (List ByteRange)) : Growth :=
  fun extent =>
    match direction with
    | .forward =>
      let (_, states) := readForward extent.states 4 sequences ⟨extent.add 0, {}⟩
      Growth.checked states.extent
    | .backward =>
      let choice := extent.add (4 * sequences.length)
      let states := sequences.foldl (fun states sequence =>
        readBackward choice.states sequence states) ⟨choice.add 0, {}⟩
      Growth.checked states.extent

def setGrowth (direction : Direction) (chars : Charset) : Growth :=
  if chars.isAscii then Growth.plain.andThen (.state (8 * chars.ranges.length))
  else encodedGrowth direction chars.byteSequences

/-! ### Choices between words -/

def groupByByte (words : List (List Nat)) : List (List (List Nat)) :=
  (words.filterMap List.head?).eraseDups.map fun byte =>
    words.filterMap fun word => if word.head? = some byte then some word.tail else none

def joinLeadingEnds : List (List Nat) → List (List Nat)
  | [] :: rest => [] :: rest.dropWhile List.isEmpty
  | words => words

def runsBetweenEnds : List (List Nat) → List (List (List Nat))
  | [] => [[]]
  | [] :: rest => [] :: runsBetweenEnds rest
  | word :: rest =>
    match runsBetweenEnds rest with
    | run :: runs => (word :: run) :: runs
    | [] => [[word]]

/-- A tree of words: at each node a choice between its ends and its runs of words, and in each run
a step by the next byte. Nodes where nothing goes on are one state for all. -/
def treeGrowth : Nat → List (List Nat) → Growth
  | 0, _ => Growth.none
  | depth + 1, words =>
    if words.all List.isEmpty then Growth.none
    else
      let words := joinLeadingEnds words
      let runs := (runsBetweenEnds words).filter (!·.isEmpty)
      let ends := words.countP List.isEmpty
      let run (words : List (List Nat)) : Growth :=
        let groups := groupByByte words
        (Growth.all (groups.map (treeGrowth depth))).andThen
          (.state (if groups.length = 1 then 0 else 8 * groups.length))
      (Growth.all (runs.map run)).andThen (.state (4 * (runs.length + ends)))

def wordsGrowth (direction : Direction) (words : List (List Nat)) : Growth :=
  let words := if direction = .backward then words.map List.reverse else words
  let depth := (words.map List.length).foldl max 0
  Growth.plain.andThen (treeGrowth (depth + 1) words)

/-! ### Regular expressions -/

def literalBytes? : Regex → Option (List Nat)
  | literal text => some (text.flatMap fun c => utf8Bytes c.toNat)
  | _ => none

def words? (regex : Regex) : Option (List (List Nat)) :=
  match regex with
  | alternate _ _ => (branches regex).mapM literalBytes?
  | _ => none

def choiceGrowth (branches : List Growth) : Growth :=
  match branches with
  | first :: second :: rest =>
    Growth.all ([first, second, .state (4 * branches.length), .plain] ++ rest)
  | branches => Growth.all branches

def joinedGrowth (direction : Direction) (regex : Regex) (branches : List Growth) : Growth :=
  match words? regex with
  | some words => wordsGrowth direction words
  | none => choiceGrowth branches

/-- A repetition. A loop whose rounds can be empty has a way around them. -/
def repetitionGrowth (body : Growth) (mayBeEmpty : Bool) (least : Nat) (most : Option Nat) :
    Growth :=
  let choice := Growth.state 8
  match most, least with
  | none, 0 =>
    if mayBeEmpty then Growth.all [body, choice, choice, .plain] else choice.andThen body
  | none, least => (body.times least).andThen choice
  | some 1, 0 => Growth.all [choice, body, .plain]
  | some most, least =>
    let required := if least = 0 then Growth.plain else body.times least
    if most = least then required
    else Growth.all [required, .plain, (choice.andThen body).times (most - least)]

def branchGrowths (direction : Direction) : Regex → List Growth
  | empty | look _ => [.plain]
  | literal text => [Growth.plain.times (text.foldl (fun count c => count + c.utf8Size) 0)]
  | set chars => [setGrowth direction chars]
  | group _ body =>
    let inner := joinedGrowth direction body (branchGrowths direction body)
    [if direction = .forward then Growth.all [.plain, inner, .plain] else inner]
  | concat first rest =>
    let first := joinedGrowth direction first (branchGrowths direction first)
    let rest := joinedGrowth direction rest (branchGrowths direction rest)
    [if direction = .forward then first.andThen rest else rest.andThen first]
  | alternate first rest =>
    joinedGrowth direction first (branchGrowths direction first) :: branchGrowths direction rest
  | repeated body least most _ =>
    let mayBeEmpty := !(leastLength? body).any (0 < ·)
    let inner := joinedGrowth direction body (branchGrowths direction body)
    [repetitionGrowth inner mayBeEmpty least most]

def growth (direction : Direction) (regex : Regex) : Growth :=
  joinedGrowth direction regex (branchGrowths direction regex)

def isAnchored (direction : Direction) : Regex → Bool
  | look condition => condition = if direction = .forward then .textStart else .textEnd
  | group _ body => isAnchored direction body
  | concat first rest =>
    match direction with
    | .forward => isAnchored direction first || (isAlwaysEmpty first && isAnchored direction rest)
    | .backward => isAnchored direction rest || (isAlwaysEmpty rest && isAnchored direction first)
  | alternate first rest => isAnchored direction first && isAnchored direction rest
  | repeated body least _ _ => 0 < least && isAnchored direction body
  | _ => false

/-- The whole automaton: in front a loop over any bytes, where a match may begin anywhere, and the
states that mark the ends of a match. -/
def automatonGrowth (direction : Direction) (regex : Regex) : Growth :=
  let entry := if isAnchored direction regex then [.plain] else [.state 8, .plain, .state 8]
  let marked :=
    if direction = .forward then [.plain, growth direction regex, .plain]
    else [growth direction regex]
  Growth.all (entry ++ marked ++ [.plain])

def fitsAutomata (regex : Regex) : Bool :=
  (automatonGrowth .forward regex {}).isSome && (automatonGrowth .backward regex {}).isSome

end Weave.Regex
