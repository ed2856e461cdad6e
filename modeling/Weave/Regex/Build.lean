import Weave.Regex.Basic

/-! Building regular expressions in a normal form. A set of one character is a literal, neighbouring
literals are one literal, sequences and choices are flat, a choice between characters is a set, and
what all branches of a choice begin with is written once. -/

namespace Weave.Regex

open Text

def isAlwaysEmpty : Regex → Bool
  | empty | look _ => true
  | literal _ | set _ => false
  | group _ body | repeated body _ _ _ => isAlwaysEmpty body
  | concat first rest | alternate first rest => isAlwaysEmpty first && isAlwaysEmpty rest

def leastLength? : Regex → Option Nat
  | empty | look _ => some 0
  | literal text => some text.length
  | set chars => if chars.isEmpty then none else some 1
  | group _ body => leastLength? body
  | repeated body least _ _ => (leastLength? body).map (· * least)
  | concat first rest => return (← leastLength? first) + (← leastLength? rest)
  | alternate first rest => return min (← leastLength? first) (← leastLength? rest)

def ofSet (chars : Charset) : Regex :=
  match chars.only? with
  | some c => literal [c]
  | none => set chars

/-- A repetition. More than one round of what is always empty changes nothing. -/
def times (body : Regex) (least : Nat) (most : Option Nat) (greedy : Bool) : Regex :=
  let once := body.isAlwaysEmpty
  let least := if once then min least 1 else least
  let most := if once then some ((most.map (min · 1)).getD 1) else most
  if least = 0 && most = some 0 then empty
  else if least = 1 && most = some 1 then body
  else repeated body least most greedy

/-! ### Sequences -/

def factors : Regex → List Regex
  | empty => []
  | concat first rest => first :: factors rest
  | regex => [regex]

def mergeLiterals : List Regex → List Regex
  | [] => []
  | literal text :: rest =>
    match mergeLiterals rest with
    | literal more :: others => literal (text ++ more) :: others
    | others => literal text :: others
  | regex :: rest => regex :: mergeLiterals rest

def ofFactors : List Regex → Regex
  | [] => empty
  | [regex] => regex
  | regex :: rest => concat regex (ofFactors rest)

def sequenceOf (parts : List Regex) : Regex := ofFactors (mergeLiterals (parts.flatMap factors))

/-! ### Choices -/

def branches : Regex → List Regex
  | alternate first rest => first :: branches rest
  | regex => [regex]

def ofBranches : List Regex → Regex
  | [] => set Charset.empty
  | [regex] => regex
  | regex :: rest => alternate regex (ofBranches rest)

def onlyChar? : Regex → Option Charset
  | literal [c] => some (Charset.single c)
  | _ => none

def onlySet? : Regex → Option Charset
  | set chars => some chars
  | _ => none

def choiceAsSet? (choices : List Regex) : Option Charset :=
  ((choices.mapM onlyChar?).or (choices.mapM onlySet?)).map Charset.unionAll

def commonPrefix : List Regex → List Regex → List Regex
  | a :: left, b :: right => if a = b then a :: commonPrefix left right else []
  | _, _ => []

def sharedPrefix : List (List Regex) → List Regex
  | [] => []
  | first :: rest =>
    if (first :: rest).all (2 ≤ ·.length) then rest.foldl commonPrefix first else []

def nodes : Regex → Nat
  | group _ body | repeated body _ _ _ => nodes body + 1
  | concat first rest | alternate first rest => nodes first + nodes rest + 1
  | _ => 1

def choiceWithin : Nat → List Regex → Regex
  | bound, choices =>
    let choices := choices.flatMap branches
    match choices with
    | [] | [_] => ofBranches choices
    | _ =>
      match choiceAsSet? choices, bound with
      | some chars, _ => ofSet chars
      | none, 0 => ofBranches choices
      | none, bound + 1 =>
        let sequences := choices.map factors
        let shared := sharedPrefix sequences
        if shared.isEmpty then ofBranches choices
        else
          let rests := sequences.map fun parts => sequenceOf (parts.drop shared.length)
          sequenceOf (shared ++ [choiceWithin bound rests])

def choiceOf (choices : List Regex) : Regex :=
  choiceWithin (choices.foldl (fun count regex => count + regex.nodes) 0) choices

end Weave.Regex
