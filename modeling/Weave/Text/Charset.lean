/-! Sets of characters, kept as ranges of code points. -/

namespace Weave.Text

def isAscii (c : Char) : Bool := c.toNat < 0x80

/-- The ranges ascend, and no range begins right behind the end of the one before it. -/
structure Charset where
  ranges : List (Nat × Nat)
deriving DecidableEq, Repr

namespace Charset

def limit : Nat := 0x10ffff

def empty : Charset := ⟨[]⟩

def range (low high : Nat) : Charset := ⟨[(low, high)]⟩

def single (c : Char) : Charset := range c.toNat c.toNat

def all : Charset := range 0 limit

def isEmpty (set : Charset) : Bool := set.ranges.isEmpty

def containsPoint (set : Charset) (point : Nat) : Bool :=
  set.ranges.any fun (low, high) => low ≤ point && point ≤ high

def contains (set : Charset) (c : Char) : Bool := set.containsPoint c.toNat

def isAscii (set : Charset) : Bool := set.ranges.all (·.2 < 0x80)

def only? (set : Charset) : Option Char :=
  match set.ranges with
  | [(low, high)] => if low = high then some (Char.ofNat low) else none
  | _ => none

def insertRange : Nat × Nat → List (Nat × Nat) → List (Nat × Nat)
  | new, [] => [new]
  | (low, high), (first, last) :: rest =>
    if high + 1 < first then (low, high) :: (first, last) :: rest
    else if last + 1 < low then (first, last) :: insertRange (low, high) rest
    else insertRange (min low first, max high last) rest

def insert (set : Charset) (low high : Nat) : Charset := ⟨insertRange (low, high) set.ranges⟩

def union (left right : Charset) : Charset :=
  ⟨right.ranges.foldl (fun ranges range => insertRange range ranges) left.ranges⟩

def unionAll (sets : List Charset) : Charset := sets.foldl union empty

def overlap? (left right : Nat × Nat) : Option (Nat × Nat) :=
  let low := max left.1 right.1
  let high := min left.2 right.2
  if low ≤ high then some (low, high) else none

/-- The common parts of two ascending lists; of the first ranges, the one that ends first is done
with. The bound is the number of ranges. -/
def commonRanges : Nat → List (Nat × Nat) → List (Nat × Nat) → List (Nat × Nat)
  | bound + 1, range :: left, other :: right =>
    let later :=
      if range.2 ≤ other.2 then commonRanges bound left (other :: right)
      else commonRanges bound (range :: left) right
    (overlap? range other).toList ++ later
  | _, _, _ => []

def inter (left right : Charset) : Charset :=
  ⟨commonRanges (left.ranges.length + right.ranges.length) left.ranges right.ranges⟩

/-- The character before a code point and the one behind it; surrogates are no characters. -/
def before (point : Nat) : Nat := if point = 0xe000 then 0xd7ff else point - 1

def after (point : Nat) : Nat := if point = 0xd7ff then 0xe000 else point + 1

def cut (removed range : Nat × Nat) : List (Nat × Nat) :=
  if (overlap? range removed).isNone then [range]
  else
    (if range.1 < removed.1 then [(range.1, before removed.1)] else []) ++
      if removed.2 < range.2 then [(after removed.2, range.2)] else []

def diff (left right : Charset) : Charset :=
  ⟨right.ranges.foldl (fun ranges removed => ranges.flatMap (cut removed)) left.ranges⟩

def symmDiff (left right : Charset) : Charset := (left.union right).diff (left.inter right)

/-- The range between the ends of two neighbours. The gap of the surrogates holds no character; it
is closed by the two characters next to it. -/
def gap (last first : Nat) : Nat × Nat :=
  (min (after last) (before first), max (after last) (before first))

def gapsAfter (last : Nat) : List (Nat × Nat) → List (Nat × Nat)
  | [] => if last < limit then [(after last, limit)] else []
  | (first, next) :: rest => gap last first :: gapsAfter next rest

def complement (set : Charset) : Charset :=
  match set.ranges with
  | [] => all
  | (first, last) :: rest =>
    ⟨(if 0 < first then [(0, before first)] else []) ++ gapsAfter last rest⟩

/-! ### Written sets -/

/-- Reads ranges written as `41-5a`, with blanks between them; a character stands for itself alone.
`low` is set behind a hyphen. -/
def readRanges (low : Option Nat) (number : Option Nat) : List Char → List (Nat × Nat)
  | [] => (number.map fun high => (low.getD high, high)).toList
  | c :: rest =>
    if c = '-' then readRanges number none rest
    else if c = ' ' || c = '\n' then
      (number.map fun high => (low.getD high, high)).toList ++ readRanges none none rest
    else
      let digit := if c.isDigit then c.toNat - 48 else c.toNat - 87
      readRanges low (some (16 * number.getD 0 + digit)) rest

def ofText (text : String) : Charset := ⟨readRanges none none text.toList⟩

end Charset

end Weave.Text
