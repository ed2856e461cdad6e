import Weave.Text.Charset

/-! Piecewise constant functions on code points, kept as the points where the value changes. -/

namespace Weave.Text

/-- The entry `(start, value)` gives the value from `start` up to the next entry; starts ascend. -/
structure Breaks (α : Type) where
  entries : Array (Nat × α)

namespace Breaks

def search {α : Type} (entries : Array (Nat × α)) (point : Nat) : Nat → Nat → Nat → Option α
  | 0, low, _ => entries[low]?.map (·.2)
  | steps + 1, low, high =>
    if high ≤ low + 1 then entries[low]?.map (·.2)
    else
      let middle := (low + high) / 2
      match entries[middle]? with
      | some (start, _) =>
        if start ≤ point then search entries point steps middle high
        else search entries point steps low middle
      | none => none

def lookup? {α : Type} (table : Breaks α) (point : Nat) : Option α :=
  match table.entries[0]? with
  | some (start, _) =>
    if start ≤ point then search table.entries point table.entries.size 0 table.entries.size
    else none
  | none => none

def selectFrom {α : Type} (accepts : α → Bool) : List (Nat × α) → List (Nat × Nat)
  | [] => []
  | [(start, value)] => if accepts value then [(start, Charset.limit)] else []
  | (start, value) :: (next, other) :: rest =>
    let later := selectFrom accepts ((next, other) :: rest)
    if accepts value then
      match later with
      | (low, high) :: more =>
        if low = next then (start, high) :: more else (start, next - 1) :: later
      | [] => [(start, next - 1)]
    else later

def select {α : Type} (table : Breaks α) (accepts : α → Bool) : Charset :=
  ⟨selectFrom accepts table.entries.toList⟩

/-- Reads runs written as a name followed by a decimal length, one after another, from code
point zero on. -/
def readRuns (start : Nat) (name : List Char) (length : Nat) :
    List Char → Array (Nat × String) → Array (Nat × String)
  | [], entries => entries.push (start, String.ofList name.reverse)
  | c :: rest, entries =>
    if c.isDigit then readRuns start name (10 * length + (c.toNat - 48)) rest entries
    else if c = '\n' then readRuns start name length rest entries
    else if length = 0 then readRuns start (c :: name) 0 rest entries
    else
      readRuns (start + length) [c] 0 rest (entries.push (start, String.ofList name.reverse))

def ofRuns (text : String) : Breaks String := ⟨readRuns 0 [] 0 text.toList #[]⟩

end Breaks

end Weave.Text
