import Weave.Text.Charset

/-! The UTF-8 forms of a set of characters, as sequences of byte ranges: a sequence stands for every
choice of one byte from each of its ranges. -/

namespace Weave.Text

abbrev ByteRange := Nat × Nat

def encodedLengths : List (Nat × Nat) :=
  [(0, 0x7f), (0x80, 0x7ff), (0x800, 0xd7ff), (0xe000, 0xffff), (0x10000, Charset.limit)]

/-- Cuts a range at blocks of a size: what stands before the first whole block, the whole blocks,
and what stands behind the last of them. -/
def splitAtBlocks (size : Nat) (range : Nat × Nat) : List (Nat × Nat) :=
  let (low, high) := range
  if low / size = high / size then [(low, high)]
  else
    let first := if low % size = 0 then low else (low / size + 1) * size
    let last := if high % size + 1 = size then high + 1 else high / size * size
    (if low < first then [(low, first - 1)] else []) ++
      (if first < last then [(first, last - 1)] else []) ++
      if last ≤ high then [(last, high)] else []

def splitAtPrefixes (range : Nat × Nat) : List (Nat × Nat) :=
  if range.2 < 0x80 then [range]
  else [0x40, 0x1000, 0x40000].foldl (fun parts size => parts.flatMap (splitAtBlocks size)) [range]

def utf8Bytes (point : Nat) : List Nat :=
  (String.utf8EncodeChar (Char.ofNat point)).map UInt8.toNat

def byteSequencesOf (range : Nat × Nat) : List (List ByteRange) :=
  (encodedLengths.filterMap (Charset.overlap? range)).flatMap fun part =>
    (splitAtPrefixes part).map fun (low, high) => (utf8Bytes low).zip (utf8Bytes high)

def Charset.byteSequences (set : Charset) : List (List ByteRange) :=
  set.ranges.flatMap byteSequencesOf

end Weave.Text
