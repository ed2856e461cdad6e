import Weave.Toml.Scalar

/-! Reading a TOML document: lines of headers, keys with values, and comments. -/

namespace Weave.Toml

def skipComment : List Char → List Char
  | '#' :: rest => rest.dropWhile isTextChar
  | text => text

def isBareKeyChar (c : Char) : Bool := c.isAlphanum || c = '_' || c = '-'

def simpleKey? (text : List Char) : Option (String × List Char) :=
  match text with
  | '"' :: _ | '\'' :: _ => lineString? text
  | _ =>
    let name := text.takeWhile isBareKeyChar
    if name.isEmpty then none else some (String.ofList name, text.dropWhile isBareKeyChar)

def key? : Nat → List Char → Option (List String × List Char)
  | 0, _ => none
  | bound + 1, text => do
    let (first, rest) ← simpleKey? (skipSpace text)
    match skipSpace rest with
    | '.' :: rest => do
      let (more, rest) ← key? bound rest
      pure (first :: more, rest)
    | rest => pure ([first], rest)

def splitPath? (path : List String) : Option (List String × String) :=
  path.getLast?.map fun last => (path.dropLast, last)

def depthLimit : Nat := 80

def path? (text : List Char) : Option (List String × String × List Char) := do
  let (path, rest) ← key? (text.length + 1) text
  let (parents, last) ← splitPath? path
  if path.length < depthLimit then pure (parents, last, rest) else none

def skipFiller : Nat → List Char → List Char
  | 0, text => text
  | bound + 1, text =>
    match lineBreak? (skipComment (skipSpace text)) with
    | some rest => skipFiller bound rest
    | none => skipComment (skipSpace text)

mutual

/-- A value. `depth` is the nesting that is still allowed, `bound` the steps: at most two per
character. -/
def value? : (bound depth : Nat) → List Char → Option (Node × List Char)
  | 0, _, _ => none
  | bound + 1, depth, text =>
    match text with
    | '"' :: _ | '\'' :: _ => (string? text).map fun (content, rest) => (.string content, rest)
    | '[' :: rest =>
      match depth with
      | 0 => none
      | depth + 1 => (items? bound depth rest).map fun (items, rest) => (.array items, rest)
    | '\x7b' :: rest =>
      match depth with
      | 0 => none
      | depth + 1 =>
        match skipSpace rest with
        | '\x7d' :: rest => some (.table .inline [], rest)
        | rest =>
          (pairs? bound depth [] rest).map fun (entries, rest) => (.table .inline entries, rest)
    | 't' :: 'r' :: 'u' :: 'e' :: rest => some (.boolean true, rest)
    | 'f' :: 'a' :: 'l' :: 's' :: 'e' :: rest => some (.boolean false, rest)
    | 'i' :: 'n' :: 'f' :: rest => some (.float, rest)
    | 'n' :: 'a' :: 'n' :: rest => some (.float, rest)
    | _ => numeric? text

def items? : (bound depth : Nat) → List Char → Option (List Node × List Char)
  | 0, _, _ => none
  | bound + 1, depth, text =>
    match skipFiller text.length text with
    | ']' :: rest => some ([], rest)
    | text => do
      let (item, rest) ← value? bound depth text
      match skipFiller rest.length rest with
      | ',' :: rest => do
        let (items, rest) ← items? bound depth rest
        pure (item :: items, rest)
      | ']' :: rest => pure ([item], rest)
      | _ => none

def pairs? : (bound depth : Nat) → Entries → List Char → Option (Entries × List Char)
  | 0, _, _, _ => none
  | bound + 1, depth, entries, text => do
    let (parents, last, rest) ← path? text
    match rest with
    | '=' :: rest => do
      let (value, rest) ← value? bound depth (skipSpace rest)
      let entries ← entries.assign parents last value .written
      match skipSpace rest with
      | ',' :: rest => pairs? bound depth entries rest
      | '\x7d' :: rest => pure (entries, rest)
      | _ => none
    | _ => none

end

structure Progress where
  entries : Entries := []
  table : List String := []

def line? (progress : Progress) (text : List Char) : Option (Progress × List Char) :=
  match skipSpace text with
  | '[' :: '[' :: rest => do
    let (parents, last, rest) ← path? rest
    match rest with
    | ']' :: ']' :: rest => do
      let entries ← progress.entries.openElement parents last
      pure (⟨entries, parents ++ [last]⟩, rest)
    | _ => none
  | '[' :: rest => do
    let (parents, last, rest) ← path? rest
    match rest with
    | ']' :: rest => do
      let entries ← progress.entries.openTable parents last
      pure (⟨entries, parents ++ [last]⟩, rest)
    | _ => none
  | [] => some (progress, [])
  | c :: rest =>
    if c = '#' || c = '\n' || c = '\r' then some (progress, c :: rest)
    else do
      let (parents, last, rest) ← path? (c :: rest)
      match rest with
      | '=' :: rest => do
        let (value, rest) ← value? (2 * rest.length + 2) (depthLimit - 1) (skipSpace rest)
        let entries ← progress.entries.inTable (Entries.assign parents last value) progress.table
        pure ({ progress with entries }, rest)
      | _ => none

def lines? : Nat → Progress → List Char → Option Entries
  | 0, _, _ => none
  | bound + 1, progress, text => do
    let (progress, rest) ← line? progress text
    match skipComment (skipSpace rest) with
    | [] => pure progress.entries
    | rest => do
      let rest ← lineBreak? rest
      lines? bound progress rest

def dropMark : List Char → List Char
  | c :: rest => if c.toNat = 0xFEFF then rest else c :: rest
  | [] => []

def document? (content : String) : Option Entries :=
  let text := dropMark content.toList
  lines? (text.length + 1) {} text

end Weave.Toml
