import Weave.Toml.Value

/-! The single values of TOML: strings in their four forms, integers, floats, booleans and times.
Numbers that fit no 64-bit integer, and floats beyond the largest finite one, are refused. -/

namespace Weave.Toml

abbrev Reader (α : Type) := List Char → Option (α × List Char)

def isSpace (c : Char) : Bool := c = ' ' || c = '\t'

def skipSpace (text : List Char) : List Char := text.dropWhile isSpace

def lineBreak? : List Char → Option (List Char)
  | '\n' :: rest => some rest
  | '\r' :: '\n' :: rest => some rest
  | _ => none

/-- Characters that may stand in text: a tab, and all from the blank on except the deletion sign. -/
def isTextChar (c : Char) : Bool := c = '\t' || (0x20 ≤ c.toNat && c.toNat ≠ 0x7f)

/-! ### Strings -/

def hexDigit? (c : Char) : Option Nat :=
  if c.isDigit then some (c.toNat - 48)
  else if 'a' ≤ c && c ≤ 'f' then some (c.toNat - 87)
  else if 'A' ≤ c && c ≤ 'F' then some (c.toNat - 55)
  else none

def codePoint? : Nat → Nat → Reader Char
  | 0, value, text => if value.isValidChar then some (Char.ofNat value, text) else none
  | count + 1, value, c :: rest =>
    (hexDigit? c).bind fun digit => codePoint? count (16 * value + digit) rest
  | _ + 1, _, [] => none

def escaped? : Reader Char
  | 'b' :: rest => some ('\x08', rest)
  | 't' :: rest => some ('\t', rest)
  | 'n' :: rest => some ('\n', rest)
  | 'f' :: rest => some ('\x0c', rest)
  | 'r' :: rest => some ('\r', rest)
  | '"' :: rest => some ('"', rest)
  | '\\' :: rest => some ('\\', rest)
  | 'u' :: rest => codePoint? 4 0 rest
  | 'U' :: rest => codePoint? 8 0 rest
  | _ => none

def basicRest? : Nat → List Char → Reader String
  | 0, _, _ => none
  | bound + 1, sofar, text =>
    match text with
    | '"' :: rest => some (String.ofList sofar.reverse, rest)
    | '\\' :: rest => (escaped? rest).bind fun (c, rest) => basicRest? bound (c :: sofar) rest
    | c :: rest => if isTextChar c then basicRest? bound (c :: sofar) rest else none
    | [] => none

def literalRest? (sofar : List Char) : Reader String
  | '\'' :: rest => some (String.ofList sofar.reverse, rest)
  | c :: rest => if isTextChar c then literalRest? (c :: sofar) rest else none
  | [] => none

def closing? (quote : Char) (text : List Char) : Option (Nat × List Char) :=
  let quotes := (text.takeWhile (· = quote)).length
  if quotes < 3 then none
  else
    let own := min (quotes - 3) 2
    some (own, text.drop (own + 3))

/-- The rest of a string of several lines. With escapes, a backslash before a line break takes the
break and all blanks and breaks after it away. -/
def multilineRest? (quote : Char) (escapes : Bool) : Nat → List Char → Reader String
  | 0, _, _ => none
  | bound + 1, sofar, text =>
    match closing? quote text with
    | some (own, rest) => some (String.ofList (List.replicate own quote ++ sofar).reverse, rest)
    | none =>
      match text with
      | [] => none
      | '\n' :: rest => multilineRest? quote escapes bound ('\n' :: sofar) rest
      | '\r' :: '\n' :: rest => multilineRest? quote escapes bound ('\n' :: sofar) rest
      | c :: rest =>
        if escapes && c = '\\' then
          match lineBreak? (skipSpace rest) with
          | some rest => multilineRest? quote escapes bound sofar (skipBreaks bound rest)
          | none =>
            (escaped? rest).bind fun (c, rest) =>
              multilineRest? quote escapes bound (c :: sofar) rest
        else if isTextChar c then multilineRest? quote escapes bound (c :: sofar) rest
        else none
where
  skipBreaks : Nat → List Char → List Char
    | 0, text => text
    | bound + 1, text =>
      match lineBreak? (skipSpace text) with
      | some rest => skipBreaks bound rest
      | none => skipSpace text

def dropFirstBreak (text : List Char) : List Char := (lineBreak? text).getD text

def string? : Reader String
  | '"' :: '"' :: '"' :: rest => multilineRest? '"' true (rest.length + 1) [] (dropFirstBreak rest)
  | '\'' :: '\'' :: '\'' :: rest =>
    multilineRest? '\'' false (rest.length + 1) [] (dropFirstBreak rest)
  | '"' :: rest => basicRest? (rest.length + 1) [] rest
  | '\'' :: rest => literalRest? [] rest
  | _ => none

def lineString? : Reader String
  | '"' :: rest => basicRest? (rest.length + 1) [] rest
  | '\'' :: rest => literalRest? [] rest
  | _ => none

/-! ### Numbers -/

def digitRun (digit? : Char → Option Nat) : List Char → Option (List Nat × List Char)
  | [] => none
  | c :: rest =>
    (digit? c).map fun first => more first rest
where
  more (digit : Nat) : List Char → List Nat × List Char
    | '_' :: c :: rest =>
      match digit? c with
      | some next => let (digits, rest) := more next rest; (digit :: digits, rest)
      | none => ([digit], '_' :: c :: rest)
    | c :: rest =>
      match digit? c with
      | some next => let (digits, rest) := more next rest; (digit :: digits, rest)
      | none => ([digit], c :: rest)
    | [] => ([digit], [])

def decimalDigit? (c : Char) : Option Nat := if c.isDigit then some (c.toNat - 48) else none

def baseDigit? (base : Nat) (c : Char) : Option Nat := (hexDigit? c).filter (· < base)

def number (base : Nat) (digits : List Nat) : Nat := digits.foldl (fun n d => base * n + d) 0

def isInt64 (n : Int) : Bool := Int64.minValue.toInt ≤ n && n ≤ Int64.maxValue.toInt

def sign : List Char → Bool × List Char
  | '+' :: rest => (false, rest)
  | '-' :: rest => (true, rest)
  | rest => (false, rest)

def wholePart? (text : List Char) : Option (List Nat × List Char) :=
  match text with
  | '0' :: rest => some ([0], rest)
  | _ => digitRun decimalDigit? text

def integer? (text : List Char) : Option (Node × List Char) :=
  let based (base : Nat) (rest : List Char) : Option (Node × List Char) := do
    let (digits, rest) ← digitRun (baseDigit? base) rest
    let value : Int := number base digits
    if isInt64 value then pure (.integer value, rest) else none
  match text with
  | '0' :: 'x' :: rest => based 16 rest
  | '0' :: 'o' :: rest => based 8 rest
  | '0' :: 'b' :: rest => based 2 rest
  | _ => do
    let (negative, rest) := sign text
    let (digits, rest) ← wholePart? rest
    let value : Int := number 10 digits
    let value := if negative then -value else value
    if isInt64 value then pure (.integer value, rest) else none

/-- Whether digits times a power of ten round to a value beyond the largest finite float. -/
def overflowsFloat (digits : List Nat) (exponent : Int) : Bool :=
  let significant := digits.dropWhile (· = 0)
  let magnitude := exponent + significant.length
  if significant.isEmpty || magnitude < 300 then false
  else if 320 < magnitude then true
  else
    let limit := Nat.pow 2 1024 - Nat.pow 2 970
    let mantissa := number 10 significant
    if 0 ≤ exponent then limit ≤ mantissa * Nat.pow 10 exponent.toNat
    else limit * Nat.pow 10 (-exponent).toNat ≤ mantissa

def exponentPart? : List Char → Option (Int × List Char)
  | c :: rest =>
    if c = 'e' || c = 'E' then do
      let (negative, rest) := sign rest
      let (digits, rest) ← digitRun decimalDigit? rest
      let value : Int := number 10 digits
      pure (if negative then -value else value, rest)
    else none
  | [] => none

def float? (text : List Char) : Option (Node × List Char) :=
  let (negative, rest) := sign text
  match rest with
  | 'i' :: 'n' :: 'f' :: rest => some (.float, rest)
  | 'n' :: 'a' :: 'n' :: rest => some (.float, rest)
  | _ => do
    let (whole, rest) ← wholePart? rest
    let (fraction, exponent, rest) ←
      match rest with
      | '.' :: rest => do
        let (fraction, rest) ← digitRun decimalDigit? rest
        match exponentPart? rest with
        | some (exponent, rest) => pure (fraction, exponent, rest)
        | none =>
          match rest with
          | 'e' :: _ | 'E' :: _ => none
          | _ => pure (fraction, 0, rest)
      | rest => do
        let (exponent, rest) ← exponentPart? rest
        pure ([], exponent, rest)
    if !negative && overflowsFloat (whole ++ fraction) (exponent - fraction.length) then none
    else pure (.float, rest)

/-! ### Times -/

def fixedDigits? (count : Nat) (text : List Char) : Option (Nat × List Char) :=
  let digits := (text.take count).filterMap decimalDigit?
  if digits.length = count then some (number 10 digits, text.drop count) else none

def daysIn (year month : Nat) : Nat :=
  if month = 2 then
    if (year % 4 = 0 && year % 100 ≠ 0) || year % 400 = 0 then 29 else 28
  else if month ∈ [4, 6, 9, 11] then 30 else 31

def date? (text : List Char) : Option (List Char) := do
  let (year, rest) ← fixedDigits? 4 text
  match rest with
  | '-' :: rest => do
    let (month, rest) ← fixedDigits? 2 rest
    match rest with
    | '-' :: rest => do
      let (day, rest) ← fixedDigits? 2 rest
      if 1 ≤ month && month ≤ 12 && 1 ≤ day && day ≤ daysIn year month then pure rest else none
    | _ => none
  | _ => none

def clock? (text : List Char) : Option (List Char) := do
  let (hour, rest) ← fixedDigits? 2 text
  match rest with
  | ':' :: rest => do
    let (minute, rest) ← fixedDigits? 2 rest
    match rest with
    | ':' :: rest => do
      let (second, rest) ← fixedDigits? 2 rest
      if hour ≤ 23 && minute ≤ 59 && second ≤ 60 then
        match rest with
        | '.' :: c :: more => if c.isDigit then pure (more.dropWhile Char.isDigit) else pure rest
        | _ => pure rest
      else none
    | _ => none
  | _ => none

def offset? : List Char → Option (List Char)
  | 'Z' :: rest | 'z' :: rest => some rest
  | c :: rest =>
    if c = '+' || c = '-' then do
      let (hour, rest) ← fixedDigits? 2 rest
      match rest with
      | ':' :: rest => do
        let (minute, rest) ← fixedDigits? 2 rest
        if hour ≤ 23 && minute ≤ 59 then pure rest else none
      | _ => none
    else none
  | [] => none

def datetime? (text : List Char) : Option (Node × List Char) :=
  match date? text with
  | some rest =>
    let timed : Option (List Char) :=
      match rest with
      | c :: after =>
        if c = 'T' || c = 't' || c = ' ' then
          (clock? after).map fun rest => (offset? rest).getD rest
        else none
      | [] => none
    some (.datetime, timed.getD rest)
  | none => (clock? text).map fun rest => (.datetime, rest)

def numeric? (text : List Char) : Option (Node × List Char) :=
  datetime? text <|> float? text <|> integer? text

end Weave.Toml
