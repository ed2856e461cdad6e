import Weave.Declaration.Token
import Weave.Text.Alphabet
import Weave.Text.Blank
import Weave.Text.Quoted

/-! Reading tokens. Between them stand blanks and comments. A comment that documents something is a
token sequence of its own: the attribute that it is short for. -/

namespace Weave.Declaration.Token

open Text

/-! ### Blanks and comments -/

/-- Blanks between tokens; the two marks of writing direction are among them. -/
def isSpace (c : Char) : Bool := isBlank c || c = '\u200e' || c = '\u200f'

inductive Comment where
  | plain
  | doc (inner : Bool) (text : List Char)

/-- The text of a block comment behind its beginning, and what follows it. Inside, as many more
comments are open as the number says. -/
def blockComment? : Nat → List Char → Option (List Char × List Char)
  | inner, '/' :: '*' :: rest =>
    (blockComment? (inner + 1) rest).map fun (text, left) => ('/' :: '*' :: text, left)
  | 0, '*' :: '/' :: rest => some ([], rest)
  | inner + 1, '*' :: '/' :: rest =>
    (blockComment? inner rest).map fun (text, left) => ('*' :: '/' :: text, left)
  | inner, c :: rest => (blockComment? inner rest).map fun (text, left) => (c :: text, left)
  | _, [] => none

def restOfLine : List Char → List Char × List Char
  | [] => ([], [])
  | '\n' :: rest => ([], '\n' :: rest)
  | '\r' :: '\n' :: rest => ([], '\n' :: rest)
  | c :: rest =>
    let (line, left) := restOfLine rest
    (c :: line, left)

/-- The comment at the front, behind two slashes or between slashes with stars. A third slash or
star makes it document what follows, a fourth does not; an exclamation mark makes it document what
it stands in. -/
def comment? : List Char → Option (Comment × List Char)
  | '/' :: '/' :: rest =>
    let (line, left) := restOfLine rest
    match line with
    | '/' :: '/' :: _ => some (.plain, left)
    | '/' :: text => some (.doc false text, left)
    | '!' :: text => some (.doc true text, left)
    | _ => some (.plain, left)
  | '/' :: '*' :: rest =>
    (blockComment? 0 rest).map fun (text, left) =>
      if rest.take 2 = ['*', '*'] then (.plain, left)
      else
        match text with
        | '*' :: text => (.doc false text, left)
        | '!' :: text => (.doc true text, left)
        | _ => (.plain, left)
  | _ => none

/-- The text of a comment between quotes. A digit must not follow the short escape of the character
with number zero, so that one is then written at length. -/
def docText : List Char → List Char
  | [] => []
  | '\x00' :: c :: rest =>
    (if '0' ≤ c && c ≤ '7' then "\\x00" else "\\0").toList ++ docText (c :: rest)
  | c :: rest => (escapeChar c).toList ++ docText rest

def Comment.tokens : Comment → List Token
  | plain => []
  | doc inner text =>
    let value := literal (String.ofList ('"' :: docText text ++ ['"']))
    single '#' :: (if inner then [single '!'] else []) ++
      [group .square [word "doc", single '=', value]]

/-! ### Literals -/

/-- A name begins with a letter or an underscore. Code points that are not assigned yet count as
letters. -/
def beginsName (c : Char) : Bool := c = '_' || startsName c || category c = "Cn"

def staysInName (c : Char) : Bool := continuesName c || category c = "Cn"

def name? : List Char → Option (List Char × List Char)
  | c :: rest =>
    if beginsName c then
      some (c :: rest.takeWhile staysInName, rest.dropWhile staysInName)
    else none
  | [] => none

/-- A name right behind a literal is a part of it. -/
def withSuffix (text rest : List Char) : List Char × List Char :=
  match name? rest with
  | some (suffix, left) => (text ++ suffix, left)
  | none => (text, rest)

/-- The text up to the quote that closes a literal, the quote included; a backslash protects what
follows it. -/
def untilQuote? (quote : Char) : List Char → Option (List Char × List Char)
  | [] => none
  | '\\' :: c :: rest => (untilQuote? quote rest).map fun (text, left) => ('\\' :: c :: text, left)
  | c :: rest =>
    if c = quote then some ([c], rest)
    else (untilQuote? quote rest).map fun (text, left) => (c :: text, left)

def untilClosing? (closing : List Char) : List Char → Option (List Char × List Char)
  | [] => none
  | c :: rest =>
    if closing.isPrefixOf (c :: rest) then some (closing, rest.drop (closing.length - 1))
    else (untilClosing? closing rest).map fun (text, left) => (c :: text, left)

def quotedText? (plain : Bool) (text : List Char) : Option (List Char × List Char) :=
  let signs := if plain then text.takeWhile (· = '#') else []
  match text.drop signs.length with
  | '"' :: rest =>
    let body := if plain then untilClosing? ('"' :: signs) rest else untilQuote? '"' rest
    body.map fun (text, left) => (signs ++ '"' :: text, left)
  | _ => none

def stringLeads : List (List Char × Bool) :=
  [([], false), (['r'], true), (['b'], false), (['b', 'r'], true), (['c'], false),
    (['c', 'r'], true)]

def stringLiteral? (text : List Char) : Option (List Char × List Char) :=
  stringLeads.findSome? fun (lead, plain) =>
    if lead.isPrefixOf text then
      (quotedText? plain (text.drop lead.length)).map fun (body, left) => (lead ++ body, left)
    else none

def character? : List Char → Option (List Char × List Char)
  | '\'' :: '\\' :: rest =>
    (untilQuote? '\'' ('\\' :: rest)).map fun (text, left) => ('\'' :: text, left)
  | '\'' :: c :: '\'' :: rest => some (['\'', c, '\''], rest)
  | _ => none

def characterLiteral? : List Char → Option (List Char × List Char)
  | 'b' :: rest => (character? rest).map fun (text, left) => ('b' :: text, left)
  | text => character? text

def isNumeral (c : Char) : Bool := c.isDigit || c = '_'

def exponentDigits? (text : List Char) : Option (List Char × List Char) :=
  let blank := text.takeWhile (· = '_')
  let rest := text.drop blank.length
  let sign := (rest.take 1).filter fun c => c = '+' || c = '-'
  let digits := (rest.drop sign.length).takeWhile isNumeral
  if digits.any Char.isDigit then
    some (blank ++ sign ++ digits, rest.drop (sign.length + digits.length))
  else none

/-- A number with a fraction or an exponent. A point in front of a name or of another point does not
belong to the number. -/
def fractional? (text : List Char) : Option (List Char × List Char) :=
  let whole := text.takeWhile isNumeral
  match text.drop whole.length with
  | '.' :: rest =>
    if rest.head? = some '.' || (name? rest).isSome then none
    else
      let digits := rest.takeWhile isNumeral
      let mantissa := whole ++ '.' :: digits
      let rest := rest.drop digits.length
      match rest with
      | e :: more =>
        if e = 'e' || e = 'E' then
          match exponentDigits? more with
          | some (exponent, left) => some (mantissa ++ e :: exponent, left)
          | none => some (mantissa, rest)
        else some (mantissa, rest)
      | [] => some (mantissa, [])
  | e :: rest =>
    if e = 'e' || e = 'E' then
      (exponentDigits? rest).map fun (exponent, left) => (whole ++ e :: exponent, left)
    else none
  | [] => none

def number? (text : List Char) : Option (List Char × List Char) :=
  if text.head?.any Char.isDigit then
    match fractional? text with
    | some (digits, rest) => some (withSuffix digits rest)
    | none => some (text.takeWhile staysInName, text.dropWhile staysInName)
  else none

def literal? (text : List Char) : Option (Token × List Char) :=
  let quoted := ((stringLiteral? text).or (characterLiteral? text)).map fun (text, rest) =>
    withSuffix text rest
  (quoted.or (number? text)).map fun (text, rest) => (literal (String.ofList text), rest)

/-! ### Tokens -/

def isMark (c : Char) : Bool := "~!@#$%^&*-=+|;:,<.>/?'".toList.contains c

def startsMark : List Char → Bool
  | '/' :: '/' :: _ | '/' :: '*' :: _ => false
  | c :: _ => isMark c
  | [] => false

def anyName? : List Char → Option (List Char × List Char)
  | 'r' :: '#' :: rest => (name? rest).map fun (name, left) => ('r' :: '#' :: name, left)
  | text => name? text

def first? (text : List Char) : Option (Token × List Char) :=
  match literal? text with
  | some found => some found
  | none =>
    match text with
    | '\'' :: rest =>
      (anyName? rest).map fun (name, left) => (lifetime (String.ofList ('\'' :: name)), left)
    | c :: rest =>
      if startsMark (c :: rest) then some (mark c (startsMark rest), rest)
      else (anyName? (c :: rest)).map fun (name, left) => (word (String.ofList name), left)
    | [] => none

/-- Tokens up to the end or to a closing bracket. The bound exceeds the number of characters. -/
def readMany : Nat → List Char → Option (List Token × List Char)
  | 0, _ => none
  | _ + 1, [] => some ([], [])
  | bound + 1, c :: rest =>
    if isSpace c then readMany bound rest
    else if Delimiter.all.any (·.closing == c) then some ([], c :: rest)
    else
      match Delimiter.ofOpening? c, comment? (c :: rest) with
      | some delimiter, _ =>
        match readMany bound rest with
        | some (content, close :: rest) =>
          if close = delimiter.closing then
            (readMany bound rest).map fun (more, left) => (group delimiter content :: more, left)
          else none
        | _ => none
      | none, some (comment, rest) =>
        (readMany bound rest).map fun (more, left) => (comment.tokens ++ more, left)
      | none, none =>
        match first? (c :: rest) with
        | some (token, rest) =>
          (readMany bound rest).map fun (more, left) => (token :: more, left)
        | none => none

def withoutByteOrderMark : List Char → List Char
  | '\ufeff' :: rest => rest
  | text => text

def readAll? (text : String) : Option (List Token) :=
  match readMany (text.length + 1) (withoutByteOrderMark text.toList) with
  | some (tokens, []) => some tokens
  | _ => none

end Weave.Declaration.Token
