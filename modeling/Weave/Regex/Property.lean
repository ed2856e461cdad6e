import Weave.Regex.Segment
import Weave.Text.Script

/-! The sets of characters that a pattern can name: yes-or-no properties, general categories,
scripts, ages, roles in segments, and the ASCII classes of bracketed sets. -/

namespace Weave.Regex.Property

open Text

/-! ### Names

Names are compared without case, spaces, hyphens and underscores, and without `is` in front. -/

def plain (name : List Char) : String :=
  String.ofList <|
    (name.filter fun c => isAscii c && !(c = ' ' || c = '_' || c = '-')).map Char.toLower

/-- The form under which names are compared. The abbreviation `isc` keeps its start. -/
def canonical (name : String) : String :=
  match name.toList with
  | first :: second :: rest =>
    if first.toLower = 'i' && second.toLower = 's' then
      let short := plain rest
      if short = "c" then "isc" else short
    else plain (first :: second :: rest)
  | chars => plain chars

def categoryNames : List (String × List String) :=
  [("c", ["Cc", "Cf", "Cn", "Co", "Cs"]), ("other", ["Cc", "Cf", "Cn", "Co", "Cs"]),
   ("cc", ["Cc"]), ("control", ["Cc"]), ("cntrl", ["Cc"]), ("cf", ["Cf"]), ("format", ["Cf"]),
   ("cn", ["Cn"]), ("unassigned", ["Cn"]), ("co", ["Co"]), ("privateuse", ["Co"]),
   ("l", ["Ll", "Lm", "Lo", "Lt", "Lu"]),
   ("letter", ["Ll", "Lm", "Lo", "Lt", "Lu"]), ("lc", ["Lu", "Ll", "Lt"]),
   ("casedletter", ["Lu", "Ll", "Lt"]), ("ll", ["Ll"]), ("lowercaseletter", ["Ll"]),
   ("lm", ["Lm"]), ("modifierletter", ["Lm"]), ("lo", ["Lo"]), ("otherletter", ["Lo"]),
   ("lt", ["Lt"]), ("titlecaseletter", ["Lt"]), ("lu", ["Lu"]), ("uppercaseletter", ["Lu"]),
   ("m", ["Mc", "Me", "Mn"]), ("mark", ["Mc", "Me", "Mn"]),
   ("combiningmark", ["Mc", "Me", "Mn"]), ("mc", ["Mc"]), ("spacingmark", ["Mc"]),
   ("me", ["Me"]), ("enclosingmark", ["Me"]), ("mn", ["Mn"]), ("nonspacingmark", ["Mn"]),
   ("n", ["Nd", "Nl", "No"]), ("number", ["Nd", "Nl", "No"]), ("nd", ["Nd"]),
   ("decimalnumber", ["Nd"]), ("digit", ["Nd"]), ("nl", ["Nl"]), ("letternumber", ["Nl"]),
   ("no", ["No"]), ("othernumber", ["No"]), ("p", ["Pc", "Pd", "Pe", "Pf", "Pi", "Po", "Ps"]),
   ("punctuation", ["Pc", "Pd", "Pe", "Pf", "Pi", "Po", "Ps"]),
   ("punct", ["Pc", "Pd", "Pe", "Pf", "Pi", "Po", "Ps"]), ("pc", ["Pc"]),
   ("connectorpunctuation", ["Pc"]), ("pd", ["Pd"]), ("dashpunctuation", ["Pd"]),
   ("pe", ["Pe"]), ("closepunctuation", ["Pe"]), ("pf", ["Pf"]), ("finalpunctuation", ["Pf"]),
   ("pi", ["Pi"]), ("initialpunctuation", ["Pi"]), ("po", ["Po"]),
   ("otherpunctuation", ["Po"]), ("ps", ["Ps"]), ("openpunctuation", ["Ps"]),
   ("s", ["Sc", "Sk", "Sm", "So"]), ("symbol", ["Sc", "Sk", "Sm", "So"]), ("sc", ["Sc"]),
   ("currencysymbol", ["Sc"]), ("sk", ["Sk"]), ("modifiersymbol", ["Sk"]), ("sm", ["Sm"]),
   ("mathsymbol", ["Sm"]), ("so", ["So"]), ("othersymbol", ["So"]), ("z", ["Zl", "Zp", "Zs"]),
   ("separator", ["Zl", "Zp", "Zs"]), ("zl", ["Zl"]), ("lineseparator", ["Zl"]),
   ("zp", ["Zp"]), ("paragraphseparator", ["Zp"]), ("zs", ["Zs"]), ("spaceseparator", ["Zs"])]

def category? (name : String) : Option Charset :=
  (categoryNames.lookup name).map Trait.ofCategories

def group? (name : String) : Option Charset :=
  match name with
  | "any" => some Charset.all
  | "assigned" => some Trait.assigned
  | "ascii" => some (Charset.range 0 0x7f)
  | _ => category? name

def script? (name : String) : Option String :=
  let code :=
    match name with
    | "qaac" => "copt"
    | "qaai" => "zinh"
    | _ => name
  (scriptNames.find? fun (short, long) =>
    plain short.toList == code || plain long.toList == code).map (·.1)

def age? (name : String) : Option Charset :=
  (versions.find? fun (_, major, minor) =>
    (major, minor) ≠ (17, 0) &&
      (name == toString major ++ "." ++ toString minor ||
        name == "v" ++ toString major ++ toString minor)).map
    fun (_, major, minor) => assignedBy major minor

def named? (name : String) : Option Charset :=
  let name := canonical name
  let trait := if name = "cf" || name = "sc" || name = "lc" then none else Trait.find? name
  trait <|> group? name <|> (script? name).map scriptSet

def valued? (property value : String) : Option Charset :=
  let value := canonical value
  match canonical property with
  | "generalcategory" | "gc" => group? value
  | "script" | "sc" => (script? value).map scriptSet
  | "scriptextensions" | "scx" => (script? value).map scriptUses
  | "age" => age? value
  | "graphemeclusterbreak" | "gcb" => Segment.grapheme? value
  | "wordbreak" | "wb" => Segment.word? value
  | "sentencebreak" | "sb" => Segment.sentence? value
  | _ => none

def asciiRanges? : String → Option String
  | "alnum" => some "30-39 41-5a 61-7a"
  | "alpha" => some "41-5a 61-7a"
  | "ascii" => some "0-7f"
  | "blank" => some "9 20"
  | "cntrl" => some "0-1f 7f"
  | "digit" => some "30-39"
  | "graph" => some "21-7e"
  | "lower" => some "61-7a"
  | "print" => some "20-7e"
  | "punct" => some "21-2f 3a-40 5b-60 7b-7e"
  | "space" => some "9-d 20"
  | "upper" => some "41-5a"
  | "word" => some "30-39 41-5a 5f 61-7a"
  | "xdigit" => some "30-39 41-46 61-66"
  | _ => none

def ascii? (name : String) : Option Charset := (asciiRanges? name).map Charset.ofText

end Weave.Regex.Property
