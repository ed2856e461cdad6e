import Weave.Regex.Trait

/-! How characters take part in the division of text into characters as they are perceived, into
words and into sentences. -/

namespace Weave.Regex.Segment

open Text Trait

def syllables : Charset := Charset.range 0xac00 0xd7a3

def openSyllables : Charset :=
  ⟨(List.range 399).map fun index => (0xac00 + 28 * index, 0xac00 + 28 * index)⟩

def joiner : Charset := Charset.range 0x200d 0x200d

def return_ : Charset := Charset.range 0xd 0xd

def lineFeed : Charset := Charset.range 0xa 0xa

def grapheme? : String → Option Charset
  | "cr" => some return_
  | "lf" => some lineFeed
  | "cn" | "control" =>
    let unassigned := (ofCategories ["Cn"]).inter ignorable
    some ((Charset.unionAll [ofCategories ["Zl", "Zp", "Cc", "Cf"], unassigned]).diff
      (Charset.unionAll [return_, lineFeed, Charset.ofText "200c-200d e0020-e007f", list "pcm"]))
  | "ex" | "extend" => some (extend.union (list "emod"))
  | "zwj" => some joiner
  | "ri" | "regionalindicator" => some (list "ri")
  | "pp" | "prepend" =>
    some ((list "pcm").union (Charset.ofText "d4e 111c2-111c3 113d1 1193f 11941 11a84-11a89 11d46
      11f02"))
  | "sm" | "spacingmark" =>
    some ((((ofCategories ["Mc"]).diff extend).union (Charset.ofText "e33 eb3")).diff
      (Charset.ofText "102b-102c 1038 1062-1064 1067-106d 1083 1087-108c 108f 109a-109c 1a61
        1a63-1a64 aa7b aa7d 11720-11721"))
  | "l" => some (Charset.ofText "1100-115f a960-a97c")
  | "v" => some (Charset.ofText "1160-11a7 d7b0-d7c6 16d63 16d67-16d6a")
  | "t" => some (Charset.ofText "11a8-11ff d7cb-d7fb")
  | "lv" => some openSyllables
  | "lvt" => some (syllables.diff openSyllables)
  | _ => none

/-! ### Words -/

def wordLetters : Charset := Charset.ofText "2c2-2c5 2d2-2d7 2de-2df 2e5-2eb 2ed 2ef-2ff 55a-55c
  55e 58a 5f3 70f a708-a716 a720-a721 a789-a78a ab5b"

def otherLetters : Charset := Charset.ofText
  "5d0-5ea 5ef-5f2 e01-e30 e32-e33 e40-e46 e81-e82 e84 e86-e8a e8c-ea3 ea5 ea7-eb0 eb2-eb3 ebd
ec0-ec4 ec6 edc-edf 1000-102a 103f 1050-1055 105a-105d 1061 1065-1066 106e-1070 1075-1081 108e
1780-17b3 17d7 17dc 1950-196d 1970-1974 1980-19ab 19b0-19c9 1a20-1a54 1aa7 3006-3007 3021-3029
3031-3035 3038-303a 3041-3096 309d-309f 30a1-30fa 30fc-30ff 31f0-31ff 3400-4dbf 4e00-9fff a9e0-a9e4
a9e6-a9ef a9fa-a9fe aa60-aa76 aa7a aa7e-aaaf aab1 aab5-aab6 aab9-aabd aac0 aac2 aadb-aadd f900-fa6d
fa70-fad9 fb1d fb1f-fb28 fb2a-fb36 fb38-fb3c fb3e fb40-fb41 fb43-fb44 fb46-fb4f ff66-ff9d
11700-1171a 11740-11746 16ff2-16ff6 17000-18cd5 18cff-18d1e 18d80-18df2 1aff0-1aff3 1aff5-1affb
1affd-1affe 1b000-1b122 1b132 1b150-1b152 1b155 1b164-1b167 1b170-1b2fb 20000-2a6df 2a700-2b81d
2b820-2cead 2ceb0-2ebe0 2ebf0-2ee5d 2f800-2fa1d 30000-3134a 31350-33479"

def hebrewLetters : Charset := Charset.ofText "5d0-5ea 5ef-5f2 fb1d fb1f-fb28 fb2a-fb36 fb38-fb3c
  fb3e fb40-fb41 fb43-fb44 fb46-fb4f"

def marks : Charset := (ofCategories ["Mc"]).union extend

def numberFormats : Charset := Charset.ofText "600-605 6dd 890-891 8e2 110bd 110cd"

def wordNumbers : Charset :=
  Charset.unionAll [digits, numberFormats, Charset.ofText "66b 19da"]

def word? : String → Option Charset
  | "cr" => some return_
  | "lf" => some lineFeed
  | "nl" | "newline" => some (Charset.ofText "b-c 85 2028-2029")
  | "dq" | "doublequote" => some (Charset.ofText "22")
  | "sq" | "singlequote" => some (Charset.ofText "27")
  | "hl" | "hebrewletter" => some hebrewLetters
  | "ka" | "katakana" =>
    some (Charset.ofText "3031-3035 309b-309c 30a0-30fa 30fc-30ff 31f0-31ff 32d0-32fe 3300-3357
      ff66-ff9d 1aff0-1aff3 1aff5-1affb 1affd-1affe 1b000 1b120-1b122 1b155 1b164-1b167")
  | "le" | "aletter" =>
    some ((alphabetic.diff (otherLetters.union marks)).union wordLetters)
  | "ml" | "midletter" => some (Charset.ofText "3a b7 387 55f 5f4 2027 fe13 fe55 ff1a")
  | "mn" | "midnum" =>
    some (Charset.ofText "2c 3b 37e 589 60c-60d 66c 7f8 2044 fe50 fe54 ff0c ff1b")
  | "mb" | "midnumlet" => some (Charset.ofText "2e 2018-2019 2024 fe52 ff07 ff0e")
  | "nu" | "numeric" => some wordNumbers
  | "ex" | "extendnumlet" =>
    some (Charset.ofText "5f 202f 203f-2040 2054 fe33-fe34 fe4d-fe4f ff3f")
  | "extend" => some (marks.union (list "emod"))
  | "fo" | "format" =>
    some ((ofCategories ["Cf"]).diff
      (numberFormats.union (Charset.ofText "70f 200b-200d e0020-e007f")))
  | "ri" | "regionalindicator" => some (list "ri")
  | "wsegspace" => some (Charset.ofText "20 1680 2000-2006 2008-200a 205f 3000")
  | "zwj" => some joiner
  | _ => none

/-! ### Sentences -/

def sentenceLower : Charset :=
  (lowercase.diff extend).diff (Charset.ofText "10d0-10fa 10fd-10ff")

def sentenceUpper : Charset :=
  (uppercase.union (ofCategories ["Lt"])).diff (Charset.ofText "1c90-1cba 1cbd-1cbf")

def stops : Charset := Charset.ofText "2e 2024 fe52 ff0e"

def sentence? : String → Option Charset
  | "cr" => some return_
  | "lf" => some lineFeed
  | "ex" | "extend" => some (marks.union joiner)
  | "se" | "sep" => some (Charset.ofText "85 2028-2029")
  | "fo" | "format" =>
    some ((ofCategories ["Cf"]).diff (numberFormats.union (Charset.ofText "200c-200d e0020-e007f")))
  | "sp" => some (Charset.ofText "9 b-c 20 a0 1680 2000-200a 202f 205f 3000")
  | "lo" | "lower" => some sentenceLower
  | "up" | "upper" => some sentenceUpper
  | "le" | "oletter" =>
    some ((alphabetic.diff (Charset.unionAll [sentenceLower, sentenceUpper, marks])).union
      (Charset.ofText "5f3"))
  | "nu" | "numeric" => some (wordNumbers.union (Charset.ofText "66c"))
  | "at" | "aterm" => some stops
  | "st" | "sterm" => some ((list "sterm").diff stops)
  | "cl" | "close" =>
    some ((ofCategories ["Ps", "Pe", "Pi", "Pf"]).union
      (Charset.ofText "22 27 275b-2760 2e00-2e01 2e06-2e08 2e0b 1f676-1f678"))
  | "sc" | "scontinue" =>
    some (Charset.ofText "2c-2d 3a-3b 37e 55d 60c-60d 7f8 1802 1808 2013-2014 3001 fe10-fe11
      fe13-fe14 fe31-fe32 fe50-fe51 fe54-fe55 fe58 fe63 ff0c-ff0d ff1a-ff1b ff64")
  | _ => none

end Weave.Regex.Segment
