/-! The tokens of declarations and how they are spelled: one space between tokens, none after a mark
that is joined to the next one, none inside round and square brackets next to them, and one inside
braces. -/

namespace Weave.Declaration

inductive Delimiter where
  | round | square | brace
deriving DecidableEq, Repr

namespace Delimiter

def opening : Delimiter → Char
  | round => '('
  | square => '['
  | brace => '\x7b'

def closing : Delimiter → Char
  | round => ')'
  | square => ']'
  | brace => '\x7d'

def all : List Delimiter := [round, square, brace]

def ofOpening? (c : Char) : Option Delimiter := all.find? (·.opening == c)

end Delimiter

/-- Names and keywords are words. A lifetime is one token with its apostrophe. -/
inductive Token where
  | word (text : String)
  | lifetime (text : String)
  | literal (text : String)
  | mark (symbol : Char) (joint : Bool)
  | group (delimiter : Delimiter) (content : List Token)
deriving Repr

namespace Token

def single (symbol : Char) : Token := mark symbol false

def doubleColon : List Token := [mark ':' true, mark ':' false]

def arrow : List Token := [mark '-' true, mark '>' false]

def ellipsis : List Token := [mark '.' true, mark '.' true, mark '.' false]

def isJoint : Token → Bool
  | mark _ joint => joint
  | _ => false

def isDoc : Token → Bool
  | group .square (word "doc" :: mark ':' _ :: _) => false
  | group .square (word "doc" :: _) => true
  | _ => false

mutual

def count : Token → Nat
  | group _ content => countAll content + 1
  | _ => 1

def countAll : List Token → Nat
  | [] => 0
  | token :: rest => count token + countAll rest

end

mutual

def spelling : Token → List Char
  | word text | lifetime text | literal text => text.toList
  | mark symbol _ => [symbol]
  | group .brace content => '\x7b' :: ' ' :: spellingAll content ++
      (if content.isEmpty then ['\x7d'] else [' ', '\x7d'])
  | group delimiter content => delimiter.opening :: spellingAll content ++ [delimiter.closing]

def spellingAll : List Token → List Char
  | [] => []
  | token :: rest =>
    spelling token ++ (if rest.isEmpty || token.isJoint then [] else [' ']) ++ spellingAll rest

end

end Token

end Weave.Declaration
