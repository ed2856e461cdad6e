import Weave.Declaration.ItemReader

/-! The statements of a block. A statement that begins with a block ends with it, but for fields,
methods and question marks behind the block. -/

namespace Weave.Declaration

namespace Reader

def atItem (tokens : List Token) : Bool :=
  match tokens with
  | .word "static" :: .word "async" :: .word "move" :: _
  | .word "static" :: .word "async" :: .mark '|' _ :: _ => false
  | .word "static" :: .word text :: _ => text = "mut" || isName (.word text) || text = "async"
  | .word "const" :: .word "async" :: .word text :: _ => ["unsafe", "extern", "fn"].contains text
  | .word "const" :: .word text :: _ => text ∉ ["static", "async", "move"]
  | .word "unsafe" :: rest => !atGroup .brace rest
  | .word "async" :: .word text :: _ => ["unsafe", "extern", "fn"].contains text
  | .word "union" :: next :: _ => isName next
  | .word "auto" :: next :: _ => isWord "trait" next
  | .word "default" :: .word text :: _ => ["unsafe", "impl"].contains text
  | .word "crate" :: rest => !atDoubleColon rest
  | .word text :: _ =>
    ["pub", "extern", "use", "fn", "mod", "type", "struct", "enum", "trait", "impl",
      "macro"].contains text
  | _ => false

/-- How a statement that begins with an expansion goes on: as an item that has a name, as an
expansion in braces, or in another way. -/
inductive ExpansionKind where
  | named | braced | other
deriving DecidableEq, Repr

def expansionKind : List Token → ExpansionKind
  | .mark '!' _ :: .word _ :: _ => .named
  | .mark '!' _ :: .group .brace _ :: rest =>
    if atOperator "." rest || atOperator "?" rest then .other else .braced
  | _ => .other

def behindPath : Reader (List Token) := do
  let start ← get
  let _ ← rootedPath
  let rest ← get
  set start
  return rest

def expansionKind? : Reader ExpansionKind :=
  fun nested tokens =>
    match behindPath nested tokens with
    | some (rest, _) => some (expansionKind rest, tokens)
    | none => some (.other, tokens)

/-- A binding: a pattern with its type, its value, and what is done if the pattern does not
match. -/
def binding (attributes : List Token) : Reader (List Token) := do
  let pattern ← nestedPattern
  let type := (← typed? ':').getD []
  let value := (← assigned?).getD []
  let otherwise ←
    if ← acceptWord "else" then do pure (.word "else" :: (← block)) else pure []
  expectMark ';'
  return attributes ++ .word "let" :: pattern ++ type ++ value ++ otherwise ++ [.single ';']

def statement : Reader (List Token) := do
  let start ← get
  let attributes ← attributes
  match ← expansionKind? with
  | .named => itemFrom .module start attributes
  | .braced => return attributes ++ (← itemExpansion) ++ (← optionalMark ';')
  | .other =>
    let tokens ← get
    if tokens.head?.any (isWord "let") then
      skip
      binding attributes
    else if atItem tokens then itemFrom .module start attributes
    else
      let phrase ← boundedExpression
      return phrase.behind attributes ++ (← optionalMark ';')

def statementOrSemicolon : Reader (List Token) := do
  if ← acceptMark ';' then return [.single ';'] else statement

def statements : Reader (List Token) := do
  let inner ← innerAttributes
  return inner ++ (← untilEnd statementOrSemicolon (← bound))

end Reader

end Weave.Declaration
