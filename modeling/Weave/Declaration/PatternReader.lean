import Weave.Declaration.TypeReader

/-! Paths in expressions and in patterns, and the patterns themselves. In a path, arguments in angle
brackets stand behind a double colon. -/

namespace Weave.Declaration

namespace Reader

def keywords : List String :=
  ["_", "abstract", "as", "async", "await", "become", "box", "break", "const", "continue", "crate",
    "do", "dyn", "else", "enum", "extern", "false", "final", "fn", "for", "if", "impl", "in", "let",
    "loop", "macro", "match", "mod", "move", "mut", "override", "priv", "pub", "ref", "return",
    "Self", "self", "static", "struct", "super", "trait", "true", "try", "type", "typeof", "unsafe",
    "unsized", "use", "virtual", "where", "while", "yield"]

def isName : Token → Bool
  | .word text => !keywords.contains text
  | _ => false

def isPathWord : Token → Bool
  | .word text => ["self", "Self", "super", "crate"].contains text
  | _ => false

/-! ### Paths -/

def turbofish? : Reader (List Token) := do
  match ← get with
  | .mark ':' true :: .mark ':' _ :: .mark '<' _ :: rest => do
    set rest
    let (items, trailing) ← arguments (← depth)
    return Token.doubleColon ++ .single '<' ::
      TypeExpr.argumentTokens trailing (TypeExpr.argumentList items) ++ [.single '>']
  | _ => return []

def pathNames : Nat → Reader (List Token)
  | 0 => failure
  | bound + 1 => do
    let name ← word
    let arguments ← turbofish?
    let segment := .word name :: arguments
    match ← get with
    | .mark ':' true :: .mark ':' _ :: .group .round _ :: _ => return segment
    | tokens =>
      if atDoubleColon tokens then
        skip
        skip
        return segment ++ Token.doubleColon ++ (← pathNames bound)
      else return segment

def qualifiedPath : Reader (List Token) := do
  expectMark '<'
  let self ← typeTokens
  let via ←
    if ← acceptWord "as" then do
      let root := if ← acceptDoubleColon then Token.doubleColon else []
      pure (.word "as" :: root ++ TypeExpr.pathTokens (← path (← depth)))
    else pure []
  expectMark '>'
  guard (← acceptDoubleColon)
  return .single '<' :: self ++ via ++ .single '>' :: Token.doubleColon ++ (← pathNames (← bound))

def valuePath : Reader (List Token × Bool) := do
  if (← peek).any (isMark '<') then return (← qualifiedPath, true)
  else
    let root := if ← acceptDoubleColon then Token.doubleColon else []
    return (root ++ (← pathNames (← bound)), false)

def expansionBody? : Reader (Option (List Token)) := do
  match ← get with
  | .mark '!' _ :: .group delimiter content :: rest => do
    set rest
    return some [.single '!', .group delimiter content]
  | _ => return none

/-! ### Numbers of fields -/

def digitValue (c : Char) : Nat :=
  if c.isDigit then c.toNat - '0'.toNat
  else if 'a' ≤ c && c ≤ 'f' then c.toNat - 'a'.toNat + 10
  else c.toNat - 'A'.toNat + 10

def valueInBase (base : Nat) (digits : List Char) : Nat :=
  (digits.filter (· ≠ '_')).foldl (fun value c => base * value + digitValue c) 0

def fieldNumber (text : String) : String :=
  toString <|
    match text.toList with
    | '0' :: 'x' :: digits => valueInBase 16 digits
    | '0' :: 'o' :: digits => valueInBase 8 digits
    | '0' :: 'b' :: digits => valueInBase 2 digits
    | digits => valueInBase 10 digits

def member : Reader Token := do
  match ← get with
  | .word name :: rest => do
    set rest
    return .word name
  | .literal text :: rest => do
    set rest
    return .literal (fieldNumber text)
  | _ => failure

/-! ### Patterns -/

def alternatives : Nat → Reader (List Token)
  | 0 => failure
  | bound + 1 => do
    let first ← nestedPattern
    let tokens ← get
    if tokens.head?.any (isMark '|') && !atOperator "||" tokens && !atOperator "|=" tokens then
      skip
      return first ++ .single '|' :: (← alternatives bound)
    else return first

def anyPattern : Reader (List Token) := do
  return (← optionalMark '|') ++ (← alternatives (← bound))

def patternList (delimiter : Delimiter) : Reader (List Token) :=
  grouped delimiter (commaTokens anyPattern)

def rangeBound : Reader (List Token) := do
  match ← literal? with
  | some value => return value
  | none =>
    match ← get with
    | .word "const" :: .group .brace content :: rest => do
      set rest
      return [.word "const", .group .brace (← within content nestedStatements)]
    | _ => return (← valuePath).1

def endsPatternRange (tokens : List Token) : Bool :=
  match tokens with
  | [] => true
  | .word text :: _ => text = "if" || text = "in"
  | tokens =>
    tokens.head?.any (fun token => ['|', '=', ',', ';'].any (isMark · token)) ||
      (atOperator ":" tokens && !atDoubleColon tokens)

def patternLimits? : Reader (Option (List Token)) := do
  if ← acceptOperator "..=" then return some (operatorTokens "..=".toList)
  else if ← acceptEllipsis then return some (operatorTokens "..=".toList)
  else if ← acceptOperator ".." then return some (operatorTokens "..".toList)
  else return none

def patternRange? : Reader (List Token) := do
  match ← patternLimits? with
  | none => return []
  | some limits =>
    if endsPatternRange (← get) then return limits
    else return limits ++ (← rangeBound)

def fieldPattern : Reader (List Token) := do
  let attributes ← attributes
  if ← acceptOperator ".." then return attributes ++ operatorTokens "..".toList
  let lead := (← optionalWord "box") ++ (← optionalWord "ref") ++ (← optionalWord "mut")
  let member ← member
  if ← acceptMark ':' then return attributes ++ member :: .single ':' :: (← anyPattern)
  else return attributes ++ lead ++ [member]

def pathPattern : Reader (List Token) := do
  let (path, _) ← valuePath
  match ← expansionBody? with
  | some body => return path ++ body
  | none =>
    let tokens ← get
    if atGroup .brace tokens then return path ++ (← grouped .brace (commaTokens fieldPattern))
    else if atGroup .round tokens then return path ++ (← patternList .round)
    else return path ++ (← patternRange?)

def namePattern : Reader (List Token) := do
  let lead := (← optionalWord "ref") ++ (← optionalWord "mut")
  let name ← word
  if ← acceptMark '@' then
    return lead ++ .word name :: .single '@' :: (← nestedPattern)
  else return lead ++ [.word name]

def continuesPath (tokens : List Token) : Bool :=
  match tokens with
  | .group .brace _ :: _ | .group .round _ :: _ => true
  | .mark '!' _ :: _ => true
  | tokens => atDoubleColon tokens || atOperator ".." tokens

def pattern : Reader (List Token) := do
  let tokens ← get
  match tokens with
  | .word "_" :: rest => do
    set rest
    return [.word "_"]
  | .word "box" :: rest => do
    set rest
    let _ ← nestedPattern
    return taken tokens (← get)
  | .word "ref" :: _ | .word "mut" :: _ => namePattern
  | .mark '&' _ :: rest => do
    set rest
    let mutability ← optionalWord "mut"
    return .single '&' :: mutability ++ (← nestedPattern)
  | .group .round _ :: _ => patternList .round
  | .group .square _ :: _ => patternList .square
  | .literal _ :: _ | .mark '-' _ :: _ | .word "true" :: _ | .word "false" :: _
  | .word "const" :: _ => do
    let lower ← rangeBound
    return lower ++ (← patternRange?)
  | .mark '.' _ :: _ => patternRange?
  | .word text :: rest =>
    if continuesPath rest || (text ≠ "self" && isPathWord (.word text)) then pathPattern
    else namePattern
  | _ => pathPattern

end Reader

end Weave.Declaration
