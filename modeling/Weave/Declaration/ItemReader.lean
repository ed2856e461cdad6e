import Weave.Declaration.Expression

/-! Items inside of expressions: functions, types, interfaces and what else may be declared among
statements. Some items that the grammar has room for but that mean nothing are kept as they are
written. -/

namespace Weave.Declaration

namespace Reader

/-! ### Parts of items -/

def restrictsVisibility : List Token → Bool
  | [.word text] => ["crate", "self", "super"].contains text
  | .word "in" :: _ => true
  | _ => false

def visibility : Reader (List Token) := do
  match ← get with
  | .word "pub" :: .group .round content :: rest => do
    if restrictsVisibility content then
      set rest
      return [.word "pub", .group .round content]
    else
      skip
      return [.word "pub"]
  | _ => optionalWord "pub"

def genericItems : Nat → Reader (List (Bool × List Token) × Bool)
  | 0 => failure
  | bound + 1 => do
    if ← acceptMark '>' then return ([], true)
    let attributes ← attributes
    let isLifetime := (← peek).any fun
      | .lifetime _ => true
      | _ => false
    let first := (isLifetime, attributes ++ (← binderItem (← depth)))
    if ← acceptMark '>' then return ([first], false)
    expectMark ','
    let (rest, trailing) ← genericItems bound
    return (first :: rest, trailing)

def generics : Reader (List Token) := do
  if ← acceptMark '<' then
    let (items, trailing) ← genericItems (← bound)
    if items.isEmpty then return []
    else return .single '<' :: TypeExpr.argumentTokens trailing items ++ [.single '>']
  else return []

def endsBounds (tokens : List Token) : Bool :=
  tokens.isEmpty || atGroup .brace tokens || [",", ";", "="].any (atOperator · tokens) ||
    (atOperator ":" tokens && !atDoubleColon tokens) || tokens.head?.any (isWord "where")

def boundList : Nat → Reader (List Token)
  | 0 => failure
  | bound + 1 => do
    if endsBounds (← get) then return []
    let first ← traitBound (← depth)
    let tokens := TypeExpr.boundToken first
    if ← acceptMark '+' then return tokens ++ .single '+' :: (← boundList bound)
    else return tokens

def itemBounds : Reader (List Token) := do boundList (← bound)

def itemCondition : Reader (List Token) := do
  let subject ←
    match ← lifetime? with
    | some name => pure [.lifetime name]
    | none => do
      let lead ← binder (← depth)
      pure (lead ++ (← typeTokens))
  expectMark ':'
  return subject ++ .single ':' :: (← itemBounds)

def conditionsFrom : Nat → Reader (List Token)
  | 0 => failure
  | bound + 1 => do
    if endsBounds (← get) then return []
    let first ← itemCondition
    if ← acceptMark ',' then return first ++ .single ',' :: (← conditionsFrom bound)
    else return first

/-- The conditions on generic parameters; the word in front of them is left out if there are
none. -/
def conditions : Reader (List Token) := do
  if ← acceptWord "where" then
    let all ← conditionsFrom (← bound)
    return if all.isEmpty then [] else .word "where" :: all
  else return []

def typed? (mark : Char) : Reader (Option (List Token)) := do
  if ← acceptMark mark then return some (.single mark :: (← typeTokens)) else return none

def assigned? : Reader (Option (List Token)) := do
  if ← acceptMark '=' then return some (.single '=' :: (← value)) else return none

/-! ### Functions -/

def functionWords : List String := ["const", "async", "unsafe", "safe", "extern"]

def atSignature : List Token → Bool
  | .word "fn" :: _ => true
  | .word "extern" :: .literal _ :: rest => atSignature rest
  | .word text :: rest => functionWords.contains text && atSignature rest
  | _ => false

/-- The words in front of `fn`, with the name of a calling convention among them. -/
def functionLead : Nat → Reader (List Token)
  | 0 => failure
  | bound + 1 => do
    match ← get with
    | .word "extern" :: .literal text :: rest => do
      set rest
      return .word "extern" :: .literal text :: (← functionLead bound)
    | .word "fn" :: _ => return []
    | .word text :: rest => do
      set rest
      return .word text :: (← functionLead bound)
    | _ => failure

def receiver? : Reader (Option (List Token)) := do
  match ← get with
  | .mark '&' _ :: .lifetime name :: .word "mut" :: .word "self" :: rest => do
    set rest
    return some [.single '&', .lifetime name, .word "mut", .word "self"]
  | .mark '&' _ :: .lifetime name :: .word "self" :: rest => do
    set rest
    return some [.single '&', .lifetime name, .word "self"]
  | .mark '&' _ :: .word "mut" :: .word "self" :: rest => do
    set rest
    return some [.single '&', .word "mut", .word "self"]
  | .mark '&' _ :: .word "self" :: rest => do
    set rest
    return some [.single '&', .word "self"]
  | .word "mut" :: .word "self" :: rest => do
    set rest
    return some (.word "mut" :: .word "self" :: (← typed? ':').getD [])
  | .word "self" :: rest =>
    if atDoubleColon rest then return none
    else
      set rest
      return some (.word "self" :: (← typed? ':').getD [])
  | _ => return none

/-- A parameter: a pattern with its type, which may be three dots. A type alone that begins with a
name and an angle bracket is given the pattern that binds nothing. -/
def functionParameter : Reader (List Token) := do
  let attributes ← attributes
  if ← acceptEllipsis then return attributes ++ Token.ellipsis
  match ← receiver? with
  | some receiver => return attributes ++ receiver
  | none =>
    match ← get with
    | .word _ :: .mark '<' _ :: _ =>
      return attributes ++ .word "_" :: .single ':' :: (← typeTokens)
    | _ =>
      let pattern ← nestedPattern
      expectMark ':'
      let lead := attributes ++ pattern ++ [.single ':']
      if ← acceptEllipsis then return lead ++ Token.ellipsis
      else return lead ++ (← typeTokens)

def functionHead : Reader (List Token) := do
  let lead ← functionLead (← bound)
  guard (← acceptWord "fn")
  let name ← word
  let generics ← generics
  let parameters ← grouped .round (commaTokens functionParameter)
  let output ← if ← acceptArrow then do pure (Token.arrow ++ (← typeTokens)) else pure []
  return lead ++ .word "fn" :: .word name :: generics ++ parameters ++ output ++ (← conditions)

/-! ### Fields and variants -/

def namedField : Reader (List Token) := do
  let lead := (← attributes) ++ (← visibility)
  let name ← word
  expectMark ':'
  return lead ++ .word name :: .single ':' :: (← typeTokens)

def unnamedField : Reader (List Token) := do
  return (← attributes) ++ (← visibility) ++ (← typeTokens)

def itemFields : Reader (List Token) := do
  let tokens ← get
  if atGroup .brace tokens then grouped .brace (commaTokens namedField)
  else if atGroup .round tokens then grouped .round (commaTokens unnamedField)
  else return []

def variant : Reader (List Token) := do
  let attributes ← attributes
  let _ ← visibility
  let name ← word
  let fields ← itemFields
  return attributes ++ .word name :: fields ++ (← assigned?).getD []

/-! ### Items -/

mutual

def importToken : Token → Token
  | .mark symbol _ => .single symbol
  | .group delimiter content => .group delimiter (importTokens content)
  | token => token

/-- Double colons are joined, other marks stand alone. -/
def importTokens : List Token → List Token
  | .mark ':' _ :: .mark ':' _ :: rest => Token.doubleColon ++ importTokens rest
  | token :: rest => importToken token :: importTokens rest
  | [] => []

end

def untilSemicolon : Reader (List Token) := do
  let tokens ← get
  let lead := tokens.takeWhile fun token => !isMark ';' token
  set (tokens.drop lead.length)
  expectMark ';'
  return importTokens lead ++ [.single ';']

def itemsIn (place : ItemPlace) : Reader (List Token) := grouped .brace (nestedItems place)

def bodyOrSemicolon (body : Reader (List Token)) : Reader (List Token) := do
  if ← acceptMark ';' then return [.single ';'] else body

def itemExpansion : Reader (List Token) := do
  let path ← rootedPath
  expectMark '!'
  let name ← match ← get with
    | .word text :: rest => do
      set rest
      pure [.word text]
    | _ => pure []
  let braced := atGroup .brace (← get)
  let body ← anyGroup
  let semicolon ← if braced then pure [] else optionalMark ';'
  return path ++ .single '!' :: name ++ body ++ semicolon

abbrev ItemReader := Reader (Option (List Token))

/-- A function. One without a body is kept as it is written unless it stands in an interface or
among foreign ones; those must not have one. -/
def functionItem (place : ItemPlace) (lead : List Token) : ItemReader := do
  let safe := ((← get).takeWhile (!isWord "fn" ·)).any (isWord "safe")
  let head ← functionHead
  if ← acceptMark ';' then
    return if (place = .foreign && !safe) || place = .interface
      then some (lead ++ head ++ [.single ';']) else none
  else
    let body ← block
    return if place = .foreign then none else some (lead ++ head ++ body)

def constItem (place : ItemPlace) (lead : List Token) : ItemReader := do
  let name ← word
  let start ← get
  let generics ← generics
  let isGeneric := start.head?.any (isMark '<')
  expectMark ':'
  let type ← typeTokens
  let value ← assigned?
  let isConditional := (← peek).any (isWord "where")
  let _ ← conditions
  expectMark ';'
  if isGeneric || isConditional || (value.isNone && place ≠ .interface) then return none
  else
    return some (lead ++ .word "const" :: .word name :: generics ++ .single ':' :: type ++
      value.getD [] ++ [.single ';'])

def staticItem (place : ItemPlace) (lead : List Token) : ItemReader := do
  let mutability ← optionalWord "mut"
  let name ← word
  let type ← typed? ':'
  let value ← assigned?
  expectMark ';'
  match type with
  | some type =>
    if value.isSome = (place = .foreign) then return none
    else
      return some (lead ++ .word "static" :: mutability ++ .word name :: type ++ value.getD [] ++
        [.single ';'])
  | none => return none

def typeItem (place : ItemPlace) (lead : List Token) : ItemReader := do
  let name ← word
  let generics ← generics
  let bounded := (← peek).any (isMark ':')
  let bounds ← if ← acceptMark ':' then itemBounds else pure []
  let before ← conditions
  let type ← typed? '='
  let after ← conditions
  expectMark ';'
  let head := lead ++ .word "type" :: .word name :: generics
  let colon := if bounds.isEmpty then [] else .single ':' :: bounds
  match place with
  | .interface => return some (head ++ colon ++ before ++ type.getD [] ++ after ++ [.single ';'])
  | .foreign =>
    return if bounded || type.isSome then none else some (head ++ before ++ [.single ';'])
  | _ =>
    return if bounded || type.isNone then none
      else some (head ++ before ++ type.getD [] ++ after ++ [.single ';'])

def structItem (lead : List Token) : Reader (List Token) := do
  let name ← word
  let generics ← generics
  let before ← conditions
  let fields ← itemFields
  let after ← conditions
  let semicolon ← optionalMark ';'
  return lead ++ .word name :: generics ++ before ++ fields ++ after ++ semicolon

def enumItem (lead : List Token) : Reader (List Token) := do
  let name ← word
  let generics ← generics
  let conditions ← conditions
  return lead ++ .word "enum" :: .word name :: generics ++ conditions ++
    (← grouped .brace (commaTokens variant))

def interfaceItem (lead : List Token) : Reader (List Token) := do
  let name ← word
  let generics ← generics
  let head := lead ++ .word "trait" :: .word name :: generics
  if ← acceptMark '=' then
    let bounds ← itemBounds
    let conditions ← conditions
    expectMark ';'
    return head ++ .single '=' :: bounds ++ conditions ++ [.single ';']
  else
    let bounds ← if ← acceptMark ':' then itemBounds else pure []
    let colon := if bounds.isEmpty then [] else .single ':' :: bounds
    let conditions ← conditions
    return head ++ colon ++ conditions ++ (← itemsIn .interface)

def atGenerics (tokens : List Token) : Bool :=
  let named (rest : List Token) : Bool :=
    [">", ",", "="].any (atOperator · rest) || (atOperator ":" rest && !atDoubleColon rest)
  match tokens with
  | .mark '<' _ :: .mark '>' _ :: _ | .mark '<' _ :: .mark '#' _ :: _ => true
  | .mark '<' _ :: .word text :: rest => text = "const" || named rest
  | .mark '<' _ :: .lifetime _ :: rest => named rest
  | _ => false

def implementationItem (lead : List Token) : ItemReader := do
  let generics ← if atGenerics (← get) then generics else pure []
  let relaxed ← acceptMark '?'
  let constant ← acceptWord "const"
  let negative ← optionalMark '!'
  let first ← typeTokens
  let target ← if ← acceptWord "for" then do pure (.word "for" :: (← typeTokens)) else pure []
  let conditions ← conditions
  let items ← itemsIn .implementation
  if relaxed || constant then return none
  else
    return some (lead ++ .word "impl" :: generics ++ negative ++ first ++ target ++ conditions ++
      items)

def foreignItem (lead : List Token) : Reader (List Token) := do
  let convention ← match ← get with
    | .literal text :: rest => do
      set rest
      pure [.literal text]
    | _ => pure []
  return lead ++ .word "extern" :: convention ++ (← itemsIn .foreign)

def itemBody (place : ItemPlace) (lead : List Token) : ItemReader := do
  let tokens ← get
  if atSignature tokens then functionItem place lead
  else
    match tokens with
    | .word "extern" :: .word "crate" :: _ | .word "use" :: _ =>
      return some (lead ++ (← untilSemicolon))
    | .word "extern" :: rest => do
      set rest
      return some (← foreignItem lead)
    | .word "static" :: rest => do
      set rest
      staticItem place lead
    | .word "const" :: rest => do
      set rest
      constItem place lead
    | .word "type" :: rest => do
      set rest
      typeItem place lead
    | .word "mod" :: .word name :: rest => do
      set rest
      return some (lead ++ .word "mod" :: .word name :: (← bodyOrSemicolon (itemsIn .module)))
    | .word "struct" :: rest => do
      set rest
      return some (← structItem (lead ++ [.word "struct"]))
    | .word "union" :: .word name :: rest => do
      set (.word name :: rest)
      return some (← structItem (lead ++ [.word "union"]))
    | .word "enum" :: rest => do
      set rest
      return some (← enumItem lead)
    | .word "auto" :: .word "trait" :: rest => do
      set rest
      return some (← interfaceItem (lead ++ [.word "auto"]))
    | .word "trait" :: rest => do
      set rest
      return some (← interfaceItem lead)
    | .word "impl" :: rest => do
      set rest
      implementationItem lead
    | .word "macro" :: .word _ :: rest => do
      set rest
      let _ ← anyGroup
      if atGroup .brace (← get) then
        let _ ← anyGroup
      return none
    | _ => return some (lead ++ (← itemExpansion))

def itemFrom (place : ItemPlace) (start attributes : List Token) : Reader (List Token) := do
  let visibility ← visibility
  let tokens ← get
  let isDefault := tokens.head?.any (isWord "default") && !atOperator "!" (tokens.drop 1)
  let default ← if isDefault then optionalWord "default" else pure []
  let isUnsafe := (← peek).any (isWord "unsafe") && !atSignature (← get)
  let guarded ← if isUnsafe then optionalWord "unsafe" else pure []
  let isImplementation := (← peek).any (isWord "impl")
  let found ← itemBody place (attributes ++ visibility ++ default ++ guarded)
  let misplaced := (place = .interface && (!visibility.isEmpty || isDefault)) ||
    (isImplementation && !visibility.isEmpty)
  let written := taken start (← get)
  return if misplaced then written else found.getD written

def item (place : ItemPlace) : Reader (List Token) := do
  let start ← get
  itemFrom place start (← attributes)

def items (place : ItemPlace) : Reader (List Token) := do
  let inner ← innerAttributes
  return inner ++ (← untilEnd (item place) (← bound))

end Reader

end Weave.Declaration
