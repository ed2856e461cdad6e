import Weave.Declaration.Reader
import Weave.Declaration.TypeExpr

/-! Reading a type from tokens. The bound on nesting that the readers share grows with the number of
tokens. -/

namespace Weave.Declaration

namespace Reader

/-- Levels of nested readers that one token can account for. -/
def levelsPerToken : Nat := 8

def atFunction (tokens : List Token) : Bool :=
  match tokens with
  | .word "fn" :: _ | .word "unsafe" :: _ | .word "extern" :: _ => true
  | _ => false

def atBound (tokens : List Token) : Bool :=
  match tokens with
  | .word _ :: _ | .lifetime _ :: _ | .group .round _ :: _ | .group .square _ :: _
  | .mark '?' _ :: _ => true
  | tokens => atDoubleColon tokens

def isExpansion (tokens : List Token) : Bool :=
  match tokens with
  | .mark '!' _ :: .group _ _ :: _ => true
  | _ => false

/-- All that is left, spelled as an expression; what cannot be read as one is kept as it is
written. -/
def remainingExpression : Reader (List Token) :=
  fun nested tokens =>
    match nested.expression true tokens with
    | some (phrase, []) => some (phrase.tokens, [])
    | _ => some (tokens, [])

def constant? : Reader (Option (List Token)) := do
  match ← get with
  | .group .brace content :: rest => do
    set rest
    return some (← within [.group .brace content] remainingExpression)
  | _ => literal?

def lifetimeBounds : Reader (List Token) := do
  let tokens ← get
  let bounds := tokens.takeWhile fun token => !isMark ',' token && !isMark '>' token
  set (tokens.drop bounds.length)
  return bounds.map fun
    | .mark symbol _ => .single symbol
    | token => token

def captures : Nat → Reader (List (Bool × List Token) × Bool)
  | 0 => failure
  | bound + 1 => do
    if ← acceptMark '>' then return ([], true)
    let first ←
      match ← lifetime? with
      | some name => pure (true, [Token.lifetime name])
      | none => do pure (false, [Token.word (← word)])
    if ← acceptMark '>' then return ([first], false)
    expectMark ','
    let (rest, trailing) ← captures bound
    return (first :: rest, trailing)

def bound? : TypeExpr → Option Bound
  | .path rooted segments => some (.trait [] rooted segments)
  | .traitObject false [.parenthesised inner] false => some inner
  | .traitObject false [bound] false => some bound
  | _ => none

mutual

/-- A type; `plus` tells whether it may be several traits joined by plus signs. -/
def type : Nat → (plus : Bool) → Reader TypeExpr
  | 0, _ => failure
  | bound + 1, plus => do
    let tokens ← get
    if atFunction tokens then functionPointer bound []
    else
      match tokens with
      | .group .round content :: _ => do
        skip
        parenthesised bound plus content
      | .group .square content :: _ => do
        skip
        within content (sequenceOf bound)
      | .mark '&' _ :: _ => do
        skip
        let lifetime ← lifetime?
        let mutable ← acceptWord "mut"
        return .reference lifetime mutable (← type bound false)
      | .mark '*' _ :: _ => do
        skip
        let mutable ← acceptWord "mut"
        if !mutable then guard (← acceptWord "const")
        return .pointer mutable (← type bound false)
      | .mark '!' _ :: _ => do
        skip
        return .never
      | .mark '<' _ :: _ => do
        skip
        projection bound
      | .word "_" :: _ => do
        skip
        return .inferred
      | .word "dyn" :: _ => do
        skip
        let starred ← acceptMark '*'
        let (bounds, trailing) ← bounds bound plus
        if starred then return .verbatim (taken tokens (← get))
        else return .traitObject true bounds trailing
      | .word "impl" :: _ => do
        skip
        let (bounds, trailing) ← bounds bound plus
        return .implTrait bounds trailing
      | .word "builtin" :: .mark '#' joint :: .word name :: .group delimiter content :: rest => do
        set rest
        return .verbatim [.word "builtin", .mark '#' joint, .word name, .group delimiter content]
      | .lifetime _ :: _ => do
        let (bounds, trailing) ← bounds bound true
        return .traitObject false bounds trailing
      | .word "for" :: _ => do
        let lead ← binder bound
        if atFunction (← get) then functionPointer bound lead else named bound plus lead
      | _ => named bound plus []

/-- A type that begins with the group of the given content: a tuple, a type in parentheses, or the
first of several bounds. -/
def parenthesised : Nat → (plus : Bool) → (content : List Token) → Reader TypeExpr
  | 0, _, _ => failure
  | bound + 1, plus, content =>
    if content.head?.any (isMark '?') then do
      let first ← within content (traitBound bound)
      return .traitObject false (.parenthesised first :: (← plusBounds bound)) false
    else do
      let (items, trailing) ← within content (commaSeparated (type bound true) bound)
      match items, trailing with
      | [], _ => return .tuple [] false
      | [inner], false =>
        match bound? inner with
        | some first =>
          if plus && (← peek).any (isMark '+') then
            return .traitObject false (.parenthesised first :: (← plusBounds bound)) false
          else return .parenthesised inner
        | none => return .parenthesised inner
      | items, trailing => return .tuple items trailing

/-- A path and what may follow it: the body of an expansion, or more traits. With a lifetime binder
in front of it a path is a trait. -/
def named : Nat → (plus : Bool) → (lead : List Token) → Reader TypeExpr
  | 0, _, _ => failure
  | bound + 1, plus, lead => do
    let rooted ← acceptDoubleColon
    let segments ← path bound
    let tokens ← get
    if isExpansion tokens then
      skip
      match ← peek with
      | some body =>
        skip
        return .expansion rooted segments body
      | none => failure
    else if !lead.isEmpty || (plus && tokens.head?.any (isMark '+')) then
      let (others, trailing) ← moreBounds bound plus
      return .traitObject false (.trait lead rooted segments :: others) trailing
    else return .path rooted segments

def projection : Nat → Reader TypeExpr
  | 0 => failure
  | bound + 1 => do
    let self ← type bound true
    let (rooted, via) ←
      if ← acceptWord "as" then do
        let rooted ← acceptDoubleColon
        pure (rooted, ← path bound)
      else pure (false, [])
    expectMark '>'
    guard (← acceptDoubleColon)
    return .projection self rooted via (← path bound)

def path : Nat → Reader (List Segment)
  | 0 => failure
  | bound + 1 => do
    let first ← segment bound
    if ← acceptDoubleColon then return first :: (← path bound) else return [first]

/-- A name with its arguments. Empty angle brackets in front of round arguments are left out, and so
are double colons there. -/
def segment : Nat → Reader Segment
  | 0 => failure
  | bound + 1 => do
    let name ← word
    match ← get with
    | .mark '<' _ :: _ => do
      skip
      let (items, trailing) ← arguments bound
      if items.isEmpty then return (← call? bound name).getD (.generic name false [] false)
      else return .generic name false items trailing
    | .mark ':' true :: .mark ':' _ :: .mark '<' _ :: rest => do
      set rest
      let (items, trailing) ← arguments bound
      if items.isEmpty then return (← call? bound name).getD (.generic name true [] false)
      else return .generic name true items trailing
    | _ => return (← call? bound name).getD (.plain name)

def call? : Nat → (name : String) → Reader (Option Segment)
  | 0, _ => failure
  | bound + 1, name => do
    match ← get with
    | .group .round content :: rest
    | .mark ':' true :: .mark ':' _ :: .group .round content :: rest => do
      set rest
      let (inputs, trailing) ← within content (commaSeparated (type bound true) bound)
      return some (.callable name inputs (trailing && !inputs.isEmpty) (← output bound))
    | _ => return none

def output : Nat → Reader (Option TypeExpr)
  | 0 => failure
  | bound + 1 => do
    if ← acceptArrow then return some (← type bound false) else return none

def arguments : Nat → Reader (List Argument × Bool)
  | 0 => failure
  | bound + 1 => do
    if ← acceptMark '>' then return ([], false)
    let first ← argument bound
    if ← acceptMark '>' then return ([first], false)
    expectMark ','
    if ← acceptMark '>' then return ([first], true)
    let (rest, trailing) ← arguments bound
    return (first :: rest, trailing)

def argument : Nat → Reader Argument
  | 0 => failure
  | bound + 1 => do
    match ← get with
    | .lifetime name :: .mark ',' _ :: _ | .lifetime name :: .mark '>' _ :: _ => do
      skip
      return .lifetime name
    | _ =>
      match ← constant? with
      | some value => return .constant value
      | none =>
        match ← type bound true with
        | .path false [head] => do
          if ← acceptMark '=' then
            match ← constant? with
            | some value => return .boundConstant head value
            | none => return .binding head (← type bound true)
          else if ← acceptMark ':' then
            let (bounds, trailing) ← constraints bound
            return .constrained head bounds trailing
          else return .type (.path false [head])
        | type => return .type type

/-- Traits and lifetimes joined by plus signs, or just one if `plus` is not set, and whether a plus
sign stands behind the last. -/
def bounds : Nat → (plus : Bool) → Reader (List Bound × Bool)
  | 0, _ => failure
  | bound + 1, plus => do
    let first ← traitBound bound
    let (others, trailing) ← moreBounds bound plus
    return (first :: others, trailing)

def moreBounds : Nat → (plus : Bool) → Reader (List Bound × Bool)
  | 0, _ => failure
  | bound + 1, plus => do
    if plus then
      if ← acceptMark '+' then
        if atBound (← get) then bounds bound plus else return ([], true)
      else return ([], false)
    else return ([], false)

def plusBounds : Nat → Reader (List Bound)
  | 0 => failure
  | bound + 1 => do
    if ← acceptMark '+' then
      let first ← traitBound bound
      return first :: (← plusBounds bound)
    else return []

def constraints : Nat → Reader (List Bound × Bool)
  | 0 => failure
  | bound + 1 => do
    if (← peek).any fun token => [',', '>', '='].any (isMark · token) then return ([], true)
    let first ← traitBound bound
    if ← acceptMark '+' then
      let (others, trailing) ← constraints bound
      return (first :: others, trailing)
    else return ([first], false)

/-- A bound. One that is conditional on constant evaluation is kept as it is written. -/
def traitBound : Nat → Reader Bound
  | 0 => failure
  | bound + 1 => do
    let tokens ← get
    match tokens with
    | .lifetime name :: _ => do
      skip
      return .lifetime name
    | .word "use" :: .mark '<' _ :: rest => do
      set rest
      let (items, trailing) ← captures bound
      return .captured items trailing
    | .group .round content :: _ => do
      skip
      match ← within content (traitBound bound) with
      | .verbatim _ => return .verbatim [.group .round content]
      | inner => return .parenthesised inner
    | _ => do
      let lead ← binder bound
      let conditional ← accept fun token =>
        match token with
        | .group .square _ | .word "const" => true
        | _ => false
      let relaxed ← acceptMark '?'
      let lead := (if relaxed then [.single '?'] else []) ++ lead ++ (← binder bound)
      let rooted ← acceptDoubleColon
      let segments ← path bound
      if conditional then return .verbatim (taken tokens (← get))
      else return .trait lead rooted segments

def binder : Nat → Reader (List Token)
  | 0 => failure
  | bound + 1 => do
    match ← get with
    | .word "for" :: .mark '<' _ :: rest => do
      set rest
      return .word "for" :: .single '<' :: (← binderItems bound) ++ [.single '>']
    | _ => return []

def binderItems : Nat → Reader (List Token)
  | 0 => failure
  | bound + 1 => do
    if ← acceptMark '>' then return []
    let attributes ← attributes
    let item ← binderItem bound
    if ← acceptMark '>' then return attributes ++ item
    expectMark ','
    return attributes ++ item ++ .single ',' :: (← binderItems bound)

def binderItem : Nat → Reader (List Token)
  | 0 => failure
  | bound + 1 => do
    match ← lifetime? with
    | some name =>
      if ← acceptMark ':' then
        let bounds ← lifetimeBounds
        return .lifetime name :: (if bounds.isEmpty then [] else .single ':' :: bounds)
      else return [.lifetime name]
    | none => do
      if ← acceptWord "const" then return ← constantItem bound
      let name ← word
      let bounds ←
        if ← acceptMark ':' then do
          let (bounds, trailing) ← constraints bound
          if bounds.isEmpty then pure []
          else pure (.single ':' :: TypeExpr.plusList trailing (TypeExpr.boundTokens bounds))
        else pure []
      if ← acceptMark '=' then
        let type ← type bound true
        return .word name :: bounds ++ .single '=' :: type.tokens
      else return .word name :: bounds

def constantItem : Nat → Reader (List Token)
  | 0 => failure
  | bound + 1 => do
    let name ← word
    expectMark ':'
    let type ← type bound true
    let item := .word "const" :: .word name :: .single ':' :: type.tokens
    if ← acceptMark '=' then
      match ← constant? with
      | some value => return item ++ .single '=' :: value
      | none => return item ++ [.single '=', .word (← word)]
    else return item

def sequenceOf : Nat → Reader TypeExpr
  | 0 => failure
  | bound + 1 => do
    let item ← type bound true
    if ← acceptMark ';' then
      guard (!(← atEnd))
      return .array item (← remainingExpression)
    else return .slice item

def functionPointer : Nat → (lead : List Token) → Reader TypeExpr
  | 0, _ => failure
  | bound + 1, lead => do
    let lead ← if ← acceptWord "unsafe" then pure (lead ++ [.word "unsafe"]) else pure lead
    let lead ←
      if ← acceptWord "extern" then do
        match ← peek with
        | some (.literal text) =>
          skip
          pure (lead ++ [.word "extern", .literal text])
        | _ => pure (lead ++ [.word "extern"])
      else pure lead
    guard (← acceptWord "fn")
    match ← peek with
    | some (.group .round content) => do
      skip
      let (items, trailing) ← within content (commaSeparated (parameter bound) bound)
      return .function lead items (trailing && !items.isEmpty) (← output bound)
    | _ => failure

/-- A parameter of a function pointer. A receiver that is marked as mutable is kept as it is
written. -/
def parameter : Nat → Reader Parameter
  | 0 => failure
  | bound + 1 => do
    let attributes ← attributes
    if ← acceptEllipsis then return .variadic attributes none
    let tokens ← get
    match tokens with
    | .word "mut" :: .word "self" :: rest => do
      set rest
      if ← acceptMark ':' then
        let _ ← type bound true
        return .unnamed attributes (.verbatim (taken tokens (← get)))
      else return .unnamed attributes (.verbatim (taken tokens rest))
    | .word name :: .mark ':' joint :: rest =>
      if atDoubleColon (.mark ':' joint :: rest) then
        return .unnamed attributes (← type bound true)
      else do
        set rest
        if ← acceptEllipsis then return .variadic attributes (some name)
        else return .named attributes name (← type bound true)
    | _ => return .unnamed attributes (← type bound true)

end

/-! ### Types in other readers -/

def depth : Reader Nat := do return levelsPerToken * (Token.countAll (← get) + 1)

def typeTokens : Reader (List Token) := do return (← type (← depth) true).tokens

end Reader

end Weave.Declaration
