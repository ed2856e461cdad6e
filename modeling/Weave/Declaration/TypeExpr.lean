import Weave.Declaration.Token

/-! Types as declarations write them, and the tokens they consist of. -/

namespace Weave.Declaration

mutual

/-- A type as it is written. A `projection` is a path that starts from a type in angle brackets,
perhaps seen as some trait; `function` is a function pointer, with the words before its parameters
in `lead`; an `expansion` stands for whatever a macro gives, and a `substituted` type is one that a macro
put there, between delimiters that are not written; `verbatim` is kept as it is written.
`trailing` tells of a separator behind the last item. -/
inductive TypeExpr where
  | path (rooted : Bool) (segments : List Segment)
  | projection (self : TypeExpr) (rooted : Bool) (via rest : List Segment)
  | reference (lifetime : Option String) (mutable : Bool) (inner : TypeExpr)
  | pointer (mutable : Bool) (inner : TypeExpr)
  | tuple (items : List TypeExpr) (trailing : Bool)
  | parenthesised (inner : TypeExpr)
  | substituted (inner : TypeExpr)
  | slice (item : TypeExpr)
  | array (item : TypeExpr) (length : List Token)
  | function (lead : List Token) (parameters : List Parameter) (trailing : Bool)
      (output : Option TypeExpr)
  | traitObject (keyword : Bool) (bounds : List Bound) (trailing : Bool)
  | implTrait (bounds : List Bound) (trailing : Bool)
  | expansion (rooted : Bool) (segments : List Segment) (body : Token)
  | never
  | inferred
  | verbatim (tokens : List Token)

/-- One name of a path, with its arguments in angle brackets or, for function traits, in round ones.
A double colon may stand before the angle bracket. -/
inductive Segment where
  | plain (name : String)
  | generic (name : String) (colons : Bool) (arguments : List Argument) (trailing : Bool)
  | callable (name : String) (inputs : List TypeExpr) (trailing : Bool) (output : Option TypeExpr)

inductive Argument where
  | lifetime (name : String)
  | type (type : TypeExpr)
  | constant (value : List Token)
  | binding (head : Segment) (type : TypeExpr)
  | boundConstant (head : Segment) (value : List Token)
  | constrained (head : Segment) (bounds : List Bound) (trailing : Bool)

inductive Bound where
  | lifetime (name : String)
  | trait (lead : List Token) (rooted : Bool) (segments : List Segment)
  | parenthesised (inner : Bound)
  | captured (items : List (Bool × List Token)) (trailing : Bool)
  | verbatim (tokens : List Token)

/-- A parameter of a function pointer, behind its attributes. -/
inductive Parameter where
  | unnamed (attributes : List Token) (type : TypeExpr)
  | named (attributes : List Token) (name : String) (type : TypeExpr)
  | variadic (attributes : List Token) (name : Option String)

end

namespace TypeExpr

def separated (separator : Token) (trailing : Bool) : List (List Token) → List Token
  | [] => []
  | [last] => last ++ if trailing then [separator] else []
  | item :: rest => item ++ separator :: separated separator trailing rest

def comma : Token := .single ','

def commaList (trailing : Bool) (items : List (List Token)) : List Token :=
  separated comma trailing items

def plusList (trailing : Bool) (items : List (List Token)) : List Token :=
  separated (.single '+') trailing items

def withCommas {α : Type} (trailing : Bool) : List α → List (α × Bool)
  | [] => []
  | [last] => [(last, trailing)]
  | item :: rest => (item, true) :: withCommas trailing rest

/-- Generic arguments are spelled with the lifetimes first, each keeping its comma; a comma is put
between the two groups if the first group does not end with one. -/
def argumentTokens (trailing : Bool) (items : List (Bool × List Token)) : List Token :=
  let marked := withCommas trailing items
  let spell := fun (item : (Bool × List Token) × Bool) =>
    item.1.2 ++ if item.2 then [comma] else []
  let lifetimes := marked.filter (·.1.1)
  let others := marked.filter (!·.1.1)
  let between := if others.isEmpty || lifetimes.getLast?.all (·.2) then [] else [comma]
  lifetimes.flatMap spell ++ between ++ others.flatMap spell

def root (rooted : Bool) : List Token := if rooted then Token.doubleColon else []

def nameTokens : Option String → List Token
  | some name => [.word name, .single ':']
  | none => []

def mutability (mutable : Bool) : List Token := if mutable then [.word "mut"] else []

mutual

def tokens : TypeExpr → List Token
  | path rooted segments => root rooted ++ pathTokens segments
  | projection self _ [] rest =>
    .single '<' :: self.tokens ++ .single '>' :: Token.doubleColon ++ pathTokens rest
  | projection self rooted (head :: via) rest =>
    .single '<' :: self.tokens ++ .word "as" :: root rooted ++ pathTokens (head :: via) ++
      .single '>' :: Token.doubleColon ++ pathTokens rest
  | reference lifetime mutable inner =>
    .single '&' :: (lifetime.map Token.lifetime).toList ++ mutability mutable ++ inner.tokens
  | pointer mutable inner =>
    .single '*' :: .word (if mutable then "mut" else "const") :: inner.tokens
  | tuple items trailing => [.group .round (commaList trailing (listTokens items))]
  | parenthesised inner => [.group .round inner.tokens]
  | substituted inner => inner.tokens
  | slice item => [.group .square item.tokens]
  | array item length => [.group .square (item.tokens ++ .single ';' :: length)]
  | function lead parameters trailing output =>
    lead ++ .word "fn" :: .group .round (commaList trailing (parameterTokens parameters)) ::
      outputTokens output
  | traitObject keyword bounds trailing =>
    (if keyword then [.word "dyn"] else []) ++ plusList trailing (boundTokens bounds)
  | implTrait bounds trailing => .word "impl" :: plusList trailing (boundTokens bounds)
  | expansion rooted segments body => root rooted ++ pathTokens segments ++ [.single '!', body]
  | never => [.single '!']
  | inferred => [.word "_"]
  | verbatim tokens => tokens

def listTokens : List TypeExpr → List (List Token)
  | [] => []
  | type :: rest => type.tokens :: listTokens rest

def outputTokens : Option TypeExpr → List Token
  | none => []
  | some type => Token.arrow ++ type.tokens

def segmentTokens : Segment → List Token
  | .plain name => [.word name]
  | .generic name colons arguments trailing =>
    .word name :: (if colons then Token.doubleColon else []) ++ .single '<' ::
      argumentTokens trailing (argumentList arguments) ++ [.single '>']
  | .callable name inputs trailing output =>
    .word name :: .group .round (commaList trailing (listTokens inputs)) :: outputTokens output

def pathTokens : List Segment → List Token
  | [] => []
  | [last] => segmentTokens last
  | segment :: rest => segmentTokens segment ++ Token.doubleColon ++ pathTokens rest

/-- The tokens of each argument, and whether it is a lifetime. -/
def argumentList : List Argument → List (Bool × List Token)
  | [] => []
  | .lifetime name :: rest => (true, [.lifetime name]) :: argumentList rest
  | .type type :: rest => (false, type.tokens) :: argumentList rest
  | .constant value :: rest => (false, value) :: argumentList rest
  | .binding head type :: rest =>
    (false, segmentTokens head ++ .single '=' :: type.tokens) :: argumentList rest
  | .boundConstant head value :: rest =>
    (false, segmentTokens head ++ .single '=' :: value) :: argumentList rest
  | .constrained head bounds trailing :: rest =>
    (false, segmentTokens head ++ .single ':' :: plusList trailing (boundTokens bounds)) ::
      argumentList rest

def boundToken : Bound → List Token
  | .lifetime name => [.lifetime name]
  | .trait lead rooted segments => lead ++ root rooted ++ pathTokens segments
  | .parenthesised inner => [.group .round (boundToken inner)]
  | .captured items trailing =>
    .word "use" :: .single '<' :: argumentTokens trailing items ++ [.single '>']
  | .verbatim tokens => tokens

def boundTokens : List Bound → List (List Token)
  | [] => []
  | bound :: rest => boundToken bound :: boundTokens rest

def parameterTokens : List Parameter → List (List Token)
  | [] => []
  | .unnamed attributes type :: rest => (attributes ++ type.tokens) :: parameterTokens rest
  | .named attributes name type :: rest =>
    (attributes ++ .word name :: .single ':' :: type.tokens) :: parameterTokens rest
  | .variadic attributes name :: rest =>
    (attributes ++ nameTokens name ++ Token.ellipsis) :: parameterTokens rest

end

end TypeExpr

end Weave.Declaration
