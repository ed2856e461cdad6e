import Weave.Declaration.Statement
import Weave.Declaration.TokenReader

/-! The readers for what is nested, level by level, and types from texts. -/

namespace Weave.Declaration

namespace Reader

def nested : Nat → Nested
  | 0 =>
    { expression := fun _ => failure, operand := fun _ => failure, blockForm := failure
      pattern := failure, statements := failure, items := fun _ => failure }
  | level + 1 =>
    { expression := fun fields tokens => expression fields (nested level) tokens
      operand := fun fields tokens => operand fields (nested level) tokens
      blockForm := fun tokens => blockForm (nested level) tokens
      pattern := fun tokens => pattern (nested level) tokens
      statements := fun tokens => statements (nested level) tokens
      items := fun place tokens => items place (nested level) tokens }

end Reader

namespace TypeExpr

def ofTokens? (tokens : List Token) : Option TypeExpr :=
  let level := Reader.levelsPerToken * (Token.countAll tokens + 1)
  match Reader.type level true (Reader.nested level) tokens with
  | some (type, []) => some type
  | _ => none

def read? (text : String) : Option TypeExpr := (Token.readAll? text).bind ofTokens?

end TypeExpr

end Weave.Declaration
