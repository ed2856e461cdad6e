import Weave.Glob
import Weave.Pointcut.Matchers
import Weave.Text.Blank

/-! Pointcut expressions: rules on type and method names joined by and, or and not. An expression
is a pointcut by itself. Its class filter is conservative: it refuses a class only if no method of
it can match, so a negation and rules on methods refuse none. -/

namespace Weave

variable [ValueTypes]

structure NamedRegex where
  pattern : String
  regex : Regex

inductive Expression where
  | all
  | typePattern (pattern : String)
  | methodPattern (pattern : String)
  | execution (typeRule methodRule : String)
  | typeRegex (rule : NamedRegex)
  | methodRegex (rule : NamedRegex)
  | custom (check : Method → TargetClass → Bool)
  | and (left right : Expression)
  | or (left right : Expression)
  | not (inner : Expression)

namespace Expression

def anyTypeName (cls : TargetClass) (check : String → Bool) : Bool :=
  check cls.name || cls.interfaceNames.any check

def anyOwnerName (method : Method) (cls : TargetClass) (check : String → Bool) : Bool :=
  check cls.name || check method.declaringType

def matchesClass (cls : TargetClass) : Expression → Bool
  | typePattern pattern | execution pattern _ => anyTypeName cls (Glob.accepts pattern)
  | typeRegex rule => anyTypeName cls rule.regex.occursIn
  | and left right => matchesClass cls left && matchesClass cls right
  | or left right => matchesClass cls left || matchesClass cls right
  | all | methodPattern _ | methodRegex _ | custom _ | not _ => true

def matchesMethod (method : Method) (cls : TargetClass) : Expression → Bool
  | all => true
  | typePattern pattern => anyOwnerName method cls (Glob.accepts pattern)
  | methodPattern pattern => Glob.accepts pattern method.name
  | execution typeRule methodRule =>
    anyOwnerName method cls (Glob.accepts typeRule) && Glob.accepts methodRule method.name
  | typeRegex rule => anyOwnerName method cls rule.regex.occursIn
  | methodRegex rule => rule.regex.occursIn method.name
  | custom check => check method cls
  | and left right => matchesMethod method cls left && matchesMethod method cls right
  | or left right => matchesMethod method cls left || matchesMethod method cls right
  | not inner => !matchesMethod method cls inner

def classFilter (expression : Expression) : ClassFilter := fun cls => expression.matchesClass cls

def methodMatcher (expression : Expression) : MethodMatcher :=
  .ofStatic fun method cls => expression.matchesMethod method cls

def pointcut (expression : Expression) : Pointcut :=
  ⟨expression.classFilter, expression.methodMatcher⟩

def describe : Expression → String
  | all => "All"
  | typePattern pattern => "TypePattern(" ++ pattern ++ ")"
  | methodPattern pattern => "MethodPattern(" ++ pattern ++ ")"
  | execution typeRule methodRule => "Execution(" ++ typeRule ++ "." ++ methodRule ++ ")"
  | typeRegex rule => "TypeRegex(" ++ rule.pattern ++ ")"
  | methodRegex rule => "MethodRegex(" ++ rule.pattern ++ ")"
  | custom _ => "Custom(...)"
  | and left right => "And(" ++ left.describe ++ ", " ++ right.describe ++ ")"
  | or left right => "Or(" ++ left.describe ++ ", " ++ right.describe ++ ")"
  | not inner => "Not(" ++ inner.describe ++ ")"

def readRegex (pattern : String) : Except ConfigError NamedRegex :=
  match Regex.parse? pattern with
  | some regex => .ok ⟨pattern, regex⟩
  | none => .error (.invalidPointcut ("invalid regex '" ++ pattern ++ "'"))

end Expression

/-! ### Execution expressions

A text such as `execution(* Shop.order_*(..))` names a method, perhaps with its type. Only the last
word counts; a parameter list at its end is cut off at the first parenthesis. -/

inductive ExecutionFlaw where
  | unclosed | empty | unbalanced | missingPart | missingName
deriving DecidableEq, Repr

def ExecutionFlaw.message : ExecutionFlaw → String
  | unclosed => "missing closing ')'"
  | empty => "empty expression"
  | unbalanced => "unbalanced parameter list"
  | missingPart => "missing type or method name"
  | missingName => "missing method name"

namespace Execution

def splitLast (separator : List Char) : List Char → Option (List Char × List Char)
  | [] => none
  | c :: rest =>
    match splitLast separator rest with
    | some (before, after) => some (c :: before, after)
    | none =>
      if separator.isPrefixOf (c :: rest) then some ([], (c :: rest).drop separator.length)
      else none

def body (text : List Char) : Except ExecutionFlaw (List Char) :=
  let trimmed := Text.trim text
  let opening := "execution(".toList
  if opening.isPrefixOf trimmed then
    let inner := trimmed.drop opening.length
    if inner.getLast? = some ')' then .ok (Text.trim inner.dropLast) else .error .unclosed
  else .ok trimmed

def qualifiedName (body : List Char) : Except ExecutionFlaw (List Char) :=
  match (Text.words body).getLast? with
  | none => .error .empty
  | some word =>
    if word.contains '(' then
      if word.getLast? = some ')' then .ok (word.takeWhile (· ≠ '(')) else .error .unbalanced
    else .ok word

/-- The type pattern, if there is one, and the method pattern: they are split at the last double
colon or, without any, at the last dot. -/
def parts (name : List Char) : Except ExecutionFlaw (Option (List Char) × List Char) :=
  match splitLast [':', ':'] name <|> splitLast ['.'] name with
  | some (typeRule, methodRule) =>
    if typeRule.isEmpty || methodRule.isEmpty then .error .missingPart
    else .ok (some typeRule, methodRule)
  | none => if name.isEmpty then .error .missingName else .ok (none, name)

def read (text : List Char) : Except ExecutionFlaw (Option (List Char) × List Char) := do
  parts (← qualifiedName (← body text))

end Execution

namespace Expression

/-- Reads an execution expression; an error shows the text as it was given. -/
def ofExecution (text : String) : Except ConfigError Expression :=
  match Execution.read text.toList with
  | .ok (some typeRule, methodRule) =>
    .ok (.execution (String.ofList typeRule) (String.ofList methodRule))
  | .ok (none, methodRule) => .ok (.methodPattern (String.ofList methodRule))
  | .error flaw => .error (.invalidPointcut ("'" ++ text ++ "': " ++ flaw.message))

end Expression

end Weave
