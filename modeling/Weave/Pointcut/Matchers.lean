import Weave.NameRule
import Weave.Pointcut.Basic
import Weave.Regex.Reading

/-! The usual class filters and method matchers: by name rules, by regular expressions over
qualified method names, by the class's own type. -/

namespace Weave

variable [ValueTypes]

namespace ClassFilter

def names (rules : List String) : ClassFilter := fun cls => rules.any (NameRule.selects · cls.name)

def root (type : ObjectType) : ClassFilter := fun cls => cls.type == type

end ClassFilter

namespace MethodMatcher

def names (rules : List String) : MethodMatcher :=
  .ofStatic fun method _ => rules.any (NameRule.selects · method.name)

def dynamic (check : Method → TargetClass → Arguments → Bool)
    (staticCheck : Method → TargetClass → Bool := fun _ _ => true) : MethodMatcher :=
  ⟨staticCheck, true, check⟩

end MethodMatcher

/-- A pattern for whole texts: the pattern's own text is put between anchors and read. -/
def Regex.anchored? (pattern : String) : Option Regex := parse? ("^(?:" ++ pattern ++ ")$")

def Regex.readAll (read? : String → Option Regex) : List String → Except ConfigError (List Regex)
  | [] => .ok []
  | pattern :: rest =>
    match read? pattern with
    | none => .error (.invalidPointcut ("invalid regex '" ++ pattern ++ "'"))
    | some regex =>
      match readAll read? rest with
      | .ok others => .ok (regex :: others)
      | .error error => .error error

/-- Regular expressions on qualified method names, less the excluded ones. -/
structure RegexRules where
  patterns : List Regex
  excluded : List Regex := []

namespace RegexRules

def read (patterns : List String) (excluded : List String := []) :
    Except ConfigError RegexRules := do
  let patterns ← Regex.readAll Regex.anchored? patterns
  let excluded ← Regex.readAll Regex.anchored? excluded
  pure ⟨patterns, excluded⟩

/-- Whether a qualified name is matched and not excluded. -/
def acceptsName (rules : RegexRules) (name : String) : Bool :=
  rules.patterns.any (·.occursIn name) && !rules.excluded.any (·.occursIn name)

def qualified (typeName : String) (method : Method) : String := typeName ++ "::" ++ method.name

/-- The method under its declaring type or, if that is another name, under its class. -/
def accepts (rules : RegexRules) (method : Method) (cls : TargetClass) : Bool :=
  rules.acceptsName (qualified method.declaringType method) ||
    (cls.name != method.declaringType && rules.acceptsName (qualified cls.name method))

def matcher (rules : RegexRules) : MethodMatcher := .ofStatic rules.accepts

end RegexRules

namespace Pointcut

def methodNames (rules : List String) : Pointcut := ⟨fun _ => true, .names rules⟩

def regex (patterns : List String) : Except ConfigError Pointcut :=
  (RegexRules.read patterns).map fun rules => ⟨fun _ => true, rules.matcher⟩

end Pointcut

end Weave
