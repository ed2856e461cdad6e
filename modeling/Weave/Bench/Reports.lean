import Weave.Event

/-! Workbench: what is shown of errors and of the log. An error is shown by its family and its
variant there, and the log by its lines from a level on, with the durations in them struck out. -/

namespace Weave

/-! ### Errors -/

def ConfigError.variant : ConfigError → String
  | notSubclassable _ _ => "NotSubclassable"
  | frozen _ => "Frozen"
  | invalidPointcut _ => "InvalidPointcut"
  | indexOutOfBounds _ _ => "AdvisorIndexOutOfBounds"
  | interfaceNotImplemented _ _ => "InterfaceNotImplemented"
  | notAClassProxy _ _ => "NotAClassProxy"
  | targetTypeMismatch _ => "TargetTypeMismatch"
  | invalidProperties _ | malformedProperties => "InvalidProperties"

def InvocationError.variant : InvocationError → String
  | methodNotProxied _ _ => "MethodNotProxied"
  | unknownMethod _ _ => "UnknownMethod"
  | argumentMismatch _ _ _ => "ArgumentMismatch"
  | returnTypeMismatch _ _ => "ReturnTypeMismatch"
  | targetTypeMismatch _ => "TargetTypeMismatch"
  | poolExhausted _ => "PoolExhausted"

def FamilyError.variantName : FamilyError → String
  | declared variant _ _ => variant
  | other _ => "Other"

/-- The family of an error and its variant there: engine errors are looked for before those of
the declared families, and an error of none has no kind. -/
def Fault.kind? (families : List String) (fault : Fault) : Option (String × String) :=
  match fault.invocation?, fault.config? with
  | some error, _ => some ("InvocationError", error.variant)
  | none, some error => some ("AopConfigError", error.variant)
  | none, none =>
    families.findSome? fun family =>
      (FamilyError.find? family fault).map fun error => (family, error.variantName)

/-! ### The log -/

namespace Level

def rank : Level → Nat
  | error => 0
  | warn => 1
  | info => 2
  | debug => 3
  | trace => 4

def all : List Level := [error, warn, info, debug, trace]

def ofName? (name : String) : Option Level := all.find? (·.name == name.toUpper)

end Level

namespace Duration

def lead : List Char := "took ".toList

def units : List (List Char) := ["ns", "µs", "ms", "s"].map String.toList

def lengthAt? (text : List Char) : Option Nat :=
  let afterLead := text.drop lead.length
  let number := afterLead.takeWhile fun c => c.isDigit || c = '.'
  if lead.isPrefixOf text && !number.isEmpty then
    (units.find? (·.isPrefixOf (afterLead.drop number.length))).map fun unit =>
      lead.length + number.length + unit.length
  else none

/-- Puts the mark in the place of every written duration; `skip` characters belong to the last. -/
def hide (skip : Nat) : List Char → List Char
  | [] => []
  | c :: rest =>
    match skip with
    | skip + 1 => hide skip rest
    | 0 =>
      match lengthAt? (c :: rest) with
      | some length => lead ++ Event.elapsed.toList ++ hide (length - 1) rest
      | none => c :: hide 0 rest

end Duration

/-- The lines of a log kept at a level: events of that level or more severe, in order. -/
def logLines (level : Level) (events : List Event) : List (Level × String) :=
  ((events.map Event.line).filter fun line => line.1.rank ≤ level.rank).map
    fun (level, text) => (level, String.ofList (Duration.hide 0 text.toList))

end Weave
