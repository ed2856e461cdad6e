import Weave.Fault
import Weave.Flags
import Weave.Toml.Document

/-! The properties of a program as its configuration file gives them, in the tables `aop.proxy` and
`aop.auto-proxy`. Unknown keys are passed over and missing ones have their defaults. A group of
properties may also be written as an array in the order of its fields. -/

namespace Weave

structure AutoProxyProperties where
  beanNames : List String := []
  interceptorNames : List String := []
  applyCommonFirst : Bool := true
deriving DecidableEq, Repr

structure Properties where
  proxy : ProxyFlags := {}
  autoProxy : AutoProxyProperties := {}
deriving DecidableEq, Repr

/-- Why there is no text at a path, in the words of the system that looked for it. -/
structure PathFault where
  message : String

namespace Properties

def describe (properties : Properties) : String :=
  Text.record "AopProperties" [("proxy", properties.proxy.describe),
    ("auto_proxy", Text.record "AutoProxyProperties"
      [("bean_names", Text.quotedList properties.autoProxy.beanNames),
        ("interceptor_names", Text.quotedList properties.autoProxy.interceptorNames),
        ("apply_common_first", toString properties.autoProxy.applyCommonFirst)])]

/-- A group of properties: a table by key or an array by position. A time counts as a table that
has none of the keys. -/
inductive Group where
  | byKey (entries : Toml.Entries)
  | byPosition (items : List Toml.Node)

def Group.of? : Toml.Node → Option Group
  | .table _ entries => some (.byKey entries)
  | .array items | .tables items => some (.byPosition items)
  | .datetime => some (.byKey [])
  | _ => none

/-- The value of one field: its default if it is not given, nothing if it is given wrongly. -/
def Group.field {α : Type} (group : Group) (position : Nat) (key : String)
    (read? : Toml.Node → Option α) (default : α) : Option α :=
  let given :=
    match group with
    | byKey entries => entries.find? key
    | byPosition items => items[position]?
  match given with
  | some node => read? node
  | none => some default

def boolean? : Toml.Node → Option Bool
  | .boolean value => some value
  | _ => none

def string? : Toml.Node → Option String
  | .string text => some text
  | _ => none

def strings? (node : Toml.Node) : Option (List String) :=
  node.items?.bind fun items => items.mapM string?

def flags? (node : Toml.Node) : Option ProxyFlags := do
  let group ← Group.of? node
  let proxyTargetClass ← group.field 0 "proxy-target-class" boolean? false
  let optimize ← group.field 1 "optimize" boolean? false
  let frozen ← group.field 2 "frozen" boolean? false
  let exposeProxy ← group.field 3 "expose-proxy" boolean? false
  pure { proxyTargetClass, optimize, frozen, exposeProxy }

def autoProxy? (node : Toml.Node) : Option AutoProxyProperties := do
  let group ← Group.of? node
  let beanNames ← group.field 0 "bean-names" strings? []
  let interceptorNames ← group.field 1 "interceptor-names" strings? []
  let applyCommonFirst ← group.field 2 "apply-common-first" boolean? true
  pure { beanNames, interceptorNames, applyCommonFirst }

def ofNode? (node : Toml.Node) : Option Properties := do
  let group ← Group.of? node
  let proxy ← group.field 0 "proxy" flags? {}
  let autoProxy ← group.field 1 "auto-proxy" autoProxy? {}
  pure { proxy, autoProxy }

def ofDocument? (entries : Toml.Entries) : Option Properties :=
  match entries.find? "aop" with
  | some node => ofNode? node
  | none => some {}

def read (content : String) : Except ConfigError Properties :=
  match (Toml.document? content).bind ofDocument? with
  | some properties => .ok properties
  | none => .error .malformedProperties

def ofFile (readText : String → Except PathFault String) (path : String) :
    Except ConfigError Properties :=
  match readText path with
  | .ok content => read content
  | .error fault => .error (.invalidProperties ("cannot read " ++ path ++ ": " ++ fault.message))

end Properties

end Weave
