import Weave.Text.Quoted

/-! The four flags of a proxy configuration. -/

namespace Weave

structure ProxyFlags where
  proxyTargetClass : Bool := false
  optimize : Bool := false
  frozen : Bool := false
  exposeProxy : Bool := false
deriving DecidableEq, Repr

def ProxyFlags.describe (flags : ProxyFlags) : String :=
  Text.record "ProxyConfig" [("proxy_target_class", toString flags.proxyTargetClass),
    ("optimize", toString flags.optimize), ("frozen", toString flags.frozen),
    ("expose_proxy", toString flags.exposeProxy)]

end Weave
