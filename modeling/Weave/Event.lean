import Weave.TargetClass

/-! What the log tells. The engine and advice append events as they go on, and every event is a line
of the log at some level. -/

namespace Weave

abbrev ObjectId := Nat

abbrev SourceId := Nat

/-- An object that calls can be made on: which one, and of what type. -/
structure Target where
  id : ObjectId
  type : ObjectType
deriving DecidableEq, Repr

inductive Level where
  | error | warn | info | debug | trace
deriving DecidableEq, Repr

namespace Level

def name : Level → String
  | error => "ERROR"
  | warn => "WARN"
  | info => "INFO"
  | debug => "DEBUG"
  | trace => "TRACE"

end Level

inductive Event where
  | releaseFailed (className : String) (fault : Fault)
  | prototypeCreated (className : String)
  | pooledCreated (className : String)
  | swapped (className : String)
  | chainResolved (count : Nat) (method : Method) (className : String)
  | noAdvice (method : Method)
  | advisorSkipped (advisor : String) (method : Method)
  | chainEnded (method : Method)
  | entering (method : Method) (arguments : Option Nat)
  | exiting (method : Method) (fault : Option Fault)
  | slow (method : Method) (threshold : Nat)
  | timed (method : Method)
  | raised (method : Method) (info : ErrorInfo)
  | retrying (method : Method) (attempt limit : Nat) (fault : Fault)
  | advisorAdded (name : String) (position : Nat)
  | advisorInserted (name : String) (position : Nat)
  | proxyCreated (strategy : Strategy) (className : String) (advisors : Nat)
  | classRegistered (className : String)
  | classReplaced (className : String)
  | autoLoading (count : Nat)
  | loadingClass (registration : String)
  | propertiesLoaded (description : String)
  | processorAdded (name : String) (order : Int)
  | processorApplied (name bean : String)
  | beanSelected (bean : String)
  | beanPassedOver (bean : String)
  | beanAlreadyProxy (bean : String)
  | beanWrapped (bean : String) (strategy : Strategy) (advisors : Nat)

namespace Event

/-- Elapsed times are not part of a message; this stands in their place. -/
def elapsed : String := "<t>"

def line : Event → Level × String
  | releaseFailed className fault =>
    (.warn, "⚠️ Failed to release target of '" ++ className ++ "': " ++ fault.oneLine)
  | prototypeCreated className => (.trace, "Created prototype target of '" ++ className ++ "'")
  | pooledCreated className => (.debug, "Pool for '" ++ className ++ "' created a new target")
  | swapped className => (.debug, "Swapped target of '" ++ className ++ "'")
  | chainResolved count method className =>
    (.trace, "Resolved " ++ toString count ++ " interceptor(s) for " ++ method.signature ++
      " on '" ++ className ++ "'")
  | noAdvice method =>
    (.trace, "No advisors apply to " ++ method.signature ++ ", invoking target directly")
  | advisorSkipped advisor method =>
    (.trace, "Skipping advisor '" ++ advisor ++ "' for " ++ method.signature ++
      ": runtime match failed")
  | chainEnded method => (.trace, "Invoking target method " ++ method.signature)
  | entering method none => (.info, "→ Entering: " ++ method.signature)
  | entering method (some count) =>
    (.info, "→ Entering: " ++ method.signature ++ " (" ++ toString count ++ " argument(s))")
  | exiting method none =>
    (.info, "← Exiting: " ++ method.signature ++ " (took " ++ elapsed ++ ")")
  | exiting method (some fault) =>
    (.info, "← Exiting: " ++ method.signature ++ " with error '" ++ fault.message ++
      "' (took " ++ elapsed ++ ")")
  | slow method threshold =>
    (.warn, "⚠️ Slow method detected: " ++ method.signature ++ " took " ++ elapsed ++
      " (threshold: " ++ toString threshold ++ "ms)")
  | timed method => (.debug, method.signature ++ " took " ++ elapsed)
  | raised method info =>
    (.error, "❌ Exception in " ++ method.signature ++ " [" ++ info.errorType ++ "]: " ++
      info.fullDescription)
  | retrying method attempt limit fault =>
    (.warn, "🔁 Retrying " ++ method.signature ++ " after attempt " ++ toString attempt ++
      "/" ++ toString limit ++ " failed: " ++ fault.message)
  | advisorAdded name position =>
    (.debug, "Adding advisor '" ++ name ++ "' at position " ++ toString position)
  | advisorInserted name position =>
    (.debug, "Inserting advisor '" ++ name ++ "' at position " ++ toString position)
  | proxyCreated strategy className advisors =>
    (.debug, "Creating " ++ strategy.name ++ " proxy for '" ++ className ++ "' with " ++
      toString advisors ++ " advisor(s)")
  | classRegistered className => (.debug, "Registering target class: " ++ className)
  | classReplaced className =>
    (.warn, "Target class '" ++ className ++ "' was registered twice, replacing")
  | autoLoading count =>
    (.info, "Auto-loading " ++ toString count ++ " target class(es) from registry")
  | loadingClass registration => (.debug, "  ├─ Loading target class: " ++ registration)
  | propertiesLoaded description => (.debug, "Loaded AOP properties: " ++ description)
  | processorAdded name order =>
    (.debug,
      "Registering BeanPostProcessor '" ++ name ++ "' (order: " ++ toString order ++ ")")
  | processorApplied name bean =>
    (.trace, "Applying '" ++ name ++ "' to bean '" ++ bean ++ "'")
  | beanSelected bean =>
    (.info, "🔷 [AOP-AutoProxy] Bean '" ++ bean ++ "' matches auto-proxy bean names")
  | beanPassedOver bean =>
    (.trace, "Bean '" ++ bean ++ "' does not match any auto-proxy rule, skipping")
  | beanAlreadyProxy bean =>
    (.debug, "Bean '" ++ bean ++ "' is already an AOP proxy, skipping")
  | beanWrapped bean strategy advisors =>
    (.info, "🔷 [AOP-AutoProxy] Wrapped bean '" ++ bean ++ "' with " ++ strategy.name ++
      " proxy (" ++ toString advisors ++ " advisor(s))")

end Event

end Weave
