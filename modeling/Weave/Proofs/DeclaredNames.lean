import Weave.Proofs.ProxiedSignatures
import Weave.Text.Charset
import Std.Data.String.ToNat

/-! Names that clash in a declared proxy. The constants are the upper-cased names of the methods and stand
beside the list of all of them, the parameters without a name are called by their position among those with
one, and the forwarding methods of a class stand beside the method that gives the proxy itself. -/

namespace Weave

/-! ### Upper case -/

namespace Text

/-- A property of ASCII characters by their codes. -/
theorem of_ascii (property : Char → Prop) (each : ∀ code : Fin 128, property (Char.ofNat code)) {c : Char}
    (ascii : isAscii c = true) : property c := by
  have bound : c.toNat < 128 := by simpa [isAscii] using ascii
  have here := each ⟨c.toNat, bound⟩
  rwa [Char.ofNat_toNat] at here

def smallLetters : CaseRun := ⟨97, 122, 1, -32⟩

theorem upper_eq_letters {c : Char} (ascii : isAscii c = true) :
    upper c = [(moved? [smallLetters] c).getD c] := by
  have bound : c.toNat < 128 := by simpa [isAscii] using ascii
  have special : upperSpecial.lookup c.toNat = none := by
    have beyond : ∀ entry ∈ upperSpecial, 128 ≤ entry.1 := by decide +kernel
    rw [List.lookup_eq_none_iff]
    intro entry member
    have far := beyond entry member
    rw [bne_iff_ne]
    omega
  have missed : upperRuns.tail.find? (·.covers c.toNat) = none := by
    have beyond : ∀ run ∈ upperRuns.tail, 128 ≤ run.first := by decide +kernel
    rw [List.find?_eq_none]
    intro run member
    have far := beyond run member
    simp only [CaseRun.covers, Bool.and_eq_true, decide_eq_true_eq]
    omega
  have whole : upperRuns = smallLetters :: upperRuns.tail := rfl
  rw [upper, special, moved?, whole, List.find?_cons, missed, moved?]
  rfl

theorem upper_ascii {c : Char} (ascii : isAscii c = true) : upper c = [c.toUpper] := by
  have letters : ∀ code : Fin 128,
      (moved? [smallLetters] (Char.ofNat code)).getD (Char.ofNat code) =
        (Char.ofNat code).toUpper := by decide +kernel
  rw [upper_eq_letters ascii]
  exact congrArg (fun letter => [letter]) <|
    of_ascii (fun c => (moved? [smallLetters] c).getD c = c.toUpper) letters ascii

def isAsciiText (text : String) : Bool := text.toList.all isAscii

def isSmall (text : String) : Bool := isAsciiText text && text.toList.all (!·.isUpper)

variable {one other : String}

theorem toList_toUpper (text : String) : text.toUpper.toList = text.toList.map Char.toUpper :=
  String.toList_map

theorem toList_toLower (text : String) : text.toLower.toList = text.toList.map Char.toLower :=
  String.toList_map

theorem toUpper_ascii (ascii : isAsciiText one = true) : toUpper one = one.toUpper := by
  have each : ∀ c ∈ one.toList, upper c = [c.toUpper] := fun c member =>
    upper_ascii (List.all_eq_true.1 ascii c member)
  apply String.toList_injective
  rw [toUpper, String.toList_ofList, List.flatMap_congr each, ← List.map_eq_flatMap, toList_toUpper]

theorem map_map_ascii {step back last : Char → Char}
    (each : ∀ code : Fin 128, back (step (Char.ofNat code)) = last (Char.ofNat code))
    (ascii : isAsciiText one = true) : (one.toList.map step).map back = one.toList.map last := by
  rw [List.map_map]
  refine List.map_congr_left fun c member => ?_
  exact of_ascii (fun c => back (step c) = last c) each (List.all_eq_true.1 ascii c member)

theorem toLower_toUpper (ascii : isAsciiText one = true) : one.toUpper.toLower = one.toLower := by
  apply String.toList_injective
  rw [toList_toLower, toList_toUpper, toList_toLower]
  exact map_map_ascii (by decide +kernel) ascii

theorem toUpper_toLower (ascii : isAsciiText one = true) : one.toLower.toUpper = one.toUpper := by
  apply String.toList_injective
  rw [toList_toUpper, toList_toLower, toList_toUpper]
  exact map_map_ascii (by decide +kernel) ascii

theorem toUpper_eq_iff (here : isAsciiText one = true) (there : isAsciiText other = true) :
    toUpper one = toUpper other ↔ one.toLower = other.toLower := by
  rw [toUpper_ascii here, toUpper_ascii there]
  constructor
  · intro same
    have again := congrArg String.toLower same
    rwa [toLower_toUpper here, toLower_toUpper there] at again
  · intro same
    have again := congrArg String.toUpper same
    rwa [toUpper_toLower here, toUpper_toLower there] at again

theorem isAsciiText_of_isSmall (small : isSmall one = true) : isAsciiText one = true :=
  (Bool.and_eq_true_iff.1 small).1

theorem toLower_small (small : isSmall one = true) : one.toLower = one := by
  have each : ∀ c ∈ one.toList, c.toLower = c := by
    intro c member
    have low := List.all_eq_true.1 (Bool.and_eq_true_iff.1 small).2 c member
    have kept : ∀ code : Fin 128, (!(Char.ofNat code).isUpper) = true →
        (Char.ofNat code).toLower = Char.ofNat code := by decide +kernel
    exact of_ascii (fun c => (!c.isUpper) = true → c.toLower = c) kept
      (List.all_eq_true.1 (isAsciiText_of_isSmall small) c member) low
  apply String.toList_injective
  rw [toList_toLower, List.map_congr_left each, List.map_id']

theorem toUpper_small (here : isSmall one = true) (there : isSmall other = true) :
    toUpper one = toUpper other ↔ one = other := by
  rw [toUpper_eq_iff (isAsciiText_of_isSmall here) (isAsciiText_of_isSmall there), toLower_small here,
    toLower_small there]

end Text

namespace Declaration

def Pattern.name? : Pattern → Option String
  | .name identifier => some identifier
  | .other => none

namespace Signature

/-! ### Parameters -/

def ownNames (parameters : List (Pattern × TypeExpr)) : List String :=
  parameters.filterMap fun parameter => parameter.1.name?.map plainName

/-- The places of the parameters without a name, counted from some number. -/
def unnamedFrom : Nat → List (Pattern × TypeExpr) → List Nat
  | _, [] => []
  | index, (.name _, _) :: rest => unnamedFrom (index + 1) rest
  | index, (.other, _) :: rest => index :: unnamedFrom (index + 1) rest

theorem le_of_mem_unnamedFrom {parameters : List (Pattern × TypeExpr)} {index place : Nat}
    (member : place ∈ unnamedFrom index parameters) : index ≤ place := by
  fun_induction unnamedFrom index parameters with
  | case1 => cases member
  | case2 _ _ _ _ ih => exact Nat.le_of_succ_le (ih member)
  | case3 _ _ _ ih =>
    rcases List.mem_cons.1 member with rfl | later
    · exact Nat.le_refl _
    · exact Nat.le_of_succ_le (ih later)

theorem unnamedFrom_nodup (index : Nat) (parameters : List (Pattern × TypeExpr)) :
    (unnamedFrom index parameters).Nodup := by
  fun_induction unnamedFrom index parameters with
  | case1 => exact List.nodup_nil
  | case2 _ _ _ _ ih => exact ih
  | case3 index _ _ ih =>
    refine List.nodup_cons.2 ⟨fun later => ?_, ih⟩
    exact Nat.not_succ_le_self index (le_of_mem_unnamedFrom later)

theorem argumentName_injective {one other : Nat}
    (same : argumentName one .other = argumentName other .other) : one = other :=
  Nat.repr_injective ((String.append_right_inj "__arg").1 same)

theorem plainName_argumentName (place : Nat) :
    plainName (argumentName place .other) = argumentName place .other := by
  simp [plainName, argumentName, String.toList_append]

/-- The names of all parameters are their own names and those by position. -/
theorem namesFrom_perm (index : Nat) (parameters : List (Pattern × TypeExpr)) :
    ((namesFrom index parameters).map fun parameter => plainName parameter.1).Perm
      (ownNames parameters ++ (unnamedFrom index parameters).map (argumentName · .other)) := by
  fun_induction unnamedFrom index parameters with
  | case1 => exact .nil
  | case2 index name type rest ih =>
    rw [namesFrom_cons]
    exact .cons _ ih
  | case3 index type rest ih =>
    rw [namesFrom_cons, List.map_cons, List.map_cons, plainName_argumentName]
    -- The name by position comes first here, behind all own names there.
    exact (ih.cons _).trans List.perm_middle.symm

/-- No parameter has the name by which one without a name is called. -/
def Sheltered (signature : Signature) : Prop :=
  ∀ place ∈ unnamedFrom 0 signature.parameters,
    argumentName place .other ∉ ownNames signature.parameters

instance (signature : Signature) : Decidable signature.Sheltered :=
  inferInstanceAs (Decidable (∀ place ∈ unnamedFrom 0 signature.parameters, _ ∉ ownNames _))

theorem names_nodup_iff {signature : Signature} (distinct : (ownNames signature.parameters).Nodup) :
    ((namesFrom 0 signature.parameters).map fun parameter => plainName parameter.1).Nodup ↔
      signature.Sheltered := by
  have numbered : ((unnamedFrom 0 signature.parameters).map (argumentName · .other)).Nodup := by
    refine List.pairwise_map.2 ((unnamedFrom_nodup 0 _).imp ?_)
    intro one other differ same
    exact differ (argumentName_injective same)
  rw [(namesFrom_perm 0 signature.parameters).nodup_iff, List.nodup_append]
  constructor
  · rintro ⟨-, -, apart⟩ place unnamed own
    exact apart _ own _ (List.mem_map_of_mem unnamed) rfl
  · intro sheltered
    refine ⟨distinct, numbered, ?_⟩
    rintro name own _ unnamed rfl
    obtain ⟨place, listed, rfl⟩ := List.mem_map.1 unnamed
    exact sheltered place listed own

/-! ### Methods -/

def constant (signature : Signature) : String := Text.toUpper (plainName signature.name)

/-- What a compiler asks of the methods themselves: no two have the same name, and neither have two of the
named parameters of one. -/
structure Distinct (signatures : List Signature) : Prop where
  methods : (signatures.map fun signature => plainName signature.name).Nodup
  parameters : ∀ signature ∈ signatures, (ownNames signature.parameters).Nodup

/-- What is needed beyond that so that the names in a proxy do not clash. -/
structure KeepApart (isPublic : Bool) (signatures : List Signature) : Prop where
  constants : (signatures.map constant).Nodup
  list : "METHODS" ∉ signatures.map constant
  arguments : ∀ signature ∈ signatures, signature.Sheltered
  own : ∀ signature ∈ signatures, isPublic = true → plainName signature.name ≠ "aop_proxy"

variable {signatures : List Signature} {methods : List ProxiedMethod}

theorem Distinct.sublist {fewer : List Signature} (distinct : Distinct signatures)
    (kept : fewer.Sublist signatures) : Distinct fewer where
  methods := distinct.methods.sublist (kept.map _)
  parameters := fun signature member => distinct.parameters signature (kept.subset member)

theorem Yield.constants (yield : Yield signatures methods) :
    methods.map (·.constant) = signatures.map constant := by
  have each := congrArg (List.map fun name => Text.toUpper (plainName name)) yield.names
  rwa [List.map_map, List.map_map] at each

/-- A property of the methods as one of the signatures they come from. -/
theorem Yield.forall_iff {here : Signature → Prop} {there : ProxiedMethod → Prop}
    (yield : Yield signatures methods)
    (same : ∀ signature ∈ signatures, ∀ method, signature.proxied = .ok method →
      (there method ↔ here signature)) :
    (∀ method ∈ methods, there method) ↔ ∀ signature ∈ signatures, here signature := by
  induction yield with
  | nil => simp
  | cons accepted _ ih =>
    obtain ⟨first, rest⟩ := List.forall_mem_cons.1 same
    rw [List.forall_mem_cons, List.forall_mem_cons, first _ accepted, ih rest]

end Signature

/-- The names in the code of a proxy do not clash. A name and its raw form are the same to a compiler. -/
structure ProxyDeclaration.Clashless (proxy : ProxyDeclaration) : Prop where
  constants : proxy.order.Nodup
  list : "METHODS" ∉ proxy.order
  arguments : ∀ forwarder ∈ proxy.forwarders, (forwarder.arguments.map plainName).Nodup
  own : ∀ forwarder ∈ proxy.forwarders, forwarder.isPublic = true →
    plainName forwarder.name ≠ "aop_proxy"

namespace Signature

variable {signatures : List Signature} {methods : List ProxiedMethod}

theorem Yield.clashless_iff (yield : Yield signatures methods) (distinct : Distinct signatures)
    (typeName : String) (isPublic : Bool) (isSealed : Option Bool) :
    (ProxyDeclaration.ofMethods typeName isPublic isSealed methods).Clashless ↔
      KeepApart isPublic signatures := by
  have order : (ProxyDeclaration.ofMethods typeName isPublic isSealed methods).order =
      signatures.map constant := by
    rw [← yield.constants]
    simp [ProxyDeclaration.order, ProxyDeclaration.ofMethods, ProxiedMethod.methodConstant]
  have forwarders : ∀ {suits : Forwarder → Prop},
      (∀ forwarder ∈ methods.map (·.forwarder isPublic), suits forwarder) ↔
        ∀ method ∈ methods, suits (method.forwarder isPublic) := List.forall_mem_map
  have arguments : (∀ method ∈ methods, ((method.forwarder isPublic).arguments.map plainName).Nodup) ↔
      ∀ signature ∈ signatures, signature.Sheltered := by
    refine yield.forall_iff fun signature member method accepted => ?_
    rw [ProxiedMethod.forwarder, ← (proxied_eq_ok.1 accepted).2.2.1, List.map_map]
    exact names_nodup_iff (distinct.parameters signature member)
  have own : (∀ method ∈ methods, isPublic = true → plainName method.name ≠ "aop_proxy") ↔
      ∀ signature ∈ signatures, isPublic = true → plainName signature.name ≠ "aop_proxy" := by
    refine yield.forall_iff fun signature _ method accepted => ?_
    rw [(proxied_eq_ok.1 accepted).2.1]
  constructor
  · rintro ⟨constants, list, named, apart⟩
    exact ⟨order ▸ constants, order ▸ list, arguments.1 (forwarders.1 named), own.1 (forwarders.1 apart)⟩
  · rintro ⟨constants, list, named, apart⟩
    exact ⟨order ▸ constants, order ▸ list, forwarders.2 (arguments.2 named), forwarders.2 (own.2 apart)⟩

end Signature

/-! ### Interfaces and classes -/

def Item.signature? : Item → Option Signature
  | .method signature => some signature
  | .other => none

def InterfaceDeclaration.signatures (interface : InterfaceDeclaration) : List Signature :=
  interface.items.filterMap Item.signature?

def ClassDeclaration.signatures (cls : ClassDeclaration) : List Signature :=
  cls.items.filterMap fun item => item.2.signature?

theorem InterfaceDeclaration.signatures_of_items {interface : InterfaceDeclaration}
    {signatures : List Signature} (items : interface.items = signatures.map .method) :
    interface.signatures = signatures := by
  rw [InterfaceDeclaration.signatures, items, List.filterMap_map]
  exact List.filterMap_some

theorem ClassDeclaration.publicSignatures_sublist (cls : ClassDeclaration) :
    cls.publicSignatures.Sublist cls.signatures := by
  rw [ClassDeclaration.publicSignatures, ClassDeclaration.signatures]
  induction cls.items with
  | nil => exact .slnil
  | cons item items ih =>
    obtain ⟨isPublic, _ | _⟩ := item
    · cases isPublic
      · exact ih.cons _
      · exact ih.cons_cons _
    · cases isPublic <;> exact ih

namespace Signature

variable {signatures : List Signature}

theorem Distinct.keepApart_small (distinct : Distinct signatures) (isPublic : Bool)
    (small : ∀ signature ∈ signatures, Text.isSmall (plainName signature.name) = true) :
    KeepApart isPublic signatures ↔
      (∀ signature ∈ signatures, plainName signature.name ≠ "methods") ∧
        (∀ signature ∈ signatures, signature.Sheltered) ∧
        ∀ signature ∈ signatures, isPublic = true → plainName signature.name ≠ "aop_proxy" := by
  have constants : (signatures.map constant).Nodup := by
    refine List.pairwise_map.2 ((List.pairwise_map.1 distinct.methods).imp_of_mem ?_)
    intro one other here there differ same
    exact differ ((Text.toUpper_small (small one here) (small other there)).1 same)
  have list : "METHODS" ∉ signatures.map constant ↔
      ∀ signature ∈ signatures, plainName signature.name ≠ "methods" := by
    have reserved : Text.toUpper "methods" = "METHODS" := by decide +kernel
    have named : ∀ signature ∈ signatures,
        signature.constant = "METHODS" ↔ plainName signature.name = "methods" := by
      intro signature member
      rw [← reserved, constant, Text.toUpper_small (small signature member) (by decide +kernel)]
    rw [List.mem_map, not_exists]
    refine forall_congr' fun signature => ?_
    rw [not_and]
    exact forall_congr' fun member => not_congr (named signature member)
  exact ⟨fun ⟨_, listed, arguments, own⟩ => ⟨list.1 listed, arguments, own⟩,
    fun ⟨listed, arguments, own⟩ => ⟨constants, list.2 listed, arguments, own⟩⟩

/-- When the names in an accepted proxy clash. Upper-casing is what takes ASCII names together that differ
in case, so of names in small letters it takes none. -/
theorem clashless_iff_keepApart (interface : InterfaceDeclaration) (cls : ClassDeclaration)
    (proxy : ProxyDeclaration) :
    (interface.proxy = .ok proxy → Distinct interface.signatures →
      (proxy.Clashless ↔ KeepApart false interface.signatures)) ∧
    (cls.proxy = .ok proxy → Distinct cls.signatures →
      (proxy.Clashless ↔ KeepApart true (cls.publicSignatures.filter (·.proxied.isOk)))) ∧
    (∀ one other : Signature, Text.isAsciiText (plainName one.name) = true →
      Text.isAsciiText (plainName other.name) = true →
        (one.constant = other.constant ↔
          (plainName one.name).toLower = (plainName other.name).toLower)) ∧
    ∀ (signatures : List Signature) (isPublic : Bool), Distinct signatures →
      (∀ signature ∈ signatures, Text.isSmall (plainName signature.name) = true) →
        (KeepApart isPublic signatures ↔
          (∀ signature ∈ signatures, plainName signature.name ≠ "methods") ∧
          (∀ signature ∈ signatures, signature.Sheltered) ∧
          ∀ signature ∈ signatures, isPublic = true → plainName signature.name ≠ "aop_proxy") := by
  refine ⟨?_, ?_, fun one other => Text.toUpper_eq_iff, fun signatures isPublic distinct small =>
    distinct.keepApart_small isPublic small⟩
  · intro accepted distinct
    obtain ⟨-, signatures, methods, items, yield, rfl⟩ := InterfaceDeclaration.proxy_eq_ok.1 accepted
    rw [InterfaceDeclaration.signatures_of_items items] at distinct ⊢
    exact yield.clashless_iff distinct _ _ _
  · intro accepted distinct
    obtain ⟨name, methods, yield, rfl⟩ := ClassDeclaration.proxy_ok accepted
    simp only [isOk_proxied]
    have kept : (cls.publicSignatures.filter (·.isProxiable)).Sublist cls.signatures :=
      List.filter_sublist.trans cls.publicSignatures_sublist
    exact yield.clashless_iff (distinct.sublist kept) _ _ _

namespace Stack

def word : TypeExpr := .path false [.plain "u8"]

def result : TypeExpr := .path false [.plain "Result"]

def method (name : String) (parameters : List Pattern) : Signature :=
  { name, receiver := .shared, parameters := parameters.map (·, word), output := some result }

def swap : Signature := method "swap" [.other, .name "__arg1"]

def stacked : InterfaceDeclaration :=
  { name := "Stacked", items := [.method (method "push" [.name "value"]), .method swap] }

def stack : ClassDeclaration :=
  { self := .path false [.plain "Stack"]
    items := [(true, .method (method "push" [.name "value"])), (false, .method (method "methods" [])),
      (true, .method swap)] }

theorem stack_clashless :
    (∃ proxy, stacked.proxy = .ok proxy ∧ proxy.Clashless) ∧
      (∃ proxy, stack.proxy = .ok proxy ∧ proxy.Clashless) ∧
      (method "push" []).constant = (method "Push" []).constant := by
  obtain ⟨front, viewed⟩ : ∃ proxy, stacked.proxy = .ok proxy := ⟨_, rfl⟩
  obtain ⟨proxy, accepted⟩ : ∃ proxy, stack.proxy = .ok proxy := ⟨_, rfl⟩
  obtain ⟨-, ofClass, ascii, small⟩ := clashless_iff_keepApart stacked stack proxy
  refine ⟨⟨front, viewed, ?_⟩, ⟨proxy, accepted, ?_⟩, ?_⟩
  · have distinct : Distinct stacked.signatures := ⟨by decide, by decide⟩
    refine ((clashless_iff_keepApart stacked stack front).1 viewed distinct).2 ?_
    exact (small _ false distinct (by decide +kernel)).2 ⟨by decide, by decide, by decide⟩
  · have distinct : Distinct stack.signatures := ⟨by decide, by decide⟩
    have kept : Distinct (stack.publicSignatures.filter (·.proxied.isOk)) := ⟨by decide, by decide⟩
    refine (ofClass accepted distinct).2 ?_
    exact (small _ true kept (by decide +kernel)).2 ⟨by decide, by decide, by decide⟩
  · refine (ascii _ _ (by decide) (by decide)).2 (String.toList_injective ?_)
    rw [Text.toList_toLower, Text.toList_toLower]
    decide

/-- Two methods whose names differ in case, two with the names of what is generated, and a parameter that
is called by the place of another. -/
def pile : List Signature :=
  [method "get" [], method "Get" [], method "methods" [], method "aop_proxy" [],
    method "swap" [.other, .name "__arg0"]]

theorem pile_clashes :
    Distinct pile ∧
    (∃ proxy, InterfaceDeclaration.proxy { name := "Pile", items := pile.map .method } = .ok proxy ∧
      ¬ proxy.order.Nodup ∧ ("METHODS" ∈ proxy.order) ∧
      ∃ forwarder ∈ proxy.forwarders, ¬ (forwarder.arguments.map plainName).Nodup) ∧
    ∃ proxy, ClassDeclaration.proxy
        { self := .path false [.plain "Pile"], items := pile.map fun each => (true, .method each) } =
          .ok proxy ∧
      ¬ proxy.order.Nodup ∧ ("METHODS" ∈ proxy.order) ∧
      (∃ forwarder ∈ proxy.forwarders, ¬ (forwarder.arguments.map plainName).Nodup) ∧
      ∃ forwarder ∈ proxy.forwarders, forwarder.isPublic = true ∧ plainName forwarder.name = "aop_proxy" := by
  refine ⟨⟨by decide, by decide⟩, ⟨_, rfl, ?_, ?_, ?_⟩, ⟨_, rfl, ?_, ?_, ?_, ?_⟩⟩
  all_goals decide +kernel

end Stack

end Signature

end Declaration

end Weave
