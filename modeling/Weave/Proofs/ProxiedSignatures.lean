import Weave.Declaration.ProxyDeclaration
import Mathlib.Data.List.Forall2

/-! Which signatures can be proxied, and what becomes of them. Of the type of a parameter only the outermost
form is looked at. An interface is refused as soon as one of its items cannot be proxied, a class leaves out
what cannot. -/

namespace Weave.Declaration

theorem check_eq_ok {α : Type} {refused : Prop} [Decidable refused] {refusal : Refusal}
    {rest : PUnit → Except Refusal α} {result : α} :
    (if refused then throw refusal >>= rest else rest ⟨⟩) = .ok result ↔
      ¬ refused ∧ rest ⟨⟩ = .ok result := by
  by_cases holds : refused
  · rw [if_pos holds]
    exact ⟨fun same => (nomatch same), fun both => absurd holds both.1⟩
  · rw [if_neg holds]
    exact ⟨fun same => ⟨holds, same⟩, fun both => both.2⟩

/-! ### Parameters -/

namespace TypeExpr

/-- The outermost form is that of a reference, whatever its lifetime, or of a type known by its traits. -/
def isLoan : TypeExpr → Bool
  | reference _ _ _ | implTrait _ _ => true
  | _ => false

variable {type : TypeExpr}

theorem checkOwned_owned (owned : type.isLoan = false) : type.checkOwned = .ok () := by
  cases type <;> first | rfl | cases owned

theorem checkOwned_loan (loan : type.isLoan = true) :
    type.checkOwned = .error .borrowedArgument ∨ type.checkOwned = .error .implTraitArgument := by
  cases type with
  | reference => exact .inl rfl
  | implTrait => exact .inr rfl
  | _ => cases loan

end TypeExpr

namespace Signature

/-- The parameters as they are called, those without a plain name by their position from some number. -/
def namesFrom (index : Nat) (parameters : List (Pattern × TypeExpr)) : List (String × TypeExpr) :=
  parameters.mapIdx fun place parameter => (argumentName (index + place) parameter.1, parameter.2)

theorem namesFrom_cons (index : Nat) (parameter : Pattern × TypeExpr)
    (rest : List (Pattern × TypeExpr)) :
    namesFrom index (parameter :: rest) =
      (argumentName index parameter.1, parameter.2) :: namesFrom (index + 1) rest := by
  simp only [namesFrom, List.mapIdx_cons, Nat.add_zero, Nat.add_assoc, Nat.add_comm 1]

theorem ownedParameters_owned {parameters : List (Pattern × TypeExpr)}
    (owned : ∀ parameter ∈ parameters, parameter.2.isLoan = false) (index : Nat) :
    ownedParameters index parameters = .ok (namesFrom index parameters) := by
  induction parameters generalizing index with
  | nil => rfl
  | cons parameter rest ih =>
    obtain ⟨here, later⟩ := List.forall_mem_cons.1 owned
    rw [ownedParameters, TypeExpr.checkOwned_owned here, ih later, namesFrom_cons]
    rfl

theorem ownedParameters_loan {parameters : List (Pattern × TypeExpr)}
    (loan : ∃ parameter ∈ parameters, parameter.2.isLoan = true) (index : Nat) :
    ownedParameters index parameters = .error .borrowedArgument ∨
      ownedParameters index parameters = .error .implTraitArgument := by
  induction parameters generalizing index with
  | nil => simp at loan
  | cons parameter rest ih =>
    rw [ownedParameters]
    by_cases here : parameter.2.isLoan = true
    · rcases TypeExpr.checkOwned_loan here with refused | refused
      · exact .inl (by rw [refused]; rfl)
      · exact .inr (by rw [refused]; rfl)
    · rw [Bool.not_eq_true] at here
      have later : ∃ parameter ∈ rest, parameter.2.isLoan = true := by simpa [here] using loan
      rw [TypeExpr.checkOwned_owned here]
      rcases ih later (index + 1) with refused | refused
      · exact .inl (by rw [refused]; rfl)
      · exact .inr (by rw [refused]; rfl)

/-! ### Signatures -/

def isPlain (signature : Signature) : Bool :=
  !signature.isAsync && !signature.isGeneric && !signature.isVariadic &&
    signature.receiver == .shared && signature.output.any TypeExpr.isResult

def takesLoan (signature : Signature) : Bool := signature.parameters.any (·.2.isLoan)

def isProxiable (signature : Signature) : Bool := signature.isPlain && !signature.takesLoan

variable {signature : Signature} {method : ProxiedMethod}

theorem proxied_plain (plain : signature.isPlain = true) :
    ∃ output, signature.output = some output ∧ signature.proxied =
      (ownedParameters 0 signature.parameters).map fun parameters =>
        ⟨signature.name, parameters, output, signature.docs⟩ := by
  simp only [isPlain, Bool.and_eq_true, Bool.not_eq_true', beq_iff_eq, Option.any_eq_true] at plain
  obtain ⟨⟨⟨⟨sync, concrete⟩, fixed⟩, shared⟩, output, returned, result⟩ := plain
  refine ⟨output, returned, ?_⟩
  simp only [proxied, sync, concrete, fixed, shared, returned, result]
  cases ownedParameters 0 signature.parameters <;> rfl

theorem isPlain_of_proxied (accepted : signature.proxied = .ok method) : signature.isPlain = true := by
  simp only [proxied, check_eq_ok] at accepted
  obtain ⟨sync, concrete, fixed, shared, accepted⟩ := accepted
  cases owned : ownedParameters 0 signature.parameters with
  | error refusal => rw [owned] at accepted; cases accepted
  | ok parameters =>
    rw [owned] at accepted
    cases returned : signature.output with
    | none => rw [returned] at accepted; cases accepted
    | some output =>
      rw [returned] at accepted
      by_cases result : output.isResult = true
      · simp [isPlain, sync, concrete, fixed, Decidable.not_not.1 shared, returned, result]
      · simp only [bind, Except.bind, result] at accepted
        cases accepted

theorem proxied_loan (plain : signature.isPlain = true) (loan : signature.takesLoan = true) :
    signature.proxied = .error .borrowedArgument ∨ signature.proxied = .error .implTraitArgument := by
  obtain ⟨output, -, whole⟩ := proxied_plain plain
  rw [takesLoan, List.any_eq_true] at loan
  rcases ownedParameters_loan loan 0 with refused | refused
  · exact .inl (by rw [whole, refused]; rfl)
  · exact .inr (by rw [whole, refused]; rfl)

theorem proxied_owned (plain : signature.isPlain = true) (owned : signature.takesLoan = false) :
    ∃ output, signature.output = some output ∧ signature.proxied =
      .ok ⟨signature.name, namesFrom 0 signature.parameters, output, signature.docs⟩ := by
  obtain ⟨output, returned, whole⟩ := proxied_plain plain
  simp only [takesLoan, List.any_eq_false, Bool.not_eq_true] at owned
  rw [ownedParameters_owned owned] at whole
  exact ⟨output, returned, whole⟩

theorem proxied_eq_ok :
    signature.proxied = .ok method ↔ signature.isProxiable = true ∧ signature.name = method.name ∧
      namesFrom 0 signature.parameters = method.parameters ∧ signature.output = some method.output ∧
      signature.docs = method.docs := by
  rw [isProxiable, Bool.and_eq_true, Bool.not_eq_true']
  constructor
  · intro accepted
    have plain := isPlain_of_proxied accepted
    cases loan : signature.takesLoan with
    | true => rcases proxied_loan plain loan with refused | refused <;> simp [refused] at accepted
    | false =>
      obtain ⟨output, returned, whole⟩ := proxied_owned plain loan
      cases whole.symm.trans accepted
      exact ⟨⟨plain, rfl⟩, rfl, rfl, returned, rfl⟩
  · rintro ⟨⟨plain, owned⟩, name, parameters, returned, docs⟩
    obtain ⟨output, same, whole⟩ := proxied_owned plain owned
    cases returned.symm.trans same
    rw [whole, name, parameters, docs]

theorem isOk_proxied : signature.proxied.isOk = signature.isProxiable := by
  rw [Bool.eq_iff_iff]
  constructor
  · intro accepted
    cases outcome : signature.proxied with
    | error refusal => rw [outcome] at accepted; cases accepted
    | ok method => exact (proxied_eq_ok.1 outcome).1
  · intro proxiable
    rw [isProxiable, Bool.and_eq_true, Bool.not_eq_true'] at proxiable
    obtain ⟨output, -, whole⟩ := proxied_owned proxiable.1 proxiable.2
    rw [whole]
    rfl

def Yield (signatures : List Signature) (methods : List ProxiedMethod) : Prop :=
  List.Forall₂ (fun signature method => signature.proxied = .ok method) signatures methods

variable {signatures : List Signature} {methods : List ProxiedMethod}

theorem Yield.names (yield : Yield signatures methods) :
    methods.map (·.name) = signatures.map (·.name) := by
  induction yield with
  | nil => rfl
  | cons accepted _ ih => rw [List.map_cons, List.map_cons, ih, (proxied_eq_ok.1 accepted).2.1]

theorem Yield.proxiable (yield : Yield signatures methods) :
    ∀ signature ∈ signatures, signature.isProxiable = true := by
  induction yield with
  | nil => simp
  | cons accepted _ ih => exact List.forall_mem_cons.2 ⟨(proxied_eq_ok.1 accepted).1, ih⟩

theorem yield_of_proxiable (proxiable : ∀ signature ∈ signatures, signature.isProxiable = true) :
    ∃ methods, Yield signatures methods := by
  induction signatures with
  | nil => exact ⟨[], .nil⟩
  | cons signature signatures ih =>
    obtain ⟨here, later⟩ := List.forall_mem_cons.1 proxiable
    obtain ⟨methods, yield⟩ := ih later
    rw [isProxiable, Bool.and_eq_true, Bool.not_eq_true'] at here
    obtain ⟨output, -, accepted⟩ := proxied_owned here.1 here.2
    exact ⟨_, .cons accepted yield⟩

end Signature

/-! ### Interfaces and classes -/

theorem mapM_eq_ok {α β : Type} {step : α → Except Refusal β} {items : List α} {results : List β} :
    items.mapM step = .ok results ↔
      List.Forall₂ (fun item result => step item = .ok result) items results := by
  induction items generalizing results with
  | nil =>
    rw [List.mapM_nil]
    constructor
    · rintro ⟨⟩
      exact .nil
    · rintro ⟨⟩
      rfl
  | cons item items ih =>
    rw [List.mapM_cons]
    constructor
    · intro done
      cases first : step item with
      | error refusal => rw [first] at done; cases done
      | ok result =>
        cases rest : items.mapM step with
        | error refusal => rw [first, rest] at done; cases done
        | ok others =>
          rw [first, rest] at done
          cases done
          exact .cons first (ih.1 rest)
    · rintro ⟨⟩
      rename_i first rest
      rw [first, ih.2 rest]
      rfl

namespace InterfaceDeclaration

variable {interface : InterfaceDeclaration} {proxy : ProxyDeclaration}

theorem proxiedItem_each {items : List Item} {methods : List ProxiedMethod} :
    List.Forall₂ (fun item method => proxiedItem item = .ok method) items methods ↔
      ∃ signatures, items = signatures.map .method ∧ Signature.Yield signatures methods := by
  constructor
  · intro each
    induction each with
    | nil => exact ⟨[], rfl, .nil⟩
    | @cons item method _ _ accepted _ ih =>
      obtain ⟨signatures, rfl, yield⟩ := ih
      cases item with
      | method signature => exact ⟨signature :: signatures, rfl, .cons accepted yield⟩
      | other => cases accepted
  · rintro ⟨signatures, rfl, yield⟩
    exact List.forall₂_map_left_iff.2 yield

theorem proxy_eq_ok :
    interface.proxy = .ok proxy ↔ interface.isGeneric = false ∧ ∃ signatures methods,
      interface.items = signatures.map .method ∧ Signature.Yield signatures methods ∧
        proxy = .ofMethods interface.name false none methods := by
  simp only [InterfaceDeclaration.proxy, check_eq_ok, Bool.not_eq_true]
  apply and_congr_right
  intro _
  constructor
  · intro accepted
    cases outcome : interface.items.mapM proxiedItem with
    | error refusal => rw [outcome] at accepted; cases accepted
    | ok methods =>
      rw [outcome] at accepted
      cases accepted
      obtain ⟨signatures, items, yield⟩ := proxiedItem_each.1 (mapM_eq_ok.1 outcome)
      exact ⟨signatures, methods, items, yield, rfl⟩
  · rintro ⟨signatures, methods, items, yield, rfl⟩
    rw [mapM_eq_ok.2 (proxiedItem_each.2 ⟨signatures, items, yield⟩)]
    rfl

theorem signatures_of_each {items : List Item}
    (each : ∀ item ∈ items, ∃ signature, item = .method signature ∧ signature.isProxiable = true) :
    ∃ signatures : List Signature, items = signatures.map .method ∧
      ∀ signature ∈ signatures, signature.isProxiable = true := by
  induction items with
  | nil => exact ⟨[], rfl, by simp⟩
  | cons item items ih =>
    obtain ⟨⟨signature, rfl, here⟩, later⟩ := List.forall_mem_cons.1 each
    obtain ⟨signatures, rfl, proxiable⟩ := ih later
    exact ⟨signature :: signatures, rfl, List.forall_mem_cons.2 ⟨here, proxiable⟩⟩

theorem isOk_proxy :
    interface.proxy.isOk = true ↔ interface.isGeneric = false ∧
      ∀ item ∈ interface.items, ∃ signature, item = .method signature ∧ signature.isProxiable = true := by
  constructor
  · intro accepted
    cases outcome : interface.proxy with
    | error refusal => rw [outcome] at accepted; cases accepted
    | ok proxy =>
      obtain ⟨concrete, signatures, methods, items, yield, -⟩ := proxy_eq_ok.1 outcome
      refine ⟨concrete, fun item member => ?_⟩
      rw [items, List.mem_map] at member
      obtain ⟨signature, listed, rfl⟩ := member
      exact ⟨signature, rfl, yield.proxiable signature listed⟩
  · rintro ⟨concrete, each⟩
    obtain ⟨signatures, items, proxiable⟩ := signatures_of_each each
    obtain ⟨methods, yield⟩ := Signature.yield_of_proxiable proxiable
    rw [proxy_eq_ok.2 ⟨concrete, signatures, methods, items, yield, rfl⟩]
    rfl

end InterfaceDeclaration

namespace ClassDeclaration

def publicSignature? : Bool × Item → Option Signature
  | (true, .method signature) => some signature
  | _ => none

def publicSignatures (cls : ClassDeclaration) : List Signature := cls.items.filterMap publicSignature?

variable {cls : ClassDeclaration} {proxy : ProxyDeclaration}

theorem yield_proxiedItems (items : List (Bool × Item)) :
    Signature.Yield ((items.filterMap publicSignature?).filter (·.isProxiable))
      (items.filterMap proxiedItem?) := by
  induction items with
  | nil => exact .nil
  | cons item items ih =>
    obtain ⟨isPublic, item⟩ := item
    cases isPublic with
    | false => exact ih
    | true =>
      cases item with
      | other => exact ih
      | method signature =>
        cases outcome : signature.proxied with
        | error refusal =>
          have refused : signature.isProxiable = false := by rw [← Signature.isOk_proxied, outcome]; rfl
          simpa [publicSignature?, proxiedItem?, outcome, refused, Except.toOption] using ih
        | ok method =>
          have proxiable := (Signature.proxied_eq_ok.1 outcome).1
          have both : Signature.Yield (signature :: _) (method :: _) := .cons outcome ih
          simpa [publicSignature?, proxiedItem?, outcome, proxiable, Except.toOption] using both

theorem proxy_ok (accepted : cls.proxy = .ok proxy) :
    ∃ name methods, Signature.Yield (cls.publicSignatures.filter (·.isProxiable)) methods ∧
      proxy = .ofMethods name true (some cls.isSealed) methods := by
  simp only [ClassDeclaration.proxy, check_eq_ok] at accepted
  obtain ⟨-, -, accepted⟩ := accepted
  cases named : typeName cls.self with
  | error refusal => rw [named] at accepted; cases accepted
  | ok name =>
    rw [named] at accepted
    cases accepted
    exact ⟨name, _, yield_proxiedItems cls.items, rfl⟩

end ClassDeclaration

end Weave.Declaration
