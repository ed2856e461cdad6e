import Weave.Proofs.ProxiedSignatures

/-! Borrowed types inside of other types. A proxied method has to own its arguments, but of the type of a
parameter only the outermost form is looked at. So a method whose argument is itself a reference is reported
in an interface and left out of a class, and one whose argument holds a reference further inside is taken as
if it owned it. -/

namespace Weave.Declaration

namespace TypeExpr

mutual

/-- The types among the arguments of a name; the inputs and the output of a function trait are not among
them. -/
def segmentParts : Segment → List TypeExpr
  | .plain _ => []
  | .generic _ _ arguments _ => argumentParts arguments
  | .callable _ _ _ _ => []

def pathParts : List Segment → List TypeExpr
  | [] => []
  | segment :: rest => segmentParts segment ++ pathParts rest

def argumentParts : List Argument → List TypeExpr
  | [] => []
  | .type type :: rest => type :: argumentParts rest
  | .binding head type :: rest => segmentParts head ++ type :: argumentParts rest
  | .boundConstant head _ :: rest => segmentParts head ++ argumentParts rest
  | .constrained head bounds _ :: rest => segmentParts head ++ boundsParts bounds ++ argumentParts rest
  | .lifetime _ :: rest => argumentParts rest
  | .constant _ :: rest => argumentParts rest

def boundParts : Bound → List TypeExpr
  | .trait _ _ segments => pathParts segments
  | .parenthesised inner => boundParts inner
  | .lifetime _ => []
  | .captured _ _ => []
  | .verbatim _ => []

def boundsParts : List Bound → List TypeExpr
  | [] => []
  | bound :: rest => boundParts bound ++ boundsParts rest

end

/-- The types that a type is directly made of. The parameters and the output of a function pointer are not
among them. -/
def parts : TypeExpr → List TypeExpr
  | path _ segments => pathParts segments
  | projection self _ via rest => self :: (pathParts via ++ pathParts rest)
  | reference _ _ inner | pointer _ inner | parenthesised inner | substituted inner | slice inner
  | array inner _ => [inner]
  | tuple items _ => items
  | traitObject _ bounds _ | implTrait bounds _ => boundsParts bounds
  | expansion _ segments _ => pathParts segments
  | function _ _ _ _ | never | inferred | verbatim _ => []

/-- A type stands in another one, at any depth. -/
inductive Within (inner : TypeExpr) : TypeExpr → Prop where
  | self : Within inner inner
  | part {type part : TypeExpr} (direct : part ∈ type.parts) (within : Within inner part) :
      Within inner type

/-- A reference that does not live as long as the program, or a type that is known by its traits only. -/
def isBorrowed : TypeExpr → Bool
  | reference lifetime _ _ => lifetime != some "'static"
  | implTrait _ _ => true
  | _ => false

def Owned (type : TypeExpr) : Prop := ∀ inner, Within inner type → inner.isBorrowed = false

variable {type : TypeExpr}

theorem isBorrowed_of_owned (owned : type.isLoan = false) : type.isBorrowed = false := by
  cases type <;> first | rfl | cases owned

theorem owned_iff_parts (outside : type.isLoan = false) :
    type.Owned ↔ ∀ part ∈ type.parts, part.Owned := by
  constructor
  · intro owned part direct inner within
    exact owned inner (.part direct within)
  · intro parts inner within
    cases within with
    | self => exact isBorrowed_of_owned outside
    | part direct within => exact parts _ direct inner within

end TypeExpr

namespace Signature

def OwnsArguments (signature : Signature) : Prop :=
  ∀ parameter ∈ signature.parameters, parameter.2.Owned

/-- No borrowed type stands in the parts of the type of a parameter. -/
def OwnsParts (signature : Signature) : Prop :=
  ∀ parameter ∈ signature.parameters, ∀ part ∈ parameter.2.parts, part.Owned

variable {signature : Signature}

theorem ownsArguments_iff (accepted : signature.proxied.isOk = true) :
    signature.OwnsArguments ↔ signature.OwnsParts := by
  rw [isOk_proxied, isProxiable, Bool.and_eq_true, Bool.not_eq_true', takesLoan,
    List.any_eq_false] at accepted
  have outside (parameter : Pattern × TypeExpr) (listed : parameter ∈ signature.parameters) :
      parameter.2.isLoan = false := Bool.not_eq_true _ ▸ accepted.2 parameter listed
  constructor
  · intro owned parameter listed
    exact (TypeExpr.owned_iff_parts (outside parameter listed)).1 (owned parameter listed)
  · intro parts parameter listed
    exact (TypeExpr.owned_iff_parts (outside parameter listed)).2 (parts parameter listed)

/-- A plain method is refused exactly if the type of a parameter is itself a reference or known by its
traits only; what stands inside of the type does not matter. So the arguments of an accepted method are
owned if and only if the parts of their types are. An interface reports, and a class leaves out, just the
methods that are refused. -/
theorem owned_up_to_parts (signature : Signature) (interface : InterfaceDeclaration)
    (cls : ClassDeclaration) :
    (signature.proxied.isOk = true ↔ signature.isPlain = true ∧
        ∀ parameter ∈ signature.parameters, parameter.2.isLoan = false) ∧
      (signature.isPlain = true → (∃ parameter ∈ signature.parameters, parameter.2.isLoan = true) →
        signature.proxied = .error .borrowedArgument ∨
          signature.proxied = .error .implTraitArgument) ∧
      (signature.proxied.isOk = true → (signature.OwnsArguments ↔ signature.OwnsParts)) ∧
      (interface.proxy.isOk = true ↔ interface.isGeneric = false ∧
        ∀ item ∈ interface.items, ∃ signature, item = .method signature ∧
          signature.proxied.isOk = true) ∧
      ∀ proxy, cls.proxy = .ok proxy → proxy.forwarders.map (·.name) =
        (cls.publicSignatures.filter (·.proxied.isOk)).map (·.name) := by
  refine ⟨?_, ?_, ownsArguments_iff, ?_, ?_⟩
  · rw [isOk_proxied, isProxiable, Bool.and_eq_true, Bool.not_eq_true', takesLoan, List.any_eq_false]
    simp only [Bool.not_eq_true]
  · intro plain loan
    exact proxied_loan plain (List.any_eq_true.2 loan)
  · simp only [isOk_proxied]
    exact InterfaceDeclaration.isOk_proxy
  · intro proxy accepted
    obtain ⟨name, methods, yield, rfl⟩ := ClassDeclaration.proxy_ok accepted
    simp only [isOk_proxied, ← yield.names]
    simp [ProxyDeclaration.ofMethods, ProxiedMethod.forwarder]

namespace Shelf

def str : TypeExpr := .path false [.plain "str"]

def keys : TypeExpr := .path false [.generic "Vec" false [.type (.reference none false str)] false]

def result : TypeExpr := .path false [.plain "Result"]

def look : Signature :=
  { name := "look", receiver := .shared, parameters := [(.name "keys", keys)], output := some result }

def find : Signature :=
  { name := "find", receiver := .shared, parameters := [(.name "key", .reference none false str)]
    output := some result }

def shelf : ClassDeclaration :=
  { self := .path false [.plain "Shelf"], items := [(true, .method look), (true, .method find)] }

def shelves : InterfaceDeclaration := { name := "Shelves", items := [.method look] }

theorem find_left_out : find.isPlain = true ∧
    (find.proxied = .error .borrowedArgument ∨ find.proxied = .error .implTraitArgument) ∧
    ∃ proxy, shelf.proxy = .ok proxy ∧ proxy.forwarders.map (·.name) = ["look"] := by
  obtain ⟨-, refused, -, -, left⟩ := owned_up_to_parts find shelves shelf
  have plain : find.isPlain = true := by decide
  have loan : ∃ parameter ∈ find.parameters, parameter.2.isLoan = true := by decide
  obtain ⟨proxy, accepted⟩ : ∃ proxy, shelf.proxy = .ok proxy := ⟨_, rfl⟩
  exact ⟨plain, refused plain loan, proxy, accepted, (left proxy accepted).trans (by decide)⟩

/-- The borrowed texts in the list are not seen. -/
theorem borrowed_keys_accepted :
    (∃ inner, TypeExpr.Within inner keys ∧ inner.isBorrowed = true) ∧ look.proxied.isOk = true ∧
      shelves.proxy.isOk = true ∧
      ∃ proxy, shelf.proxy = .ok proxy ∧ ("look" ∈ proxy.forwarders.map (·.name)) := by
  have inside : TypeExpr.Within (.reference none false str) keys :=
    .part (List.mem_cons_self ..) .self
  exact ⟨⟨_, inside, rfl⟩, rfl, rfl, _, rfl, by decide⟩

end Shelf

end Signature

end Weave.Declaration
