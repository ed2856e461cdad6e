import Weave.Pointcut.Matchers

/-! Excluded names. A method is looked at under two qualified names, that of its declaring type and that
of its class, and each name is held against the exclusions by itself: it is enough that one of them is
selected and not excluded. So an exclusion of one name does not keep a method out if the other name is
free. -/

namespace Weave

namespace RegexRules

variable (rules : RegexRules) (method : Method) (cls : TargetClass)

def selects (name : String) : Bool := rules.patterns.any (·.occursIn name)

def excludes (name : String) : Bool := rules.excluded.any (·.occursIn name)

def names : List String := [qualified method.declaringType method, qualified cls.name method]

/-- The name is selected, and no exclusion hits it. -/
def Free (name : String) : Prop := rules.selects name = true ∧ rules.excludes name = false

theorem acceptsName_iff (name : String) : rules.acceptsName name = true ↔ rules.Free name := by
  rw [acceptsName, Bool.and_eq_true, Bool.not_eq_true']
  rfl

theorem accepts_iff :
    rules.accepts method cls = true ↔ ∃ name ∈ names method cls, rules.Free name := by
  simp only [names, List.mem_cons, List.not_mem_nil, or_false, exists_eq_or_imp, exists_eq_left,
    ← acceptsName_iff, accepts, Bool.or_eq_true, Bool.and_eq_true, bne_iff_ne]
  constructor
  · exact Or.imp_right And.right
  · rintro (declared | own)
    · exact .inl declared
    · by_cases same : cls.name = method.declaringType
      · exact .inl (same ▸ own)
      · exact .inr ⟨same, own⟩

/-- An exclusion that hits one of its names keeps a method out exactly if no other name of it is free. It
always does if the class goes by the name of the declaring type, since there is only one name then. -/
theorem excluded_unless_free :
    (((∃ hit ∈ names method cls, rules.excludes hit = true) → rules.accepts method cls = false) ↔
        ¬ ∃ hit ∈ names method cls, ∃ other ∈ names method cls,
          rules.excludes hit = true ∧ rules.Free other) ∧
      (cls.name = method.declaringType → ∀ hit ∈ names method cls, rules.excludes hit = true →
        rules.accepts method cls = false) := by
  constructor
  · rw [← Bool.not_eq_true, accepts_iff]
    constructor
    · rintro keeps ⟨hit, named, other, also, excluded, free⟩
      exact keeps ⟨hit, named, excluded⟩ ⟨other, also, free⟩
    · rintro none ⟨hit, named, excluded⟩ ⟨other, also, free⟩
      exact none ⟨hit, named, other, also, excluded, free⟩
  · intro same hit named excluded
    rw [← Bool.not_eq_true, accepts_iff]
    rintro ⟨other, also, -, free⟩
    -- Both names are the qualified name under the declaring type.
    have single (name : String) (member : name ∈ names method cls) :
        name = qualified method.declaringType method := by
      simpa only [names, same, List.mem_cons, List.not_mem_nil, or_false, or_self] using member
    rw [single other also, ← single hit named, excluded] at free
    contradiction

namespace Order

def placing : Method := ⟨"", "OrderApi", "place_order", [], "Result<()>"⟩

def service : TargetClass :=
  ((TargetClass.ofType ⟨"Alpha"⟩).named "OrderService").implementing ⟨"", "OrderApi", [placing]⟩

/-- Selected as a method of the service, excluded as one of its interface. -/
def rules? : Except ConfigError RegexRules :=
  RegexRules.read ["OrderService::place_order"] ["OrderApi::place_order"]

/-- The method is matched although one of its names is excluded. -/
theorem excluded_method_matched :
    ∃ rules, (rules?.toOption = some rules) ∧
      rules.excludes (qualified placing.declaringType placing) = true ∧
      rules.accepts placing service = true := by
  have verdicts : rules?.toOption.any (fun rules =>
      rules.excludes (qualified placing.declaringType placing) && rules.accepts placing service) =
        true := by
    decide +kernel
  obtain ⟨rules, read, both⟩ := (Option.any_eq_true ..).1 verdicts
  exact ⟨rules, read, Bool.and_eq_true_iff.1 both⟩

end Order

end RegexRules

end Weave
