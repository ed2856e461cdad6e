import Weave.BasicTypes
import Weave.Completion

/-! The typed ends of a call. A value is restored to just what was erased. An error is searched for a
declared one from its outermost context inwards, and an error of a declared family is found as it was
raised. Where any error is declared, an error in flight is taken back whole, unless another error in
flight is used in it as a context or as a text: then the outermost of these is taken instead. -/

namespace Weave

/-! ### Declared errors among the layers -/

namespace Fault

theorem sizeOf_layer (fault : Fault) {layer : Layer} (member : layer ∈ fault.layers) :
    sizeOf layer < sizeOf fault := by
  match fault with
  | base own =>
    rw [List.mem_singleton.1 member, base.sizeOf_spec]
    omega
  | context outer inner =>
    rw [context.sizeOf_spec]
    rcases List.mem_cons.1 member with rfl | within
    · omega
    · have smaller := sizeOf_layer inner within
      omega

/-- What is used as a single value in an error is not that error. -/
theorem ne_of_erased {fault inner : Fault} (member : .erased inner ∈ fault.layers) : inner ≠ fault := by
  intro same
  subst same
  have smaller := sizeOf_layer inner member
  rw [Layer.erased.sizeOf_spec] at smaller
  omega

end Fault

namespace ErrorType

variable {errors : ErrorType} {fault : Fault}

theorem ofLayer?_eq_some_iff {layer : Layer} {error : errors.Carrier} :
    errors.ofLayer? layer = some error ↔ layer = errors.layer error := by
  cases errors with
  | family name => exact FamilyError.ofLayer?_eq_some_iff
  | any =>
    cases layer with
    | erased inner => simp only [ofLayer?, ErrorType.layer, Option.some.injEq, Layer.erased.injEq]
    | cause | transparent => exact iff_of_false nofun nofun

theorem ofLayer?_eq_none_iff {layer : Layer} :
    errors.ofLayer? layer = none ↔ ∀ error, layer ≠ errors.layer error := by
  rw [Option.eq_none_iff_forall_ne_some]
  exact forall_congr' fun error => not_congr ofLayer?_eq_some_iff

/-- The error is in flight in one of the layers, and no declared error is further out. -/
def IsOutermost (errors : ErrorType) (error : errors.Carrier) (fault : Fault) : Prop :=
  ∃ outside inside, fault.layers = outside ++ errors.layer error :: inside ∧
    ∀ other, errors.layer other ∉ outside

/-- A search for declared errors takes the first layer that is one. -/
theorem find?_eq_some_iff {error : errors.Carrier} :
    errors.find? fault = some error ↔ errors.IsOutermost error fault := by
  rw [find?, List.findSome?_eq_some_iff]
  constructor
  · intro first
    obtain ⟨outside, layer, inside, layers, found, before⟩ := first
    obtain rfl := ofLayer?_eq_some_iff.1 found
    refine ⟨outside, inside, layers, fun other member => ?_⟩
    exact ofLayer?_eq_none_iff.1 (before _ member) other rfl
  · intro outermost
    obtain ⟨outside, inside, layers, before⟩ := outermost
    refine ⟨outside, _, inside, layers, ofLayer?_eq_some_iff.2 rfl, fun layer member => ?_⟩
    exact ofLayer?_eq_none_iff.2 fun other same => before other (same ▸ member)

theorem find?_eq_none_iff :
    errors.find? fault = none ↔ ∀ error, errors.layer error ∉ fault.layers := by
  simp only [find?, List.findSome?_eq_none_iff, ofLayer?_eq_none_iff]
  exact ⟨fun missing error member => missing _ member error rfl,
    fun missing layer member error same => missing error (same ▸ member)⟩

/-- An error that is found as it was raised: any error of a family; and where any error is declared, one
in which no error in flight is used as a single value. -/
def Kept : (errors : ErrorType) → errors.Carrier → Prop
  | any, fault => ∀ inner, .erased inner ∉ fault.layers
  | family _, _ => True

theorem restore_outermost {error : errors.Carrier} (outermost : errors.IsOutermost error fault) :
    errors.restore fault = error := by
  rw [restore, find?_eq_some_iff.2 outermost, Option.getD_some]

theorem restore_foreign (foreign : ∀ error, ¬ errors.IsOutermost error fault) :
    errors.restore fault = errors.ofFault fault := by
  have missing : errors.find? fault = none :=
    Option.eq_none_iff_forall_ne_some.2 fun error found => foreign error (find?_eq_some_iff.1 found)
  rw [restore, missing, Option.getD_none]

theorem restore_erase_iff (error : errors.Carrier) :
    errors.restore (errors.erase error) = error ↔ errors.Kept error := by
  cases errors with
  | family name =>
    exact iff_of_true (restore_outermost ⟨[], [], rfl, fun _ => List.not_mem_nil⟩) trivial
  | any =>
    cases found : any.find? error with
    | none => exact iff_of_true (by rw [restore, erase, found]; rfl) (find?_eq_none_iff.1 found)
    | some inner =>
      obtain ⟨outside, inside, layers, -⟩ := find?_eq_some_iff.1 found
      have member : .erased inner ∈ Fault.layers error :=
        layers ▸ List.mem_append_right outside List.mem_cons_self
      refine iff_of_false ?_ fun kept => kept inner member
      rw [restore, erase, found]
      exact Fault.ne_of_erased member

end ErrorType

/-! ### Completion -/

namespace Outcome

variable [ValueTypes] {type : ValueType} {errors : ErrorType} {method : Method}

theorem complete_error (fault : Fault) :
    complete type errors method (.error fault) = .error (errors.restore fault) := rfl

theorem complete_eq_ok_iff {outcome : Outcome} {content : type.Carrier} :
    complete type errors method outcome = .ok content ↔ outcome = .ok ⟨type, content⟩ := by
  constructor
  · intro completed
    cases outcome with
    | error fault => contradiction
    | ok value =>
      cases found : value.as? type with
      | none =>
        rw [complete, found] at completed
        contradiction
      | some data =>
        rw [complete, found] at completed
        cases completed
        rw [Value.as?_eq_some.1 found]
  · intro same
    subst same
    simp only [complete, Value.as?_mk]

/-- A value, or an error that is found as it was raised. -/
def Kept (result : Except errors.Carrier type.Carrier) : Prop :=
  ∀ error, result = .error error → errors.Kept error

theorem complete_erase_iff (method : Method) (result : Except errors.Carrier type.Carrier) :
    complete type errors method (erase type errors result) = result ↔ Kept result := by
  cases result with
  | ok content => exact iff_of_true (complete_eq_ok_iff.2 rfl) nofun
  | error error =>
    rw [erase, complete_error, Except.error.injEq, ErrorType.restore_erase_iff]
    constructor
    · intro kept other same
      cases same
      exact kept
    · intro kept
      exact kept error rfl

/-- However many forwarders of the same types a result still passes, it stays as it is; or already the
first changes it. -/
theorem complete_again_iff (method : Method) (result : Except errors.Carrier type.Carrier) :
    (∀ further : List Method, further.foldl (fun result method =>
      complete type errors method (erase type errors result)) result = result) ↔ Kept result := by
  constructor
  · exact fun again => (complete_erase_iff method result).1 (again [method])
  · intro kept further
    induction further with
    | nil => rfl
    | cons method further ih =>
      rw [List.foldl_cons, (complete_erase_iff method result).2 kept, ih]

/-- Completing to the declared types undoes erasing them just for values and for errors that are found
as they were raised. An outcome is completed to a value just if it is one of the declared type, and to
the outermost declared error if it is an error with one; any other error is wrapped. What has been
completed passes any number of further forwarders unchanged just if it can be erased and completed. -/
theorem complete_restores_iff (type : ValueType) (errors : ErrorType) (method : Method) :
    (∀ result, complete type errors method (erase type errors result) = result ↔ Kept result) ∧
      (∀ outcome content,
        complete type errors method outcome = .ok content ↔ outcome = .ok ⟨type, content⟩) ∧
      (∀ fault error, errors.IsOutermost error fault →
        complete type errors method (.error fault) = .error error) ∧
      (∀ fault, (∀ error, ¬ errors.IsOutermost error fault) →
        complete type errors method (.error fault) = .error (errors.ofFault fault)) ∧
      ∀ outcome,
        let completed := complete type errors method outcome
        (∀ further : List Method, further.foldl (fun result method =>
          complete type errors method (erase type errors result)) completed = completed) ↔ Kept completed := by
  refine ⟨complete_erase_iff method, fun _ _ => complete_eq_ok_iff, fun fault error outermost => ?_,
    fun fault foreign => ?_, fun outcome => complete_again_iff method _⟩
  · rw [complete_error, ErrorType.restore_outermost outermost]
  · rw [complete_error, ErrorType.restore_foreign foreign]

end Outcome

end Weave

namespace Weave.Outcome

/-- Of two declared errors the outer one is found, though a text is further out. -/
theorem complete_shadowed :
    let frozen : Fault := .service ⟨"LedgerError", "Frozen", "account 7 is frozen", none⟩
    let audited : Fault := .context (.transparent "LedgerError" (.text "audit failed")) frozen
    complete BasicType.u64 (.family "LedgerError") ⟨"", "Ledger", "balance", ["u32"], "Result<u64, LedgerError>"⟩
      (.error (audited.withContext "closing")) = .error (.other (.text "audit failed")) := by
  intro frozen audited
  refine (complete_restores_iff BasicType.u64 (.family "LedgerError") _).2.2.1 _ _
    ⟨[.cause (.text "closing")], frozen.layers, rfl, fun other member => ?_⟩
  cases other <;> simp [ErrorType.layer, FamilyError.layer] at member

/-- Where any error is declared, one that was put around another as a context comes back alone: the error
underneath is lost. If the one that comes back has such a context too, the next forwarder loses more. -/
theorem complete_loses_error :
    let close : Method := ⟨"", "Ledger", "close", [], "Result<u64>"⟩
    let refused : Fault := .context (.erased (.text "closing refused")) (.text "account 7 is frozen")
    let audited : Fault := .context (.erased refused) (.text "audit failed")
    let raised (fault : Fault) : Except Fault UInt64 := .error fault
    let passed (fault : Fault) : Except Fault UInt64 :=
      complete BasicType.u64 .any close (erase BasicType.u64 .any (raised fault))
    (passed refused = raised (.text "closing refused") ∧ passed refused ≠ raised refused) ∧
      passed audited = raised refused := by
  intro close refused audited raised passed
  have lost : passed refused = raised (.text "closing refused") := rfl
  refine ⟨⟨lost, fun same => ?_⟩, rfl⟩
  exact Fault.noConfusion (Except.error.inj (lost.symm.trans same))

end Weave.Outcome
