import Mathlib.Data.List.Basic
import Mathlib.Order.Bounds.Basic
import Weave.Proofs.Dispatching

/-! Lists of advisors under construction. Every call on a factory edits its list at one place or leaves
it alone: what stands in front of that place and behind it stays, in its order. So along any sequence of
calls no advisor is lost or doubled, which one comes before which changes only by what a call puts in or
takes out, and a name always leads to the first advisor that has it. -/

namespace Weave.Factory

/-! ### Edits of lists -/

/-- An edit at one place. All other members stay, and so does their order. -/
def Edits {α : Type} (taken put before after : List α) : Prop :=
  ∃ front back, before = front ++ taken ++ back ∧ after = front ++ put ++ back

theorem Edits.refl {α : Type} (all : List α) : Edits [] [] all all :=
  ⟨all, [], (List.append_nil _).symm.trans (List.append_nil _).symm,
    (List.append_nil _).symm.trans (List.append_nil _).symm⟩

theorem Edits.perm {α : Type} {taken put before after : List α} (edits : Edits taken put before after) :
    (after ++ taken).Perm (before ++ put) := by
  obtain ⟨front, back, rfl, rfl⟩ := edits
  simp only [List.append_assoc]
  refine List.Perm.append_left front ?_
  calc (put ++ (back ++ taken)).Perm (back ++ taken ++ put) := List.perm_append_comm
    _ = back ++ (taken ++ put) := List.append_assoc ..
    List.Perm _ (taken ++ (back ++ put)) := List.perm_append_comm_assoc back taken put

theorem split_at {α : Type} {all : List α} {index : Nat} {member : α}
    (here : all[index]? = some member) :
    ∃ front back, all = front ++ member :: back ∧ front.length = index := by
  obtain ⟨within, rfl⟩ := List.getElem?_eq_some_iff.1 here
  refine ⟨all.take index, all.drop (index + 1), ?_, List.length_take_of_le within.le⟩
  rw [← List.drop_eq_getElem_cons within, List.take_append_drop]

theorem insertIdx_between {α : Type} (front back : List α) (member : α) :
    (front ++ back).insertIdx front.length member = front ++ member :: back := by
  induction front with
  | nil => rfl
  | cons first rest ih =>
    rw [List.cons_append, List.length_cons, List.insertIdx_succ_cons, ih, List.cons_append]

theorem eraseIdx_between {α : Type} (front back : List α) (member : α) :
    (front ++ member :: back).eraseIdx front.length = front ++ back := by
  rw [List.eraseIdx_append_of_length_le (Nat.le_refl _), Nat.sub_self, List.eraseIdx_cons_zero]

variable [ValueTypes] {σ : Type}

/-! ### Calls -/

inductive ListCall (σ : Type) where
  | add (advisor : Advisor σ)
  | insert (index : Nat) (advisor : Advisor σ)
  | remove (index : Nat)
  | replace (index : Nat) (advisor : Advisor σ)
  | removeNamed (name : String)

inductive Reply (σ : Type) where
  | done
  | advisor (given : Advisor σ)
  | found (any : Bool)
  | refused (error : ConfigError)

/-- The reply to a call, and the factory behind it: one that refuses stays as it was. -/
def replied {α : Type} (factory : Factory σ) (reply : α → Reply σ) :
    Except ConfigError (α × Factory σ) → Reply σ × Factory σ
  | .ok (value, after) => (reply value, after)
  | .error error => (.refused error, factory)

def serve (factory : Factory σ) : ListCall σ → Reply σ × Factory σ
  | .add advisor =>
    factory.replied (fun _ => .done) ((factory.addAdvisor advisor).map ((), ·))
  | .insert index advisor =>
    factory.replied (fun _ => .done) ((factory.insertAdvisor index advisor).map ((), ·))
  | .remove index => factory.replied .advisor (factory.removeAdvisor index)
  | .replace index advisor => factory.replied .advisor (factory.replaceAdvisor index advisor)
  | .removeNamed name => factory.replied .found (factory.removeAdvisorNamed name)

/-! ### What a call comes to -/

/-- What a call on a list of advisors comes to: the reply and the list behind it. An index beyond the
list is refused, and a refusal leaves the list alone. -/
inductive Rearranges : ListCall σ → List (Advisor σ) → Reply σ → List (Advisor σ) → Prop
  | added (advisor : Advisor σ) (all : List (Advisor σ)) :
      Rearranges (.add advisor) all .done (all ++ [advisor])
  | inserted (advisor : Advisor σ) (front back : List (Advisor σ)) :
      Rearranges (.insert front.length advisor) (front ++ back) .done (front ++ advisor :: back)
  | removed (old : Advisor σ) (front back : List (Advisor σ)) :
      Rearranges (.remove front.length) (front ++ old :: back) (.advisor old) (front ++ back)
  | replaced (advisor old : Advisor σ) (front back : List (Advisor σ)) :
      Rearranges (.replace front.length advisor) (front ++ old :: back) (.advisor old)
        (front ++ advisor :: back)
  | dropped {name : String} {old : Advisor σ} (named : old.name = name) {front : List (Advisor σ)}
      (others : ∀ advisor ∈ front, advisor.name ≠ name) (back : List (Advisor σ)) :
      Rearranges (.removeNamed name) (front ++ old :: back) (.found true) (front ++ back)
  | unnamed {name : String} {all : List (Advisor σ)} (others : ∀ advisor ∈ all, advisor.name ≠ name) :
      Rearranges (.removeNamed name) all (.found false) all
  | noPlace (advisor : Advisor σ) {index : Nat} {all : List (Advisor σ)}
      (beyond : all.length < index) :
      Rearranges (.insert index advisor) all (.refused (.indexOutOfBounds index all.length)) all
  | noneToRemove {index : Nat} {all : List (Advisor σ)} (beyond : all.length ≤ index) :
      Rearranges (.remove index) all (.refused (.indexOutOfBounds index all.length)) all
  | noneToReplace (advisor : Advisor σ) {index : Nat} {all : List (Advisor σ)}
      (beyond : all.length ≤ index) :
      Rearranges (.replace index advisor) all (.refused (.indexOutOfBounds index all.length)) all

def ListCall.puts : ListCall σ → Reply σ → List (Advisor σ)
  | .add advisor, .done | .insert _ advisor, .done | .replace _ advisor, .advisor _ => [advisor]
  | _, _ => []

def ListCall.takes (before : List (Advisor σ)) : ListCall σ → Reply σ → List (Advisor σ)
  | .removeNamed name, .found true => (before.find? (·.name == name)).toList
  | _, .advisor given => [given]
  | _, _ => []

theorem Rearranges.edits {call : ListCall σ} {reply : Reply σ} {before after : List (Advisor σ)}
    (rearranges : Rearranges call before reply after) :
    Edits (call.takes before reply) (call.puts reply) before after := by
  cases rearranges with
  | added advisor => exact ⟨before, [], by simp [ListCall.takes], by simp [ListCall.puts]⟩
  | inserted advisor front back =>
    exact ⟨front, back, by simp [ListCall.takes], by simp [ListCall.puts]⟩
  | removed old front back =>
    exact ⟨front, back, by simp [ListCall.takes], by simp [ListCall.puts]⟩
  | replaced advisor old front back =>
    exact ⟨front, back, by simp [ListCall.takes], by simp [ListCall.puts]⟩
  | @dropped name old named front others back =>
    have first : (front ++ old :: back).find? (·.name == name) = some old := by
      rw [List.find?_append, List.find?_eq_none.2 (by simpa using others)]
      simp [named]
    exact ⟨front, back, by simp [ListCall.takes, first], by simp [ListCall.puts]⟩
  | unnamed | noPlace | noneToRemove | noneToReplace => exact Edits.refl before

theorem Rearranges.refused {call : ListCall σ} {reply : Reply σ} {before after : List (Advisor σ)}
    (rearranges : Rearranges call before reply after) {error : ConfigError}
    (isRefused : reply = .refused error) : after = before := by
  cases rearranges with
  | noPlace | noneToRemove | noneToReplace => rfl
  | added | inserted | removed | replaced | dropped | unnamed => contradiction

/-! ### What a factory does -/

def places (advisors : List (Advisor σ)) (name : String) : Set Nat :=
  {place | ∃ advisor, advisors[place]? = some advisor ∧ advisor.name = name}

/-- A name leads to the first advisor that has it. -/
theorem indexOf?_eq_some (factory : Factory σ) (name : String) (index : Nat) :
    factory.indexOf? name = some index ↔ IsLeast (places factory.advisors name) index := by
  unfold indexOf? Advisor.indexOf?
  rw [List.findIdx?_eq_some_iff_getElem]
  constructor
  · rintro ⟨within, named, before⟩
    refine ⟨⟨_, List.getElem?_eq_getElem within, beq_iff_eq.1 named⟩, ?_⟩
    rintro place ⟨advisor, here, also⟩
    by_contra earlier
    obtain ⟨_, rfl⟩ := List.getElem?_eq_some_iff.1 here
    exact before place (Nat.lt_of_not_le earlier) (beq_iff_eq.2 also)
  · rintro ⟨⟨advisor, here, named⟩, least⟩
    obtain ⟨within, rfl⟩ := List.getElem?_eq_some_iff.1 here
    refine ⟨within, beq_iff_eq.2 named, fun place earlier also => ?_⟩
    have below := least ⟨_, List.getElem?_eq_getElem (earlier.trans within), beq_iff_eq.1 also⟩
    exact absurd earlier (Nat.not_lt.2 below)

theorem split_at_first {factory : Factory σ} {name : String} {index : Nat}
    (found : factory.indexOf? name = some index) :
    ∃ front old back, factory.advisors = front ++ old :: back ∧ front.length = index ∧
      old.name = name ∧ ∀ advisor ∈ front, advisor.name ≠ name := by
  obtain ⟨⟨old, here, named⟩, least⟩ := (factory.indexOf?_eq_some name index).1 found
  obtain ⟨front, back, split, rfl⟩ := split_at here
  refine ⟨front, old, back, split, rfl, named, fun advisor member also => ?_⟩
  obtain ⟨place, within, rfl⟩ := List.getElem_of_mem member
  have earlier : factory.advisors[place]? = some front[place] := by
    rw [split, List.getElem?_append_left within, List.getElem?_eq_getElem within]
  exact absurd within (Nat.not_lt.2 (least ⟨_, earlier, also⟩))

theorem indexOf?_eq_none (factory : Factory σ) (name : String) :
    factory.indexOf? name = none ↔ ∀ advisor ∈ factory.advisors, advisor.name ≠ name := by
  simp [indexOf?, Advisor.indexOf?]

section
variable {factory : Factory σ} (isOpen : factory.flags.frozen = false)
include isOpen

theorem whileOpen_open {α : Type} (kind : FactoryChange) (result : Except ConfigError α) :
    factory.whileOpen kind result = result := by
  rw [whileOpen, isOpen]
  rfl

theorem removeAdvisor_split {front back : List (Advisor σ)} {old : Advisor σ}
    (split : factory.advisors = front ++ old :: back) :
    factory.removeAdvisor front.length = .ok (old, { factory with advisors := front ++ back }) := by
  have here : factory.advisors[front.length]? = some old := by
    simp [split]
  have left : factory.advisors.eraseIdx front.length = front ++ back := by
    rw [split, eraseIdx_between]
  rw [removeAdvisor, whileOpen_open isOpen, here]
  simp only [left]

theorem serve_removeNamed_found {name : String} {index : Nat}
    (found : factory.indexOf? name = some index) :
    factory.serve (.removeNamed name) =
      (.found true, { factory with advisors := factory.advisors.eraseIdx index }) := by
  obtain ⟨front, old, back, split, rfl, -, -⟩ := split_at_first found
  simp only [serve, removeAdvisorNamed, found, removeAdvisor_split isOpen split, replied, Except.map]
  rw [split, eraseIdx_between]

theorem serve_removeNamed_missing {name : String} (missing : factory.indexOf? name = none) :
    factory.serve (.removeNamed name) = (.found false, factory) := by
  simp only [serve, removeAdvisorNamed, missing, whileOpen_open isOpen, replied]

/-- A call rearranges the advisors and leaves all else of an open factory as it was. -/
theorem serve_rearranges (call : ListCall σ) :
    let served := factory.serve call
    Rearranges call factory.advisors served.1 served.2.advisors ∧
      served.2 = { factory with advisors := served.2.advisors } := by
  cases call with
  | add advisor =>
    simp only [serve, addAdvisor, whileOpen_open isOpen]
    exact ⟨.added _ _, rfl⟩
  | insert index advisor =>
    simp only [serve, insertAdvisor, whileOpen_open isOpen]
    by_cases within : index ≤ factory.advisors.length
    · obtain ⟨front, back, split, rfl⟩ : ∃ front back,
          factory.advisors = front ++ back ∧ front.length = index :=
        ⟨_, _, (List.take_append_drop index _).symm, List.length_take_of_le within⟩
      simp only [if_pos within, replied, Except.map]
      rw [split, insertIdx_between]
      exact ⟨.inserted advisor front back, trivial⟩
    · rw [if_neg within]
      exact ⟨.noPlace advisor (Nat.lt_of_not_le within), rfl⟩
  | remove index =>
    cases here : factory.advisors[index]? with
    | none =>
      simp only [serve, removeAdvisor, whileOpen_open isOpen, here]
      exact ⟨.noneToRemove (List.getElem?_eq_none_iff.1 here), rfl⟩
    | some old =>
      obtain ⟨front, back, split, rfl⟩ := split_at here
      simp only [serve, removeAdvisor_split isOpen split, replied]
      rw [split]
      exact ⟨.removed old front back, trivial⟩
  | replace index advisor =>
    simp only [serve, replaceAdvisor, whileOpen_open isOpen]
    cases here : factory.advisors[index]? with
    | none => exact ⟨.noneToReplace advisor (List.getElem?_eq_none_iff.1 here), rfl⟩
    | some old =>
      obtain ⟨front, back, split, rfl⟩ := split_at here
      have changed : factory.advisors.set front.length advisor = front ++ advisor :: back := by
        simp [split]
      simp only [replied, changed]
      rw [split]
      exact ⟨.replaced advisor old front back, trivial⟩
  | removeNamed name =>
    cases found : factory.indexOf? name with
    | none =>
      rw [serve_removeNamed_missing isOpen found]
      exact ⟨.unnamed ((factory.indexOf?_eq_none name).1 found), rfl⟩
    | some index =>
      rw [serve_removeNamed_found isOpen found]
      obtain ⟨front, old, back, split, rfl, named, others⟩ := split_at_first found
      rw [split, eraseIdx_between]
      exact ⟨.dropped named others back, rfl⟩

end

/-! ### Runs -/

/-- A factory with its books: all advisors that were put into the list and all that were taken out. -/
structure Books (σ : Type) where
  factory : Factory σ
  put : List (Advisor σ) := []
  taken : List (Advisor σ) := []

def Books.after (books : Books σ) (call : ListCall σ) : Books σ :=
  let served := books.factory.serve call
  ⟨served.2, books.put ++ call.puts served.1,
    books.taken ++ call.takes books.factory.advisors served.1⟩

/-- The books balance: what is in the list and what was taken out of it is what there was at first and
what was put in, each as often. Nothing but the list has changed. -/
structure Books.Balanced (start : Factory σ) (books : Books σ) : Prop where
  advisors : (books.factory.advisors ++ books.taken).Perm (start.advisors ++ books.put)
  others : books.factory = { start with advisors := books.factory.advisors }

theorem Books.Balanced.after {start : Factory σ} {books : Books σ}
    (isOpen : start.flags.frozen = false) (balanced : books.Balanced start) (call : ListCall σ) :
    (books.after call).Balanced start := by
  obtain ⟨factory, put, taken⟩ := books
  obtain ⟨all, rfl⟩ : ∃ all, factory = { start with advisors := all } := ⟨_, balanced.others⟩
  let served := ({ start with advisors := all } : Factory σ).serve call
  obtain ⟨rearranges, others⟩ : Rearranges call all served.1 served.2.advisors ∧
      served.2 = { start with advisors := served.2.advisors } :=
    @serve_rearranges _ σ { start with advisors := all } isOpen call
  refine ⟨?_, others⟩
  let out := call.takes all served.1
  let into := call.puts served.1
  have before : (all ++ taken).Perm (start.advisors ++ put) := balanced.advisors
  have edited : (served.2.advisors ++ out).Perm (all ++ into) := rearranges.edits.perm
  change (served.2.advisors ++ (taken ++ out)).Perm (start.advisors ++ (put ++ into))
  calc (served.2.advisors ++ (taken ++ out)).Perm (served.2.advisors ++ (out ++ taken)) :=
      List.Perm.append_left _ List.perm_append_comm
    _ = served.2.advisors ++ out ++ taken := (List.append_assoc ..).symm
    List.Perm _ (all ++ into ++ taken) := edited.append_right taken
    List.Perm _ (all ++ taken ++ into) := by
      rw [List.append_assoc, List.append_assoc]
      exact List.Perm.append_left all List.perm_append_comm
    List.Perm _ (start.advisors ++ put ++ into) := before.append_right into
    _ = start.advisors ++ (put ++ into) := List.append_assoc ..

theorem balanced_run {start : Factory σ} (isOpen : start.flags.frozen = false) (books : Books σ)
    (balanced : books.Balanced start) (calls : List (ListCall σ)) :
    (calls.foldl Books.after books).Balanced start := by
  induction calls generalizing books with
  | nil => exact balanced
  | cons call rest ih => exact ih _ (balanced.after isOpen call)

/-- Along any sequence of calls on an open factory no advisor is lost or doubled, and nothing but the
list of advisors changes. Whatever has been called, each further call does what it says at one place,
where it puts in what it says and takes out what it answers, and leaves the other advisors in their
order; if it is refused, it leaves the list as it was. A name leads to the first advisor that has it, and
to remove by name removes just that one, if there is one. -/
theorem advisors_accounted (start : Factory σ) (isOpen : start.flags.frozen = false)
    (calls : List (ListCall σ)) :
    let books := calls.foldl Books.after { factory := start }
    let factory := books.factory
    books.Balanced start ∧
      (∀ call, let served := factory.serve call
        Rearranges call factory.advisors served.1 served.2.advisors ∧
          Edits (call.takes factory.advisors served.1) (call.puts served.1) factory.advisors
            served.2.advisors ∧
          ∀ error, served.1 = .refused error → served.2 = factory) ∧
      (∀ name index, factory.indexOf? name = some index ↔
        IsLeast (places factory.advisors name) index) ∧
      ∀ name, let served := factory.serve (.removeNamed name)
        (served.1 = .found true ↔ ∃ index, factory.indexOf? name = some index) ∧
          ∀ index, factory.indexOf? name = some index →
            served.2.advisors = factory.advisors.eraseIdx index := by
  intro books factory
  have balanced : books.Balanced start :=
    balanced_run isOpen { factory := start } ⟨by simp, rfl⟩ calls
  have stillOpen : factory.flags.frozen = false := by
    change books.factory.flags.frozen = false
    rw [balanced.others]
    exact isOpen
  refine ⟨balanced, fun call => ?_, indexOf?_eq_some factory, fun name => ?_⟩
  · intro served
    obtain ⟨rearranges, others⟩ := serve_rearranges stillOpen call
    refine ⟨rearranges, rearranges.edits, fun error refused => ?_⟩
    exact others.trans (by rw [rearranges.refused refused])
  · intro served
    cases found : factory.indexOf? name with
    | none =>
      have missing : served = (.found false, factory) := serve_removeNamed_missing stillOpen found
      rw [missing]
      simp
    | some index =>
      have removed : served = (.found true,
          { factory with advisors := factory.advisors.eraseIdx index }) :=
        serve_removeNamed_found stillOpen found
      rw [removed]
      simp

end Weave.Factory

namespace Weave.Echo

/-- Two advisors have one name. To remove it by name takes the first of them, to remove what is behind
the last is refused, and what was taken out and what is left are all that was put in. -/
theorem twins_accounted :
    let twin : Advisor Nat := .everywhere (.after fun _ => pure ())
    let calls : List (Factory.ListCall Nat) :=
      [.add twin, .insert 0 twin, .remove 3, .removeNamed twin.name, .replace 1 (twin.named "last")]
    let books := calls.foldl Factory.Books.after { factory }
    factory.flags.frozen = false ∧ books.Balanced factory ∧
      books.factory.advisors.map (·.name) = ["around-advisor", "last"] ∧
      books.taken.map (·.name) = [twin.name, twin.name] ∧
      books.factory.indexOf? "last" = some 1 := by
  intro twin calls books
  have balanced := (Factory.advisors_accounted factory rfl calls).1
  exact ⟨rfl, balanced, rfl, rfl, rfl⟩

end Weave.Echo
