/-! Finite maps that keep the order in which keys were first put in. -/

namespace Weave

/-- At most one entry per key is ever reached; `insert` keeps it that way. -/
structure Table (κ α : Type) where
  entries : List (κ × α) := []

namespace Table

variable {κ α : Type} [DecidableEq κ]

def find? (table : Table κ α) (key : κ) : Option α := table.entries.lookup key

def getD (table : Table κ α) (key : κ) (default : α) : α := (table.find? key).getD default

def put (key : κ) (value : α) : List (κ × α) → List (κ × α)
  | [] => [(key, value)]
  | (other, old) :: rest =>
    if other = key then (other, value) :: rest else (other, old) :: put key value rest

def insert (table : Table κ α) (key : κ) (value : α) : Table κ α := ⟨put key value table.entries⟩

def size (table : Table κ α) : Nat := table.entries.length

def keys (table : Table κ α) : List κ := table.entries.map (·.1)

theorem lookup_put (key other : κ) (value : α) (entries : List (κ × α)) :
    (put key value entries).lookup other =
      if other = key then some value else entries.lookup other := by
  induction entries with
  | nil =>
    by_cases same : other = key
    · simp [put, same]
    · simp [put, same]
  | cons head rest ih =>
    obtain ⟨first, old⟩ := head
    by_cases here : first = key
    · subst here
      by_cases same : other = first
      · simp [put, same]
      · simp [put, List.lookup_cons, same, beq_eq_false_iff_ne.2 same]
    · by_cases same : other = first
      · subst same
        simp [put, here]
      · simp [put, here, List.lookup_cons, beq_eq_false_iff_ne.2 same, ih]

theorem put_absent {key : κ} (value : α) {entries : List (κ × α)}
    (absent : key ∉ entries.map (·.1)) : put key value entries = entries ++ [(key, value)] := by
  induction entries with
  | nil => rfl
  | cons head rest ih =>
    rw [List.map_cons, List.mem_cons, not_or] at absent
    rw [put, if_neg (Ne.symm absent.1), ih absent.2, List.cons_append]

theorem map_fst_put {key : κ} (value : α) {entries : List (κ × α)}
    (present : key ∈ entries.map (·.1)) : (put key value entries).map (·.1) = entries.map (·.1) := by
  induction entries with
  | nil => contradiction
  | cons head rest ih =>
    rw [put]
    split
    · rfl
    · have behind : key ∈ rest.map (·.1) :=
        (List.mem_cons.1 present).resolve_left (Ne.symm ‹head.1 ≠ key›)
      rw [List.map_cons, ih behind, List.map_cons]

theorem keys_insert (table : Table κ α) (key : κ) (value : α) :
    (table.insert key value).keys =
      if key ∈ table.keys then table.keys else table.keys ++ [key] := by
  split
  · exact map_fst_put value ‹_›
  · rw [keys, insert, put_absent value ‹_›, List.map_append]
    rfl

@[simp] theorem find?_insert (table : Table κ α) (key other : κ) (value : α) :
    (table.insert key value).find? other = if other = key then some value else table.find? other :=
  lookup_put key other value table.entries

theorem mem_entries_of_find? {table : Table κ α} {key : κ} {value : α}
    (found : table.find? key = some value) : (key, value) ∈ table.entries := by
  obtain ⟨first, second, split, -⟩ := List.lookup_eq_some_iff.1 found
  rw [split]
  exact List.mem_append_right _ List.mem_cons_self

theorem find?_eq_none {table : Table κ α} {key : κ} :
    table.find? key = none ↔ key ∉ table.keys := by
  unfold find? keys
  rw [List.lookup_eq_none_iff, List.mem_map]
  constructor
  · rintro apart ⟨entry, member, rfl⟩
    simpa using apart entry member
  · intro absent entry member
    rw [bne_iff_ne]
    rintro rfl
    exact absent ⟨entry, member, rfl⟩

theorem getD_insert (table : Table κ α) (key other : κ) (value default : α) :
    (table.insert key value).getD other default =
      if other = key then value else table.getD other default := by
  simp only [getD, find?_insert]
  split <;> rfl

end Table

end Weave
