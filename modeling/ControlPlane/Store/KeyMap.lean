/-!
# Maps ordered by key

A finite map from text keys, kept as the list of its bindings in strictly
ascending order of keys.  Texts are compared by code point, which is also the
order of their UTF-8 bytes.  The order is part of the type, so the list of
bindings is determined by the bindings: `ext_get?`.
-/

namespace ControlPlane

/-- A finite map from texts, with its bindings in ascending order of keys. -/
structure KeyMap (α : Type) where
  /-- The bindings. -/
  entries : List (String × α)
  ascending : entries.Pairwise fun a b => a.1 < b.1

namespace KeyMap

variable {α : Type}

theorem entries_injective {a b : KeyMap α} (same : a.entries = b.entries) : a = b := by
  cases a; cases b; cases same; rfl

instance [DecidableEq α] : DecidableEq (KeyMap α) := fun a b =>
  if same : a.entries = b.entries then .isTrue (entries_injective same)
  else .isFalse fun equal => same (congrArg entries equal)

/-! ## Bindings as a list -/

/-- The value bound to a key in a list of bindings. -/
def lookup (key : String) : List (String × α) → Option α
  | [] => none
  | (k, v) :: rest => if k = key then some v else lookup key rest

/-- Binds a key in an ascending list of bindings. -/
def insertEntry (key : String) (value : α) : List (String × α) → List (String × α)
  | [] => [(key, value)]
  | (k, v) :: rest =>
    if key < k then (key, value) :: (k, v) :: rest
    else if k = key then (key, value) :: rest
    else (k, v) :: insertEntry key value rest

theorem mem_insertEntry {key : String} {value : α} {entries : List (String × α)}
    {entry : String × α} (member : entry ∈ insertEntry key value entries) :
    entry = (key, value) ∨ entry ∈ entries := by
  induction entries with
  | nil => simpa [insertEntry] using member
  | cons head rest ih =>
    obtain ⟨k, v⟩ := head
    unfold insertEntry at member
    split at member
    · simpa using member
    · split at member
      · rcases List.mem_cons.1 member with h | h
        · exact .inl h
        · exact .inr (List.mem_cons_of_mem _ h)
      · rcases List.mem_cons.1 member with h | h
        · exact .inr (h ▸ List.mem_cons_self)
        · rcases ih h with h | h
          · exact .inl h
          · exact .inr (List.mem_cons_of_mem _ h)

theorem lt_of_not_lt_of_ne {a b : String} (notLess : ¬a < b) (different : b ≠ a) : b < a := by
  rcases String.le_total a b with h | h
  · exact absurd (String.le_antisymm h (String.not_lt.1 notLess)) (Ne.symm different)
  · by_cases less : b < a
    · exact less
    · exact absurd (String.le_antisymm h (String.not_lt.1 less)) different

theorem insertEntry_ascending (key : String) (value : α) {entries : List (String × α)}
    (sorted : entries.Pairwise fun a b => a.1 < b.1) :
    (insertEntry key value entries).Pairwise fun a b => a.1 < b.1 := by
  induction entries with
  | nil => simp [insertEntry]
  | cons head rest ih =>
    obtain ⟨k, v⟩ := head
    obtain ⟨above, sortedRest⟩ := List.pairwise_cons.1 sorted
    unfold insertEntry
    split
    · rename_i less
      refine List.pairwise_cons.2 ⟨?_, sorted⟩
      intro entry member
      rcases List.mem_cons.1 member with rfl | h
      · exact less
      · exact String.lt_trans less (above entry h)
    · rename_i notLess
      split
      · rename_i same
        subst same
        exact List.pairwise_cons.2 ⟨above, sortedRest⟩
      · rename_i different
        refine List.pairwise_cons.2 ⟨?_, ih sortedRest⟩
        intro entry member
        rcases mem_insertEntry member with rfl | h
        · exact lt_of_not_lt_of_ne notLess different
        · exact above entry h

theorem lookup_insertEntry (key other : String) (value : α) (entries : List (String × α)) :
    lookup other (insertEntry key value entries) =
      if other = key then some value else lookup other entries := by
  induction entries with
  | nil => simp [insertEntry, lookup, eq_comm]
  | cons head rest ih =>
    obtain ⟨k, v⟩ := head
    unfold insertEntry
    split
    · simp [lookup, eq_comm]
    · split
      · rename_i same
        subst same
        by_cases h : other = k
        · simp [lookup, h]
        · simp [lookup, h, Ne.symm h]
      · rename_i different
        simp only [lookup, ih]
        by_cases h : k = other
        · subst h; simp [different]
        · simp [h]

theorem lookup_eq_none_of_below {key : String} {entries : List (String × α)}
    (below : ∀ entry ∈ entries, key < entry.1) : lookup key entries = none := by
  induction entries with
  | nil => rfl
  | cons head rest ih =>
    obtain ⟨k, v⟩ := head
    have less := below (k, v) List.mem_cons_self
    have different : k ≠ key := fun same => String.lt_irrefl _ (same ▸ less)
    simp [lookup, different, ih fun entry h => below entry (List.mem_cons_of_mem _ h)]

theorem mem_of_lookup {key : String} {value : α} {entries : List (String × α)}
    (found : lookup key entries = some value) : (key, value) ∈ entries := by
  induction entries with
  | nil => simp [lookup] at found
  | cons head rest ih =>
    obtain ⟨k, v⟩ := head
    unfold lookup at found
    split at found
    · rename_i same
      injection found with equal
      subst same equal
      exact List.mem_cons_self
    · exact List.mem_cons_of_mem _ (ih found)

theorem lookup_of_mem {key : String} {value : α} {entries : List (String × α)}
    (sorted : entries.Pairwise fun a b => a.1 < b.1) (member : (key, value) ∈ entries) :
    lookup key entries = some value := by
  induction entries with
  | nil => cases member
  | cons head rest ih =>
    obtain ⟨k, v⟩ := head
    obtain ⟨above, sortedRest⟩ := List.pairwise_cons.1 sorted
    rcases List.mem_cons.1 member with h | h
    · injection h with hk hv
      subst hk hv
      simp [lookup]
    · have different : k ≠ key := fun same => String.lt_irrefl _ (same ▸ above _ h)
      simp [lookup, different, ih sortedRest h]

/-- Ascending lists of bindings with the same look-ups are equal. -/
theorem eq_of_lookup_eq {a b : List (String × α)}
    (sortedA : a.Pairwise fun x y => x.1 < y.1) (sortedB : b.Pairwise fun x y => x.1 < y.1)
    (same : ∀ key, lookup key a = lookup key b) : a = b := by
  induction a generalizing b with
  | nil =>
    cases b with
    | nil => rfl
    | cons head rest =>
      obtain ⟨k, v⟩ := head
      have := same k
      simp [lookup] at this
  | cons headA restA ih =>
    obtain ⟨k, v⟩ := headA
    obtain ⟨aboveA, sortedRestA⟩ := List.pairwise_cons.1 sortedA
    cases b with
    | nil =>
      have := same k
      simp [lookup] at this
    | cons headB restB =>
      obtain ⟨k', v'⟩ := headB
      obtain ⟨aboveB, sortedRestB⟩ := List.pairwise_cons.1 sortedB
      have keys : k = k' := by
        by_cases equal : k = k'
        · exact equal
        · exfalso
          have inB : lookup k ((k', v') :: restB) = some v := by rw [← same k]; simp [lookup]
          have inA : lookup k' ((k, v) :: restA) = some v' := by rw [same k']; simp [lookup]
          rcases List.mem_cons.1 (mem_of_lookup inB) with h | h
          · injection h with h _; exact equal h
          · rcases List.mem_cons.1 (mem_of_lookup inA) with h' | h'
            · injection h' with h' _; exact equal h'.symm
            · exact String.lt_asymm (aboveA _ h') (aboveB _ h)
      subst keys
      have values : v = v' := by
        have := same k
        simpa [lookup] using this
      subst values
      congr 1
      refine ih sortedRestA sortedRestB fun key => ?_
      by_cases equal : key = k
      · subst equal
        rw [lookup_eq_none_of_below aboveA, lookup_eq_none_of_below aboveB]
      · have := same key
        simpa [lookup, Ne.symm equal] using this

/-! ## Operations -/

/-- The map without bindings. -/
def empty : KeyMap α := ⟨[], .nil⟩

/-- The value bound to a key. -/
def get? (map : KeyMap α) (key : String) : Option α :=
  lookup key map.entries

/-- Binds a key, whether or not it was bound. -/
def insert (map : KeyMap α) (key : String) (value : α) : KeyMap α :=
  ⟨insertEntry key value map.entries, insertEntry_ascending key value map.ascending⟩

/-- Keeps the bindings that a test accepts. -/
def filter (map : KeyMap α) (test : String → α → Bool) : KeyMap α :=
  ⟨map.entries.filter fun entry => test entry.1 entry.2, map.ascending.filter _⟩

/-- Removes the binding of a key. -/
def erase (map : KeyMap α) (key : String) : KeyMap α :=
  map.filter fun k _ => k ≠ key

/-- Binds each pair in turn, so that the last of equal keys counts. -/
def ofList (pairs : List (String × α)) : KeyMap α :=
  pairs.foldl (fun map pair => map.insert pair.1 pair.2) empty

/-- The number of bindings. -/
def size (map : KeyMap α) : Nat := map.entries.length

/-- The keys, ascending. -/
def keys (map : KeyMap α) : List String := map.entries.map (·.1)

/-! ## Look-ups after each operation -/

/-- A map is determined by its look-ups. -/
theorem ext_get? {a b : KeyMap α} (same : ∀ key, a.get? key = b.get? key) : a = b :=
  entries_injective (eq_of_lookup_eq a.ascending b.ascending same)

theorem mem_entries_iff {map : KeyMap α} {key : String} {value : α} :
    (key, value) ∈ map.entries ↔ map.get? key = some value :=
  ⟨lookup_of_mem map.ascending, mem_of_lookup⟩

@[simp]
theorem get?_empty (key : String) : (empty : KeyMap α).get? key = none := rfl

@[simp]
theorem get?_insert (map : KeyMap α) (key other : String) (value : α) :
    (map.insert key value).get? other = if other = key then some value else map.get? other :=
  lookup_insertEntry key other value map.entries

@[simp]
theorem get?_filter (map : KeyMap α) (test : String → α → Bool) (key : String) :
    (map.filter test).get? key = (map.get? key).filter (test key) := by
  apply Option.ext
  intro value
  rw [← mem_entries_iff, Option.filter_eq_some_iff, ← mem_entries_iff]
  simp [filter, List.mem_filter]

@[simp]
theorem get?_erase (map : KeyMap α) (key other : String) :
    (map.erase key).get? other = if other = key then none else map.get? other := by
  rw [erase, get?_filter]
  by_cases same : other = key
  · cases map.get? other <;> simp [same]
  · cases map.get? other <;> simp [same]

end KeyMap

end ControlPlane
