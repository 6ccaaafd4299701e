import ControlPlane.Proofs.Records.SentRecords
import ControlPlane.Proofs.Registry.RegistryRows
import ControlPlane.Proofs.Registry.StoredRows

/-!
# Nodes and their owners

The owner of a node stands at the front of its row, and nothing else that is read from the
row depends on it.  So rows that differ in their owners are looked up, listed and updated
alike: what is found is the same node up to its owner, and what fails does so for the same
reason.
-/

namespace ControlPlane

/-! ## Maps and outcomes with the same images -/

namespace KeyMap

variable {α β : Type}

theorem lookup_map (f : α → β) (key : String) (entries : List (String × α)) :
    lookup key (entries.map fun entry => (entry.1, f entry.2)) = (lookup key entries).map f := by
  induction entries with
  | nil => rfl
  | cons head rest ih =>
    simp only [List.map_cons, lookup, ih]
    split <;> rfl

/-- Maps whose values have the same images list them in the same order. -/
theorem map_entries_congr {f : α → β} {a b : KeyMap α}
    (same : ∀ key, (a.get? key).map f = (b.get? key).map f) :
    a.entries.map (fun entry => (entry.1, f entry.2)) =
      b.entries.map fun entry => (entry.1, f entry.2) := by
  apply eq_of_lookup_eq
  · exact List.pairwise_map.2 a.ascending
  · exact List.pairwise_map.2 b.ascending
  · intro key
    rw [lookup_map, lookup_map]
    exact same key

end KeyMap

/-- Outcomes with the same image are the same failure, or answers with the same image. -/
theorem Except.cases_of_map_eq {ε α β : Type} {f : α → β} {one other : Except ε α}
    (same : one.map f = other.map f) :
    (∃ failure, one = .error failure ∧ other = .error failure) ∨
      ∃ value value', one = .ok value ∧ other = .ok value' ∧ f value = f value' := by
  rcases one with failure | value <;> rcases other with failure' | value'
  · exact .inl ⟨failure, rfl, by rw [Except.error.inj same]⟩
  · cases same
  · cases same
  · exact .inr ⟨value, value', rfl, rfl, Except.ok.inj same⟩

namespace Nodes

/-! ## Rows without owners -/

/-- The row with another owner. -/
def Row.ownedBy (row : Row) (owner : String) : Row := { row with member := owner }

/-- What is told of a stored value: its row without the owner, if it is one. -/
def told? (value : Bytes) : Option Row := (Row.codec.read? value).map (·.ownedBy "")

variable {row row' : Row} {name owner owner' : String} {writes : WriteSet}

/-- The owner is read from the front of a row, and the rest as if it stood alone. -/
theorem read?_encode_ownedBy (measured : Codec.Measured owner) (row : Row) :
    let fields := Codec.text.pair (Codec.signed.pair Codec.text)
    Row.codec.read? (Row.codec.encode (row.ownedBy owner)) =
      (fields.read? (fields.encode (row.roles, row.machineId, row.systemId))).map
        fun (roles, machineId, systemId) => ⟨owner, roles, machineId, systemId⟩ := by
  intro fields
  have front := Codec.readsBack_text measured
    (fields.encode (row.roles, row.machineId, row.systemId))
  have whole : Row.codec.encode (row.ownedBy owner) = Codec.text.encode owner ++
      fields.encode (row.roles, row.machineId, row.systemId) := rfl
  rw [whole, Codec.read?, Codec.read?]
  simp only [Row.codec, Codec.via, Codec.pair, front, Option.map_map]
  rfl

/-- Nothing that is told of a row depends on its owner. -/
theorem told?_encode_ownedBy (measured : Codec.Measured owner) (measured' : Codec.Measured owner')
    (row : Row) :
    told? (Row.codec.encode (row.ownedBy owner)) =
      told? (Row.codec.encode (row.ownedBy owner')) := by
  rw [told?, told?, read?_encode_ownedBy measured, read?_encode_ownedBy measured', Option.map_map,
    Option.map_map]
  rfl

/-- The node of a row without its owner. -/
theorem map_ofRow (name : String) (row : Row) :
    (ofRow name row).map Node.withoutOwner = ofRow name (row.ownedBy "") := by
  rw [ofRow, ofRow]
  cases decoded : decodeRoles row.roles <;> simp only [Row.ownedBy, decoded] <;> rfl

theorem ofRow_told (same : row.ownedBy "" = row'.ownedBy "") (name : String) :
    (ofRow name row).map Node.withoutOwner = (ofRow name row').map Node.withoutOwner := by
  rw [map_ofRow, map_ofRow, same]

theorem hasRoles_told (same : row.ownedBy "" = row'.ownedBy "") (wanted : List String) :
    hasRoles row wanted = hasRoles row' wanted := by
  have roles : (row.ownedBy "").roles = (row'.ownedBy "").roles := by rw [same]
  exact congrArg (fun roles => wanted.all (containsText roles)) roles

/-- An update of either row comes to the same row with another owner. -/
theorem update_told (same : row.ownedBy "" = row'.ownedBy "") (owner owner' : String)
    (roles : List String) (machineId : Int64) (systemId : String) :
    ∃ updated : Row, row.update owner roles machineId systemId = updated.ownedBy owner ∧
      row'.update owner' roles machineId systemId = updated.ownedBy owner' := by
  refine ⟨(row.ownedBy "").update "" roles machineId systemId, rfl, ?_⟩
  rw [same]
  rfl

/-! ## Looking up a row -/

variable {database : Database}

theorem map_row? :
    (row? database writes name).map (·.ownedBy "") =
      match (database.value? writes .nodes name).map told? with
      | none => .error notFound
      | some none => .error (.storage .undecodableRow)
      | some (some row) => .ok row := by
  rw [row?]
  cases database.value? writes .nodes name with
  | none => rfl
  | some value =>
    simp only [Option.map_some, told?]
    cases Row.codec.read? value <;> rfl

theorem getRow_of_lost (lost : database.medium.canFind name = false) :
    getRow name database .empty = (.error (.storage .taskFailed), .empty) := by
  rw [getRow, Action.bind_apply, Action.get_of_lost lost (WriteSet.get?_empty _ _)]

section Told

variable {a b : Database} (medium : a.medium = b.medium)

section Row

variable (same : (a.value? .empty .nodes name).map told? = (b.value? .empty .nodes name).map told?)

include medium same

/-- Either both rows are missing or unreadable, or the same is told of them. -/
theorem getRow_told :
    (∃ failure, getRow name a .empty = (.error failure, .empty) ∧
      getRow name b .empty = (.error failure, .empty)) ∨
    ∃ row row' : Row, getRow name a .empty = (.ok row, .empty) ∧
      getRow name b .empty = (.ok row', .empty) ∧ row.ownedBy "" = row'.ownedBy "" := by
  cases found : b.medium.canFind name with
  | false => exact .inl ⟨_, getRow_of_lost (medium ▸ found), getRow_of_lost found⟩
  | true =>
    have told : (row? a .empty name).map (·.ownedBy "") =
        (row? b .empty name).map (·.ownedBy "") := by
      rw [map_row?, map_row?, same]
    rw [getRow_apply found, getRow_apply (medium ▸ found)]
    rcases Except.cases_of_map_eq told with ⟨failure, known, known'⟩ | ⟨row, row', known, known', same⟩
    · exact .inl ⟨failure, by rw [known], by rw [known']⟩
    · exact .inr ⟨row, row', by rw [known], by rw [known'], same⟩

theorem get_told :
    (get name a .empty).1.map Node.withoutOwner = (get name b .empty).1.map Node.withoutOwner := by
  rw [get, Action.bind_apply, Action.bind_apply]
  rcases getRow_told medium same with ⟨failure, found, found'⟩ | ⟨row, row', found, found', told⟩
  · rw [found, found']
  · rw [found, found']
    exact ofRow_told told name

end Row

/-! ## Lists -/

/-- Rows of which the same is told make the same list, up to the owners. -/
theorem select_told (wanted : List String) {rows rows' : List (String × Bytes)}
    (same : rows.map (fun row => (row.1, told? row.2)) =
      rows'.map fun row => (row.1, told? row.2)) {acc acc' : List Node}
    (before : acc.map Node.withoutOwner = acc'.map Node.withoutOwner) :
    (select wanted acc rows).map (List.map Node.withoutOwner) =
      (select wanted acc' rows').map (List.map Node.withoutOwner) := by
  induction rows generalizing rows' acc acc' with
  | nil =>
    cases List.map_eq_nil_iff.1 same.symm
    simp only [select, Except.map, List.map_reverse, before]
  | cons row rest ih =>
    cases rows' with
    | nil => cases same
    | cons row' rest' =>
      rcases row with ⟨name, value⟩
      rcases row' with ⟨name', value'⟩
      simp only [List.map_cons, List.cons.injEq, Prod.mk.injEq] at same
      rcases same with ⟨⟨rfl, told⟩, later⟩
      rw [select, select]
      rw [told?, told?] at told
      cases read : Row.codec.read? value <;> cases read' : Row.codec.read? value' <;>
        rw [read, read'] at told
      case cons.cons.none.some | cons.cons.some.none => cases told
      case cons.cons.some.some row row' =>
        have same := Option.some.inj told
        simp only [hasRoles_told same wanted]
        split
        · rcases Except.cases_of_map_eq (ofRow_told same name) with
            ⟨failure, made, made'⟩ | ⟨node, node', made, made', alike⟩
          · rw [made, made']
          · rw [made, made']
            apply ih later
            rw [List.map_cons, List.map_cons, before, alike]
        · exact ih later before

theorem list_told (readable : a.unreadable.get .nodes = [])
    (readable' : b.unreadable.get .nodes = [])
    (same : ∀ name,
      (a.value? .empty .nodes name).map told? = (b.value? .empty .nodes name).map told?)
    (wanted : List String) :
    (list wanted a .empty).1.map (List.map Node.withoutOwner) =
      (list wanted b .empty).1.map (List.map Node.withoutOwner) := by
  rw [list, Action.bind_apply, Action.bind_apply, Action.scan_empty_apply readable,
    Action.scan_empty_apply readable']
  exact select_told wanted (KeyMap.map_entries_congr same) rfl

end Told

end Nodes

end ControlPlane
