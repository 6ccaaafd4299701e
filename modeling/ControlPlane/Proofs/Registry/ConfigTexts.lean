import ControlPlane.Proofs.Store.Footprint
import ControlPlane.Proofs.Store.SeenRows
import ControlPlane.Proofs.Text.Utf8Bytes
import ControlPlane.Registry.ConfigItems

/-!
# Configuration items as texts

The values of the table `config` are texts as long as they are written through the
registry.  Where they are, looking up an item answers what the transaction sees under
its key, and a scan lists the keys in order.
-/

namespace ControlPlane

namespace Database

/-- Every configuration value that a transaction sees is a text. -/
def HoldsTexts (database : Database) (writes : WriteSet) : Prop :=
  ∀ key value, database.value? writes .config key = some value →
    ∃ text, value = Utf8.encode text

/-- The text that a transaction sees under a configuration key. -/
def text? (database : Database) (writes : WriteSet) (key : String) : Option String :=
  (database.value? writes .config key).bind fun value => (Utf8.decode value).toOption

variable {database : Database} {writes : WriteSet}

theorem text?_of_value {key : String} {found : Option String}
    (row : database.value? writes .config key = found.map Utf8.encode) :
    database.text? writes key = found := by
  rw [text?, row]
  cases found with
  | none => rfl
  | some text =>
    simp only [Option.map_some, Option.bind_some, Utf8.decode_encode]
    rfl

/-- Where the values are texts, the text of a key says which value it has. -/
theorem HoldsTexts.value?_eq (texts : database.HoldsTexts writes) (key : String) :
    database.value? writes .config key = (database.text? writes key).map Utf8.encode := by
  cases row : database.value? writes .config key with
  | none =>
    rw [text?, row]
    rfl
  | some value =>
    rcases texts key value row with ⟨text, rfl⟩
    have known : database.value? writes .config key = (some text).map Utf8.encode := row
    rw [text?_of_value known]
    rfl

theorem HoldsTexts.put (texts : database.HoldsTexts writes) (key text : String) :
    database.HoldsTexts (writes.put .config key (Utf8.encode text)) := by
  intro other value row
  rw [value?_put] at row
  split at row
  · cases row
    exact ⟨text, rfl⟩
  · exact texts other value row

theorem HoldsTexts.delete (texts : database.HoldsTexts writes) (key : String) :
    database.HoldsTexts (writes.delete .config key) := by
  intro other value row
  rw [value?_delete] at row
  split at row
  · cases row
  · exact texts other value row

theorem text?_put (key text other : String) :
    database.text? (writes.put .config key (Utf8.encode text)) other =
      if other = key then some text else database.text? writes other := by
  by_cases same : other = key
  · rw [if_pos same]
    apply text?_of_value
    rw [value?_put, if_pos ⟨rfl, same⟩]
    rfl
  · rw [if_neg same, text?, value?_put, if_neg]
    · rfl
    · rintro ⟨_, equal⟩
      exact same equal

theorem text?_delete (key other : String) :
    database.text? (writes.delete .config key) other =
      if other = key then none else database.text? writes other := by
  by_cases same : other = key
  · rw [if_pos same, text?, value?_delete, if_pos ⟨rfl, same⟩]
    rfl
  · rw [if_neg same, text?, value?_delete, if_neg]
    · rfl
    · rintro ⟨_, equal⟩
      exact same equal

end Database

namespace ConfigItems

variable {database : Database} {writes : WriteSet} {key : String} {text? : Option String}

/-! ## What is read under a key -/

/-- A transaction reads the text, or that there is none, under a key. -/
def Reads (database : Database) (writes : WriteSet) (key : String) (text? : Option String) : Prop :=
  Action.get .config key database writes = (.ok (text?.map Utf8.encode), writes)

theorem reads_of_value (canFind : database.medium.canFind key = true)
    (row : database.value? writes .config key = text?.map Utf8.encode) :
    Reads database writes key text? := by
  rw [Reads, Action.get_apply canFind, row]

/-- A text is read as it was written. -/
theorem reads_put (database : Database) (writes : WriteSet) (key text : String) :
    Reads database (writes.put .config key (Utf8.encode text)) key (some text) := by
  rw [Reads, Action.get, WriteSet.put, WriteSet.get?_stage, if_pos ⟨rfl, rfl⟩]
  rfl

/-- A text is read as long as nothing is staged under its key. -/
theorem Reads.congr {writes' : WriteSet} (reads : Reads database writes key text?)
    (same : writes'.get? .config key = writes.get? .config key) :
    Reads database writes' key text? := by
  have seen := congrArg Prod.fst reads
  rw [Action.get] at seen
  rw [Reads, Action.get, same]
  cases staged : writes.get? .config key with
  | some write =>
    rw [staged] at seen
    exact Prod.ext seen rfl
  | none =>
    rw [staged] at seen
    exact Prod.ext seen rfl

/-- A commit keeps what is read. -/
theorem Reads.commit {next : Database} (reads : Reads database writes key text?)
    (applied : database.apply writes = .ok next) : Reads next .empty key text? := by
  have sameMedium := Database.medium_of_apply applied
  have seen := congrArg Prod.fst reads
  rw [Action.get] at seen
  cases staged : writes.get? .config key with
  | some write =>
    rw [staged] at seen
    apply reads_of_value
    · rw [sameMedium]
      exact Medium.canFind_of_canStore (Database.canStore_of_apply applied staged)
    · rw [Database.value?_of_apply applied, Database.value?_eq, staged]
      exact Except.ok.inj seen
  | none =>
    rw [staged] at seen
    simp only [Database.read] at seen
    split at seen
    · rename_i canFind
      apply reads_of_value
      · rw [sameMedium]
        exact canFind
      · rw [Database.value?_of_apply applied, Database.value?_eq, staged]
        exact Except.ok.inj seen
    · cases seen

theorem get?_apply (reads : Reads database writes key text?) :
    get? key database writes = (.ok text?, writes) := by
  rw [get?, Action.bind_apply, reads]
  cases text? with
  | none => rfl
  | some text =>
    simp only [Option.map_some, Action.bind_apply, Action.ofExcept_apply, decodeValue,
      Utf8.decode_encode]
    rfl

theorem get_apply (reads : Reads database writes key text?) :
    get key database writes = (text?.elim (.error notFound) Except.ok, writes) := by
  rw [get, Action.bind_apply, get?_apply reads]
  cases text? <;> rfl

/-- Removing an item stages a delete only under a key that has a text. -/
theorem delete_apply (reads : Reads database writes key text?) :
    delete key database writes =
      text?.elim (.ok (), writes) fun _ => (.ok (), writes.delete .config key) := by
  rw [delete, Action.bind_apply, Action.delete, Action.bind_apply, Action.contains,
    Action.bind_apply, reads]
  cases text? <;> rfl

/-! ## Lists of keys -/

theorem keys_apply {start : String} (canFind : database.medium.canFind start = true)
    (readable : database.unreadable.get .config = []) :
    keys start database writes =
      (.ok (((database.seen writes).get .config).filter fun key _ => startsWith key start).keys,
        writes) := by
  rw [keys, Action.bind_apply,
    Action.scan_apply canFind (Database.firstUnreadable?_of_readable readable _)]
  rfl

/-- Where the values are texts, they are read. -/
theorem reads_of_texts (texts : database.HoldsTexts writes)
    (canFind : database.medium.canFind key = true) :
    Reads database writes key (database.text? writes key) :=
  reads_of_value canFind (texts.value?_eq key)

/-! ## What the registry may change -/

theorem readsOnly_get? (key : String) : (get? key).ReadsOnly := by
  apply (Action.readsOnly_get _ key).bind
  rintro (_ | value)
  · exact Action.readsOnly_pure _
  · exact (Action.readsOnly_ofExcept _).bind fun _ => Action.readsOnly_pure _

theorem readsOnly_get (key : String) : (get key).ReadsOnly := by
  apply (readsOnly_get? key).bind
  rintro (_ | value)
  · exact Action.readsOnly_fail _
  · exact Action.readsOnly_pure _

theorem readsOnly_keys (start : String) : (keys start).ReadsOnly :=
  (Action.readsOnly_scan _ start).bind fun _ => Action.readsOnly_pure _

theorem staysIn_upsert (key value : String) :
    (upsert key value).StaysIn (Action.onlyRow .config key) :=
  Action.staysIn_put _ ⟨rfl, rfl⟩

theorem staysIn_delete (key : String) :
    (delete key).StaysIn (Action.onlyRow .config key) := by
  have stays : (Action.delete .config key).StaysIn (Action.onlyRow .config key) :=
    Action.staysIn_delete ⟨rfl, rfl⟩
  exact stays.bind fun _ => (Action.readsOnly_pure _).staysIn

end ConfigItems

end ControlPlane
