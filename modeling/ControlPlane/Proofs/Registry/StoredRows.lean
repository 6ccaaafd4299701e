import ControlPlane.Proofs.Row.SelfDelimiting
import ControlPlane.Registry.JujuUsers
import ControlPlane.Registry.Manifests
import ControlPlane.Registry.Nodes

/-!
# Stored rows are told from their bytes

Every row that the registries write is read back, also where other bytes follow it.  A row
that was cut short is a fault of the store and never another row, and no two rows have the
same bytes.
-/

namespace ControlPlane

/-! ## Rows that read back -/

namespace Nodes.Row

/-- The lengths of the texts of a row fit 64 bits. -/
structure Measured (row : Row) : Prop where
  member : Codec.Measured row.member
  roles : Codec.Measured row.roles
  systemId : Codec.Measured row.systemId

/-- A node is read back as it was registered. -/
theorem Measured.readsBack {row : Row} (measured : row.Measured) : codec.ReadsBack row :=
  .via (.pair (Codec.readsBack_text measured.member)
    (.pair (Codec.readsBack_text measured.roles)
      (.pair (Codec.readsBack_signed _) (Codec.readsBack_text measured.systemId)))) rfl

theorem steady_decode : Codec.Steady codec.decode :=
  Codec.steady_via (Codec.steady_pair Codec.steady_text (Codec.steady_pair Codec.steady_text
    (Codec.steady_pair Codec.steady_signed Codec.steady_text))) _ _

end Nodes.Row

namespace Manifests

/-- A manifest is read back as it was recorded. -/
theorem readsBack_row {row : Row} (measured : Codec.Measured row.data) :
    Row.codec.ReadsBack row :=
  .via (.pair (Codec.readsBack_unsigned _) (.pair (Codec.readsBack_signed _)
    (Codec.readsBack_text measured))) rfl

theorem Row.steady_decode : Codec.Steady Row.codec.decode :=
  Codec.steady_via (Codec.steady_pair Codec.steady_unsigned
    (Codec.steady_pair Codec.steady_signed Codec.steady_text)) _ _

end Manifests

/-! ## What a row is told from -/

namespace Codec

variable {α : Type} {codec : Codec α} {Held : α → Prop}

/-- The bytes of the values that a machine can hold say where they end. -/
structure SelfDelimiting (codec : Codec α) (Held : α → Prop) : Prop where
  /-- A value is read from its bytes, whatever follows them. -/
  read : ∀ value, Held value → ∀ behind database writes,
    Action.decodeRow codec (codec.encode value ++ behind) database writes = (.ok value, writes)
  /-- Reading bytes that end before the value does is a fault of the store. -/
  cut : ∀ value, Held value → ∀ front behind, front ++ behind = codec.encode value →
    behind ≠ [] → ∀ database writes, Action.decodeRow codec front database writes =
      (.error (.storage .undecodableRow), writes)
  /-- No value begins with the bytes of another one. -/
  apart : ∀ value other, Held value → Held other →
    codec.encode value <+: codec.encode other → value = other

theorem Steady.selfDelimiting (steady : Steady codec.decode)
    (back : ∀ value, Held value → codec.ReadsBack value) : codec.SelfDelimiting Held where
  read := by
    intro value held behind database writes
    simp [Action.decodeRow, read?, back value held behind]
  cut := by
    intro value held front behind whole more database writes
    simp [Action.decodeRow, read?, steady.eq_none (back value held) whole more]
  apart := by
    intro value other held held' begins
    exact (back value held).eq_of_isPrefix (back other held') begins

/-- The lengths of a list and of the texts in it fit 64 bits. -/
structure MeasuredTexts (values : List String) : Prop where
  few : values.length < 2 ^ 64
  texts : ∀ value ∈ values, Measured value

/-- All that is stored can be told from its bytes: values of the plain kinds, and the rows
of nodes, manifests and users. -/
theorem stored_values_self_delimiting :
    unsigned.SelfDelimiting (fun _ => True) ∧
    signed.SelfDelimiting (fun _ => True) ∧
    bool.SelfDelimiting (fun _ => True) ∧
    text.SelfDelimiting Measured ∧
    (list text).SelfDelimiting MeasuredTexts ∧
    (option unsigned).SelfDelimiting (fun _ => True) ∧
    Nodes.Row.codec.SelfDelimiting Nodes.Row.Measured ∧
    Manifests.Row.codec.SelfDelimiting (fun row => Measured row.data) ∧
    JujuUsers.rowCodec.SelfDelimiting Measured := by
  have texts : text.SelfDelimiting Measured :=
    steady_text.selfDelimiting fun _ => readsBack_text
  refine ⟨?unsigned, ?signed, ?bool, texts, ?list, ?option, ?node, ?manifest, texts⟩
  case unsigned => exact steady_unsigned.selfDelimiting fun value _ => readsBack_unsigned value
  case signed => exact steady_signed.selfDelimiting fun value _ => readsBack_signed value
  case bool => exact steady_bool.selfDelimiting fun value _ => readsBack_bool value
  case list =>
    apply (steady_list steady_text).selfDelimiting
    intro values measured
    exact .list measured.few fun value member => readsBack_text (measured.texts value member)
  case option =>
    apply (steady_option steady_unsigned).selfDelimiting
    intro value _
    exact .option fun held _ => readsBack_unsigned held
  case node => exact Nodes.Row.steady_decode.selfDelimiting fun _ => Nodes.Row.Measured.readsBack
  case manifest => exact Manifests.Row.steady_decode.selfDelimiting fun _ => Manifests.readsBack_row

/-- A node with the least machine number, with a byte behind its row and with the row cut
short in the middle of that number. -/
theorem stored_values_self_delimiting_of_node :
    let row : Nodes.Row := ⟨"node-1", "[\"é\"]", Int64.minValue, "s"⟩
    let bytes := Nodes.Row.codec.encode row
    let database := Database.empty .memory
    row.Measured ∧ bytes.take 18 ++ bytes.drop 18 = bytes ∧ bytes.drop 18 ≠ [] ∧
      Action.decodeRow Nodes.Row.codec (bytes ++ [0]) database .empty = (.ok row, .empty) ∧
      Action.decodeRow Nodes.Row.codec (bytes.take 18) database .empty =
        (.error (.storage .undecodableRow), .empty) := by
  intro row bytes database
  have measured : row.Measured := ⟨by decide, by decide, by decide⟩
  have whole : bytes.take 18 ++ bytes.drop 18 = bytes := List.take_append_drop 18 bytes
  have more : bytes.drop 18 ≠ [] := by decide +kernel
  have delimited := stored_values_self_delimiting.2.2.2.2.2.2.1
  exact ⟨measured, whole, more, delimited.read row measured [0] database .empty,
    delimited.cut row measured _ _ whole more database .empty⟩

end Codec

end ControlPlane
