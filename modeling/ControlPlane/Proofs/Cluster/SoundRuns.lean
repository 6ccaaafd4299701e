import ControlPlane.Proofs.Cluster.SoundCalls

/-!
# Runs on sound rows

Every run from an empty cluster in memory keeps the rows sound, as long as its calls write
no item among the locks.  So no call at all fails after it by a fault of the store or of a
record.
-/

namespace ControlPlane

/-! ## Manifests that were created -/

namespace Exchange

/-- The manifests that were created in an exchange. -/
def creations : Exchange Call.Answer → Nat
  | ⟨call, .ok _⟩ => call.creations
  | ⟨_, .error _⟩ => 0

end Exchange

/-- The number of manifests that were ever created. -/
def manifestsCreated : List (Exchange Call.Answer) → Nat
  | [] => 0
  | exchange :: later => exchange.creations + manifestsCreated later

theorem manifestsCreated_concat (history : List (Exchange Call.Answer))
    (exchange : Exchange Call.Answer) :
    manifestsCreated (history ++ [exchange]) =
      manifestsCreated history + exchange.creations := by
  induction history with
  | nil => exact Nat.add_comm _ _
  | cons first later ih =>
    rw [List.cons_append, manifestsCreated, manifestsCreated, ih, Nat.add_assoc]

/-- No call creates more than one manifest. -/
theorem manifestsCreated_le_length (history : List (Exchange Call.Answer)) :
    manifestsCreated history ≤ history.length := by
  induction history with
  | nil => exact Nat.le_refl 0
  | cons exchange later ih =>
    have one : exchange.creations ≤ 1 := by
      rcases exchange with ⟨call, failure | answer⟩
      · exact Nat.zero_le 1
      · cases call with
        | addManifest => exact Nat.le_refl 1
        | _ => exact Nat.zero_le 1
    rw [manifestsCreated, List.length_cons, Nat.add_comm]
    exact Nat.add_le_add ih one

namespace Cluster

/-- A cluster in memory whose rows are sound. -/
structure Sound (cluster : Cluster) (created : Nat) : Prop extends cluster.Ready where
  readable : ∀ table, cluster.store.database.unreadable.get table = []
  rows : SoundRows cluster.value? created

variable {cluster : Cluster} {history : List (Exchange Call.Answer)} {member : String}

theorem sound_empty (member : String) : (empty .memory member).Sound 0 where
  toReady := ready_empty member
  readable := fun table => Tables.get_const [] table
  rows := by
    have absent (table : Table) (key : String) :
        (empty .memory member).value? table key = none := by
      cases table <;> rfl
    constructor
    · intro table key value row
      rw [absent] at row
      cases row
    · intro id _ _ _ _ _ row
      rw [absent] at row
      cases row
    · rw [PlainTables.Counts, absent]

/-- How a call on sound rows ends: it fails by its own request and changes nothing, or it
is answered and leaves sound rows if it was a regular one. -/
theorem Sound.serve_cases (sound : cluster.Sound created) (now : Instant) (call : Call) :
    (∃ failure, (cluster.serve now call).1 = .error failure ∧ failure.OfRequest ∧
      (cluster.serve now call).2.value? = cluster.value?) ∨
    ∃ answer, (cluster.serve now call).1 = .ok answer ∧
      (call.Regular cluster.member ∧ created + call.creations < 2 ^ 64 →
        SoundRows (cluster.serve now call).2.value? (created + call.creations)) := by
  cases refused : call.refusal? with
  | some failure =>
    have serves : cluster.serve now call = (.error failure, cluster) := by
      rw [Cluster.serve, refused]
    rw [serves]
    exact .inl ⟨failure, rfl, Call.ofRequest_of_refusal? refused, rfl⟩
  | none =>
    have ends := Call.action_sound sound.rows sound.memory sound.readable cluster.member
      now refused
    rcases acts : call.action cluster.member now cluster.store.database .empty with
      ⟨failure | answer, writes⟩
    · rcases serve_of_failure now call refused acts with ⟨failed, rows⟩
      rw [acts] at ends
      cases ends with
      | failure ofRequest =>
        exact .inl ⟨failure, failed, ofRequest, funext fun table => funext (rows table)⟩
    · rcases serve_of_answer now call sound.memory refused acts with ⟨answered, rows⟩
      have seen : (cluster.serve now call).2.value? = cluster.store.database.plain writes :=
        funext fun table => funext (rows table)
      rw [acts] at ends
      cases ends with
      | answer left =>
        rw [seen]
        exact .inr ⟨answer, answered, left⟩

/-- On sound rows a call fails by nothing but its own request. -/
theorem Sound.ofRequest (sound : cluster.Sound created) {now : Instant} {call : Call}
    {failure : Failure} (failed : (cluster.serve now call).1 = .error failure) :
    failure.OfRequest := by
  rcases sound.serve_cases now call with ⟨_, failed', ofRequest, _⟩ | ⟨answer, answered, _⟩
  · cases failed.symm.trans failed'
    exact ofRequest
  · cases failed.symm.trans answered

/-- A regular call leaves sound rows. -/
theorem Sound.serve (sound : cluster.Sound created) (now : Instant) {call : Call}
    (regular : call.Regular cluster.member)
    (room : created + Exchange.creations ⟨call, (cluster.serve now call).1⟩ < 2 ^ 64) :
    (cluster.serve now call).2.Sound
      (created + Exchange.creations ⟨call, (cluster.serve now call).1⟩) where
  toReady := sound.toReady.serve now call
  readable := by
    rw [unreadable_serve]
    exact sound.readable
  rows := by
    rcases sound.serve_cases now call with ⟨failure, failed, _, same⟩ | ⟨answer, answered, left⟩
    · rw [failed, same]
      exact sound.rows
    · rw [answered] at room ⊢
      exact left ⟨regular, room⟩

theorem Served.member_eq (run : Served member history cluster) : cluster.member = member := by
  induction run with
  | start => rfl
  | serve run now call ih => rw [member_serve, ih]

/-- Regular calls keep the rows sound for as long as there are row ids. -/
theorem Served.sound (run : Served member history cluster)
    (regular : ∀ exchange ∈ history, exchange.request.Regular member)
    (few : manifestsCreated history < 2 ^ 64) : cluster.Sound (manifestsCreated history) := by
  induction run with
  | start => exact sound_empty member
  | serve run now call ih =>
    rw [manifestsCreated_concat] at few ⊢
    have sound := ih (fun exchange earlier => regular exchange (List.mem_append_left _ earlier))
      (Nat.lt_of_le_of_lt (Nat.le_add_right _ _) few)
    apply sound.serve now _ few
    rw [run.member_eq]
    exact regular _ List.mem_concat_self

/-- After any calls that put no item among the locks, and that created fewer than
`2 ^ 64 - 1` manifests, every row stands for what its table is for, and no call, whatever
it asks for, fails by a fault of the store or of a record. -/
theorem reachable_rows_sound (run : Served member history cluster)
    (regular : ∀ exchange ∈ history, exchange.request.Regular member)
    (few : manifestsCreated history < 2 ^ 64 - 1) :
    SoundRows cluster.value? (manifestsCreated history) ∧
      ∀ now call, (∀ fault, (cluster.serve now call).1 ≠ .error (.storage fault)) ∧
        ∀ fault, (cluster.serve now call).1 ≠ .error (.internal fault) := by
  have sound := run.sound regular (Nat.lt_of_lt_of_le few (Nat.sub_le _ _))
  refine ⟨sound.rows, ?_⟩
  intro now call
  constructor
  · intro fault failed
    exact sound.ofRequest failed
  · intro fault failed
    exact sound.ofRequest failed

/-- A node is registered and changed in part, a manifest recorded and a lock taken. -/
theorem reachable_rows_sound_of_four_calls :
    let requested : Lock := { id := "7", who := "ops" }
    let calls : List Call :=
      [.addNode "n1" ["compute"] 4 "s1", .updateNode "n1" [] Node.unsetMachineId "s2",
        .addManifest "m1" "text", .lockPlan "prod" requested]
    ∃ history cluster, Served "node-1" history cluster ∧
      history.map Exchange.request = calls ∧
      (∀ exchange ∈ history, exchange.request.Regular "node-1") ∧
      manifestsCreated history < 2 ^ 64 - 1 ∧
      SoundRows cluster.value? (manifestsCreated history) := by
  intro requested calls
  have regular : ∀ call ∈ calls, call.Regular "node-1" := by
    have noRoles : Nodes.encodeRoles [] = "[]" := by
      rw [Nodes.encodeRoles, Nodes.sortTexts, List.mergeSort_nil]
      decide
    have oneRole : Nodes.encodeRoles ["compute"] = "[\"compute\"]" := by
      rw [Nodes.encodeRoles, Nodes.sortTexts, List.mergeSort_singleton]
      decide
    intro call member
    simp only [calls, List.mem_cons, List.not_mem_nil, or_false] at member
    rcases member with rfl | rfl | rfl | rfl
    · refine ⟨trivial, trivial, ⟨by decide, ?_, by decide⟩⟩
      simp only [oneRole]
      decide
    · refine ⟨trivial, trivial, ⟨by decide, ?_, by decide⟩⟩
      simp only [noRoles]
      decide
    · refine ⟨trivial, trivial, ?_⟩
      have measured : Codec.Measured "text" := by decide
      exact measured
    · refine ⟨⟨_, Plans.decodeLock_text ?_⟩, trivial, trivial⟩
      intro time dated
      cases dated
  let schedule : Schedule (Exchange Call.Answer) := ⟨empty .memory "node-1", calls.map recorded⟩
  have begun : Served "node-1" [] schedule.cluster := .start
  rcases begun.drain (fun _ => ⟨0, 0⟩) rfl rfl with ⟨run, asked⟩
  rw [List.nil_append] at run
  have kept (exchange : Exchange Call.Answer)
      (served : exchange ∈ (schedule.drain fun _ => ⟨0, 0⟩).1) :
      exchange.request.Regular "node-1" :=
    regular _ (asked ▸ List.mem_map_of_mem served)
  have few : manifestsCreated (schedule.drain fun _ => ⟨0, 0⟩).1 < 2 ^ 64 - 1 := by
    apply Nat.lt_of_le_of_lt (manifestsCreated_le_length _)
    rw [← List.length_map Exchange.request, asked]
    decide
  exact ⟨_, _, run, asked, kept, few, (reachable_rows_sound run kept few).1⟩

end Cluster

end ControlPlane
