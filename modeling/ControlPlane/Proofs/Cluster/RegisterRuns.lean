import ControlPlane.Proofs.Cluster.RegisterCalls

/-!
# Runs of the registers

Every run from an empty cluster in memory is answered as four registers answer it, whatever
the keys, the texts and the readings of the clock.  So what was created is told as it was
until it is taken away.
-/

namespace ControlPlane

/-! ## What lasts in a run -/

/-- In a history, what one exchange makes is told by every later one, until it is taken
away. -/
def Lasts (history : List (Exchange TimedCall.Answer))
    (makes takes tells : Exchange TimedCall.Answer → Prop) : Prop :=
  ∀ earlier made between asked later, history = earlier ++ made :: (between ++ asked :: later) →
    makes made → (∀ exchange ∈ between, ¬takes exchange) → tells asked

/-- What holds of the registers from the exchange that makes it hold lasts. -/
theorem Follows.lasts {member : String} {before after : Registers}
    {history : List (Exchange TimedCall.Answer)}
    {makes takes tells : Exchange TimedCall.Answer → Prop}
    (holds : Registers → Prop) (run : Follows (Registers.Answers member) before history after)
    (made : ∀ exchange before after,
      Registers.Answers member before exchange.request exchange.outcome after →
      makes exchange → holds after)
    (kept : ∀ exchange before after,
      Registers.Answers member before exchange.request exchange.outcome after →
      ¬takes exchange → holds before → holds after)
    (told : ∀ exchange before after,
      Registers.Answers member before exchange.request exchange.outcome after →
      holds before → tells exchange) :
    Lasts history makes takes tells := by
  rintro earlier exchange between asked later rfl makes_ spared
  rcases run.cut with ⟨_, _, rest⟩
  cases rest with
  | next answered rest =>
    rcases rest.cut with ⟨middle, during, rest⟩
    cases rest with
    | next answered' _ =>
      apply told _ _ _ answered'
      apply during.preserves _ (made _ _ _ answered makes_)
      exact fun other member _ _ answers => kept other _ _ answers (spared other member)

/-- A manifest is told as it is: looked up by its identifier, and among all of them. -/
def Exchange.TellsManifest (manifest : Manifest) : Exchange TimedCall.Answer → Prop
  | ⟨⟨_, .getManifest id⟩, outcome⟩ => id = manifest.id → outcome = .ok manifest
  | ⟨⟨_, .listManifests⟩, outcome⟩ => ∃ listed, outcome = .ok listed ∧ manifest ∈ listed
  | _ => True

/-- A user is told as it is: looked up by its name, and among all of them. -/
def Exchange.TellsUser (user : JujuUser) : Exchange TimedCall.Answer → Prop
  | ⟨⟨_, .getJujuUser username⟩, outcome⟩ => username = user.username → outcome = .ok user
  | ⟨⟨_, .listJujuUsers⟩, outcome⟩ => ∃ listed, outcome = .ok listed ∧ user ∈ listed
  | _ => True

/-! ## What one exchange keeps -/

namespace Register

variable {ρ : Type} {register other : Register ρ} {name name' : String} {record record' : ρ}
  {outcome : Except Failure Unit}

/-- A record stays when another one is put under a free name. -/
theorem of_add {taken : Failure} (settles : (outcome, other) = register.add taken name' record')
    (present : register name = some record) : other name = some record := by
  rw [add] at settles
  split at settles
  · cases settles
    exact present
  · rename_i free
    cases settles
    rw [Function.update_of_ne]
    · exact present
    · rintro rfl
      rw [present] at free
      cases free

/-- A record is there once it was put under a free name. -/
theorem of_added {taken : Failure} (settles : (.ok (), other) = register.add taken name record) :
    other name = some record := by
  rw [add] at settles
  split at settles
  · cases settles
  · cases settles
    exact Function.update_self ..

/-- A record stays when another one is taken away. -/
theorem of_remove {missing : Failure} (settles : (outcome, other) = register.remove missing name')
    (spared : ¬(name' = name ∧ outcome = .ok ())) (present : register name = some record) :
    other name = some record := by
  rw [remove] at settles
  split at settles
  · cases settles
    rw [Function.update_of_ne fun same => spared ⟨same.symm, rfl⟩]
    exact present
  · cases settles
    exact present

theorem Lists.mem {wanted : String → ρ → Prop} {listed : List (String × ρ)}
    (lists : register.Lists wanted listed) (present : register name = some record)
    (want : wanted name record) : record ∈ listed.map (·.2) :=
  List.mem_map.2 ⟨(name, record), (lists.mem_iff name record).2 ⟨present, want⟩, rfl⟩

end Register

namespace Registers

variable {member : String} {before after : Registers} {now : Instant} {call : Call}
  {outcome : Except Failure call.Answer}

/-- Only two calls change the manifests, and only two the users. -/
theorem answers_frame (answered : Answers member before ⟨now, call⟩ outcome after) :
    (after.manifests = before.manifests ∨
        ∃ id, (∃ data, call = .addManifest id data) ∨ call = .deleteManifest id) ∧
      (after.users = before.users ∨
        ∃ username, (∃ token, call = .addJujuUser username token) ∨
          call = .deleteJujuUser username) := by
  cases call with
  | addManifest id data =>
    rcases answered with ⟨_, _, rfl⟩
    exact ⟨.inr ⟨id, .inl ⟨data, rfl⟩⟩, .inl rfl⟩
  | deleteManifest id =>
    rcases answered with ⟨_, _, rfl⟩
    exact ⟨.inr ⟨id, .inr rfl⟩, .inl rfl⟩
  | addJujuUser username token =>
    rcases answered with ⟨_, _, rfl⟩
    exact ⟨.inl rfl, .inr ⟨username, .inl ⟨token, rfl⟩⟩⟩
  | deleteJujuUser username =>
    rcases answered with ⟨_, _, rfl⟩
    exact ⟨.inl rfl, .inr ⟨username, .inr rfl⟩⟩
  | addNode =>
    rcases answered with ⟨_, _, _, _, rfl⟩
    exact ⟨.inl rfl, .inl rfl⟩
  | updateNode name =>
    simp only [Answers] at answered
    split at answered
    · rw [answered.2]
      exact ⟨.inl rfl, .inl rfl⟩
    · rcases answered with ⟨_, _, _, rfl⟩
      exact ⟨.inl rfl, .inl rfl⟩
  | putConfig | deleteConfig | deleteNode | putState | deleteState | lockPlan | unlockPlan =>
    rcases answered with ⟨_, _, rfl⟩
    exact ⟨.inl rfl, .inl rfl⟩
  | _ =>
    rw [answered.2]
    exact ⟨.inl rfl, .inl rfl⟩

/-- A manifest that is recorded was added to the others. -/
theorem add_of_addManifest {id data : String} {outcome : Except Failure Unit}
    (answered : Answers member before ⟨now, .addManifest id data⟩ outcome after) :
    (after.manifests = before.manifests ∧ outcome ≠ .ok ()) ∨
      (outcome, after.manifests) = before.manifests.add (.alreadyExists "manifest") id
        ⟨id, .ofNanos now.toNanos, data⟩ := by
  rcases answered with ⟨manifests, settles, rfl⟩
  split at settles
  · cases settles
    exact .inl ⟨rfl, nofun⟩
  · split at settles
    · cases settles
      exact .inl ⟨rfl, nofun⟩
    · split at settles
      · cases settles
        exact .inl ⟨rfl, nofun⟩
      · exact .inr settles

/-- A user that is registered was added to the others. -/
theorem add_of_addJujuUser {username token : String} {outcome : Except Failure Unit}
    (answered : Answers member before ⟨now, .addJujuUser username token⟩ outcome after) :
    (after.users = before.users ∧ outcome ≠ .ok ()) ∨
      (outcome, after.users) =
        before.users.add (.alreadyExists "jujuuser") username ⟨username, token⟩ := by
  rcases answered with ⟨users, settles, rfl⟩
  split at settles
  · cases settles
    exact .inl ⟨rfl, nofun⟩
  · exact .inr settles

theorem keeps_manifest {id : String} {manifest : Manifest}
    (answered : Answers member before ⟨now, call⟩ outcome after)
    (spared : ¬Exchange.Does ⟨⟨now, call⟩, outcome⟩ (.deleteManifest id))
    (present : before.manifests id = some manifest) : after.manifests id = some manifest := by
  rcases (answers_frame answered).1 with same | ⟨other, ⟨data, rfl⟩ | rfl⟩
  · rw [same]
    exact present
  · rcases add_of_addManifest answered with ⟨same, _⟩ | added
    · rw [same]
      exact present
    · exact Register.of_add added present
  · rcases answered with ⟨manifests, settles, rfl⟩
    refine Register.of_remove settles ?_ present
    rintro ⟨rfl, done⟩
    exact spared ⟨rfl, (), done⟩

theorem keeps_user {username : String} {user : JujuUser}
    (answered : Answers member before ⟨now, call⟩ outcome after)
    (spared : ¬Exchange.Does ⟨⟨now, call⟩, outcome⟩ (.deleteJujuUser username))
    (present : before.users username = some user) : after.users username = some user := by
  rcases (answers_frame answered).2 with same | ⟨other, ⟨token, rfl⟩ | rfl⟩
  · rw [same]
    exact present
  · rcases add_of_addJujuUser answered with ⟨same, _⟩ | added
    · rw [same]
      exact present
    · exact Register.of_add added present
  · rcases answered with ⟨users, settles, rfl⟩
    refine Register.of_remove settles ?_ present
    rintro ⟨rfl, done⟩
    exact spared ⟨rfl, (), done⟩

theorem tells_manifest {manifest : Manifest}
    (answered : Answers member before ⟨now, call⟩ outcome after)
    (present : before.manifests manifest.id = some manifest) :
    Exchange.TellsManifest manifest ⟨⟨now, call⟩, outcome⟩ := by
  cases call with
  | getManifest id =>
    rintro rfl
    rw [answered.1]
    exact Register.find_of_some _ present
  | listManifests =>
    rcases answered with ⟨⟨listed, told, lists⟩, _⟩
    exact ⟨_, told, lists.mem present trivial⟩
  | _ => exact trivial

theorem tells_user {user : JujuUser}
    (answered : Answers member before ⟨now, call⟩ outcome after)
    (present : before.users user.username = some user) :
    Exchange.TellsUser user ⟨⟨now, call⟩, outcome⟩ := by
  cases call with
  | getJujuUser username =>
    rintro rfl
    rw [answered.1]
    exact Register.find_of_some _ present
  | listJujuUsers =>
    rcases answered with ⟨⟨listed, told, lists⟩, _⟩
    exact ⟨_, told, lists.mem present trivial⟩
  | _ => exact trivial

end Registers

/-! ## What lasts in every run -/

section Runs

variable {member : String} {before after : Registers}
  {history : List (Exchange TimedCall.Answer)}
  (run : Follows (Registers.Answers member) before history after)

include run

/-- A manifest is told as it was recorded until it is deleted. -/
theorem Registers.manifest_lasts (now : Instant) (id data : String) :
    Lasts history (· = ⟨⟨now, .addManifest id data⟩, .ok ()⟩) (·.Does (.deleteManifest id))
      (·.TellsManifest ⟨id, .ofNanos now.toNanos, data⟩) := by
  refine run.lasts (fun registers =>
    registers.manifests id = some ⟨id, .ofNanos now.toNanos, data⟩) ?_ ?_ ?_
  · rintro exchange before after answered rfl
    rcases add_of_addManifest answered with ⟨_, failed⟩ | added
    · exact absurd rfl failed
    · exact Register.of_added added
  · intro exchange before after answered spared present
    exact keeps_manifest answered spared present
  · intro exchange before after answered present
    exact tells_manifest answered present

/-- A user is told as it was registered until it is deleted. -/
theorem Registers.user_lasts (username token : String) :
    Lasts history (·.Does (.addJujuUser username token)) (·.Does (.deleteJujuUser username))
      (·.TellsUser ⟨username, token⟩) := by
  refine run.lasts (fun registers => registers.users username = some ⟨username, token⟩) ?_ ?_ ?_
  · rintro ⟨⟨now, call⟩, outcome⟩ before after answered ⟨asked, done⟩
    obtain rfl : call = .addJujuUser username token := asked
    rcases add_of_addJujuUser answered with ⟨_, failed⟩ | added
    · exact absurd done.choose_spec failed
    · rw [show outcome = .ok () from done.choose_spec] at added
      exact Register.of_added added
  · intro exchange before after answered spared present
    exact keeps_user answered spared present
  · intro exchange before after answered present
    exact tells_user answered present

end Runs

/-! ## Clusters that stand for registers -/

namespace Cluster

/-- A cluster in memory whose rows stand for registers. -/
structure StandsFor (cluster : Cluster) (registers : Registers) : Prop extends cluster.Ready where
  readable : ∀ table, cluster.store.database.unreadable.get table = []
  rows : registers.Stand cluster.value?

variable {cluster : Cluster} {registers : Registers}

theorem standsFor_empty (member : String) : (empty .memory member).StandsFor .blank where
  toReady := ready_empty member
  readable := fun table => Tables.get_const [] table
  rows := by
    have absent (table : Table) : (empty .memory member).value? table = fun _ => none := by
      cases table <;> rfl
    constructor
    · intro key
      rw [absent]
      rfl
    · intro name
      rw [absent]
      exact .none
    · intro id
      rw [absent]
      exact .none
    · intro username
      rw [absent]
      exact .none
    · refine ⟨0, ?_⟩
      rw [PlainTables.Counts, absent]

/-- Looking up the latest manifest changes nothing. -/
theorem StandsFor.serve_latest (stands : cluster.StandsFor registers) {asked : TimedCall}
    (latest : asked.isLatest = true) :
    (cluster.serve asked.now asked.call).2.StandsFor registers where
  toReady := stands.toReady.serve ..
  readable := by
    rw [unreadable_serve]
    exact stands.readable
  rows := by
    have same : (cluster.serve asked.now asked.call).2.value? = cluster.value? := by
      funext table key
      apply value?_serve
      rw [of_decide_eq_true latest]
      exact .inl id
    rw [same]
    exact stands.rows

/-- Any other call is answered as the registers answer it. -/
theorem StandsFor.serve (stands : cluster.StandsFor registers) {asked : TimedCall}
    (measured : asked.call.Measured cluster.member) (named : asked.isLatest = false) :
    ∃ after, Registers.Answers cluster.member registers asked
        (cluster.serve asked.now asked.call).1 after ∧
      (cluster.serve asked.now asked.call).2.StandsFor after := by
  rcases asked with ⟨now, call⟩
  have left (after : Registers) (rows : after.Stand (cluster.serve now call).2.value?) :
      (cluster.serve now call).2.StandsFor after := by
    refine ⟨stands.toReady.serve .., ?_, rows⟩
    rw [unreadable_serve]
    exact stands.readable
  cases refused : call.refusal? with
  | some failure =>
    have serves : cluster.serve now call = (.error failure, cluster) := by
      rw [Cluster.serve, refused]
    rw [serves]
    exact ⟨registers, Registers.answers_of_refusal refused, stands⟩
  | none =>
    have ends := Call.action_answers stands.rows stands.memory stands.readable cluster.member now
      refused measured (of_decide_eq_false named)
    rcases acts : call.action cluster.member now cluster.store.database .empty with
      ⟨failure | answer, writes⟩
    · rcases serve_of_failure now call refused acts with ⟨failed, rows⟩
      have same : (cluster.serve now call).2.value? = cluster.value? :=
        funext fun table => funext (rows table)
      rw [acts] at ends
      cases ends with
      | failure answered =>
        rw [failed]
        exact ⟨registers, answered, left _ (same ▸ stands.rows)⟩
    · rcases serve_of_answer now call stands.memory refused acts with ⟨answered, rows⟩
      have seen : (cluster.serve now call).2.value? = cluster.store.database.plain writes :=
        funext fun table => funext (rows table)
      rw [acts] at ends
      cases ends with
      | answer answers stand =>
        rw [answered]
        exact ⟨_, answers, left _ (seen ▸ stand)⟩

/-- Calls are answered as the registers answer them, one after the other. -/
theorem StandsFor.serveEach (stands : cluster.StandsFor registers) (calls : List TimedCall)
    (measured : ∀ asked ∈ calls, asked.call.Measured cluster.member) :
    ∃ after,
      Follows (Registers.Answers cluster.member) registers
        ((cluster.serveEach calls).1.filter fun exchange => !exchange.request.isLatest) after ∧
      (cluster.serveEach calls).2.StandsFor after := by
  induction calls generalizing cluster registers with
  | nil => exact ⟨registers, .done registers, stands⟩
  | cons asked later ih =>
    have measuredLater : ∀ other ∈ later, other.call.Measured
        (cluster.serve asked.now asked.call).2.member := by
      intro other member
      rw [member_serve]
      exact measured other (List.mem_cons_of_mem _ member)
    cases named : asked.isLatest with
    | true =>
      rcases ih (stands.serve_latest named) measuredLater with ⟨after, run, last⟩
      refine ⟨after, ?_, last⟩
      rw [member_serve] at run
      rw [Cluster.serveEach]
      simp only [List.filter_cons, named]
      exact run
    | false =>
      rcases stands.serve (measured asked List.mem_cons_self) named with ⟨middle, answered, next⟩
      rcases ih next measuredLater with ⟨after, run, last⟩
      refine ⟨after, ?_, last⟩
      rw [member_serve] at run
      rw [Cluster.serveEach]
      simp only [List.filter_cons, named]
      exact .next answered run

/-- Whatever calls are made of an empty cluster in memory, each at any reading of the clock,
those that name what they ask for are answered as the registers answer them, and in no
other way.  The registers keep every record under its own name.  A manifest that is
recorded, and a user that is registered, is told as it was by every look-up and in every
list until it is deleted. -/
theorem serveEach_answers_as_registers (member : String) (calls : List TimedCall)
    (measured : ∀ asked ∈ calls, asked.call.Measured member) :
    let history := ((empty .memory member).serveEach calls).1.filter
      fun exchange => !exchange.request.isLatest
    (∃ final : Registers, final.Named ∧ ∀ history' final',
      Follows (Registers.Answers member) .blank history' final' ∧
          history'.map Exchange.request = calls.filter (fun asked => !asked.isLatest) ↔
        history' = history ∧ final' = final) ∧
    (∀ now id data, Lasts history (· = ⟨⟨now, .addManifest id data⟩, .ok ()⟩)
      (·.Does (.deleteManifest id)) (·.TellsManifest ⟨id, .ofNanos now.toNanos, data⟩)) ∧
    ∀ username token, Lasts history (·.Does (.addJujuUser username token))
      (·.Does (.deleteJujuUser username)) (·.TellsUser ⟨username, token⟩) := by
  intro history
  rcases (standsFor_empty member).serveEach calls measured with ⟨final, run, last⟩
  have asked : history.map Exchange.request = calls.filter (fun asked => !asked.isLatest) := by
    rw [← map_request_serveEach (empty .memory member) calls, List.filter_map]
    rfl
  refine ⟨⟨final, last.rows.named, ?_⟩, ?_, ?_⟩
  · intro history' final'
    constructor
    · rintro ⟨run', asked'⟩
      exact run'.unique (Registers.answers_settled member) run (asked'.trans asked.symm)
    · rintro ⟨rfl, rfl⟩
      exact ⟨run, asked⟩
  · exact Registers.manifest_lasts run
  · exact Registers.user_lasts run

/-- A node and a manifest are recorded, and the manifest once more. -/
theorem serveEach_answers_as_registers_of_two_names :
    let calls : List TimedCall :=
      [⟨⟨5, 0⟩, .addNode "n1" ["compute"] 4 "s1"⟩, ⟨⟨5, 0⟩, .addManifest "m1" "text"⟩,
        ⟨⟨4, 0⟩, .addManifest "m1" "other"⟩, ⟨⟨6, 0⟩, .getManifest Manifest.latestId⟩,
        ⟨⟨6, 0⟩, .getManifest "m1"⟩]
    let history := ((empty .memory "node-1").serveEach calls).1.filter
      fun exchange => !exchange.request.isLatest
    (∀ asked ∈ calls, asked.call.Measured "node-1") ∧
      (∃ final, Follows (Registers.Answers "node-1") .blank history final) ∧
      Lasts history (· = ⟨⟨⟨5, 0⟩, .addManifest "m1" "text"⟩, .ok ()⟩)
        (·.Does (.deleteManifest "m1")) (·.TellsManifest ⟨"m1", ⟨5, 0⟩, "text"⟩) := by
  intro calls history
  have measured : ∀ asked ∈ calls, asked.call.Measured "node-1" := by
    have oneRole : Nodes.encodeRoles ["compute"] = "[\"compute\"]" := by
      rw [Nodes.encodeRoles, Nodes.sortTexts, List.mergeSort_singleton]
      decide
    intro asked listed
    simp only [calls, List.mem_cons, List.not_mem_nil, or_false] at listed
    rcases listed with rfl | rfl | rfl | rfl | rfl
    · refine ⟨by decide, ?_, by decide⟩
      simp only [oneRole]
      decide
    · exact (by decide : Codec.Measured "text")
    · exact (by decide : Codec.Measured "other")
    · trivial
    · trivial
  rcases serveEach_answers_as_registers "node-1" calls measured with
    ⟨⟨final, _, settles⟩, lasts, _⟩
  exact ⟨measured, ⟨final, ((settles _ _).2 ⟨rfl, rfl⟩).1⟩, lasts ⟨5, 0⟩ "m1" "text"⟩

end Cluster

end ControlPlane
