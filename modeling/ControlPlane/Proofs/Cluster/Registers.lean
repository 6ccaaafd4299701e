import Mathlib.Data.List.Sort
import Mathlib.Logic.Function.Basic
import ControlPlane.Proofs.Cluster.TimedRuns
import ControlPlane.Proofs.Registry.PlanMachine
import ControlPlane.Proofs.Text.Utf8Bytes

/-!
# Registers

A register has a record or none under each name, and no bytes.  Four of them, for the
configuration items, the nodes, the manifests and the Juju users, answer every call that
names what it asks for: a call looks at one register and changes no other.

The rule says what the four answer.  It leaves no choice, except that it knows nothing of
the manifest that was applied last, which no call can name by its identifier.
-/

namespace ControlPlane

/-! ## One register -/

/-- A record or none under each name. -/
abbrev Register (ρ : Type) := String → Option ρ

namespace Register

variable {ρ : Type}

/-- Looks up a record that has to be there. -/
def find (register : Register ρ) (missing : Failure) (name : String) : Except Failure ρ :=
  match register name with
  | some record => .ok record
  | none => .error missing

/-- Puts a record under a name that has to be free. -/
def add (register : Register ρ) (taken : Failure) (name : String) (record : ρ) :
    Except Failure Unit × Register ρ :=
  match register name with
  | some _ => (.error taken, register)
  | none => (.ok (), Function.update register name (some record))

/-- Takes away a record that has to be there. -/
def remove (register : Register ρ) (missing : Failure) (name : String) :
    Except Failure Unit × Register ρ :=
  match register name with
  | some _ => (.ok (), Function.update register name none)
  | none => (.error missing, register)

/-- The records that are wanted are listed with their names, each of them once, in
ascending order of the bytes of the names. -/
structure Lists (register : Register ρ) (wanted : String → ρ → Prop)
    (listed : List (String × ρ)) : Prop where
  ascending : listed.Pairwise fun a b => Utf8.encode a.1 < Utf8.encode b.1
  mem_iff : ∀ name record,
    (name, record) ∈ listed ↔ register name = some record ∧ wanted name record

/-- No two lists fit the same register. -/
theorem Lists.unique {register : Register ρ} {wanted : String → ρ → Prop}
    {listed listed' : List (String × ρ)} (lists : register.Lists wanted listed)
    (lists' : register.Lists wanted listed') : listed = listed' := by
  have sorted := lists.ascending.imp fun less => Utf8.encode_lt_iff.1 less
  have sorted' := lists'.ascending.imp fun less => Utf8.encode_lt_iff.1 less
  apply KeyMap.eq_of_lookup_eq sorted sorted'
  intro name
  apply Option.ext
  intro record
  have same := (lists.mem_iff name record).trans (lists'.mem_iff name record).symm
  constructor
  · intro found
    exact KeyMap.lookup_of_mem sorted' (same.1 (KeyMap.mem_of_lookup found))
  · intro found
    exact KeyMap.lookup_of_mem sorted (same.2 (KeyMap.mem_of_lookup found))

end Register

/-! ## The four registers -/

/-- What is on record. -/
structure Registers where
  items : Register String
  nodes : Register Node
  manifests : Register Manifest
  users : Register JujuUser

namespace Registers

/-- Nothing is on record. -/
def blank : Registers :=
  ⟨fun _ => none, fun _ => none, fun _ => none, fun _ => none⟩

/-- Every record is kept under its own name. -/
structure Named (registers : Registers) : Prop where
  nodes : ∀ {name node}, registers.nodes name = some node → node.name = name
  manifests : ∀ {id manifest}, registers.manifests id = some manifest → manifest.id = id
  users : ∀ {username user}, registers.users username = some user → user.username = username

/-- Some roles are kept: each of them once, in ascending order. -/
structure KeptRoles (roles kept : List String) : Prop where
  ascending : kept.Pairwise (· < ·)
  mem_iff : ∀ role, role ∈ kept ↔ role ∈ roles

/-- A node matches a role if the written list of its roles contains it. -/
def matchesRoles (wanted : List String) (node : Node) : Bool :=
  wanted.all (Nodes.containsText (Json.Document.texts node.roles).write)

/-- A node after an update: machine number -1 and an empty system name keep what is on
record, and the owner changes. -/
def updatedNode (node : Node) (member : String) (kept : List String) (machineId : Int64)
    (systemId : String) : Node :=
  { node with
    member
    roles := kept
    machineId := if machineId = Node.unsetMachineId then node.machineId else machineId
    systemId := if systemId = "" then node.systemId else systemId }

/-- What stands in the row of a plan's lock. -/
def lockRow (registers : Registers) (plan : String) : Plans.LockRow :=
  .ofText? (registers.items (Plans.lockKey plan))

/-- How the registers answer. -/
def Answers (member : String) : Rule Registers TimedCall.Answer
  -- Configuration items
  | before, ⟨_, .getConfig key⟩, outcome, after =>
    outcome = before.items.find ConfigItems.notFound key ∧ after = before
  | before, ⟨_, .listConfigKeys start⟩, outcome, after =>
    (∃ listed, outcome = .ok (listed.map (·.1)) ∧
      before.items.Lists (fun key _ => start.toList <+: key.toList) listed) ∧ after = before
  | before, ⟨_, .putConfig key value⟩, outcome, after =>
    ∃ items, (outcome, items) =
        (if key = "" then (.error (.invalidArgument .emptyConfigKey), before.items)
        else (.ok (), Function.update before.items key (some value))) ∧
      after = { before with items }
  | before, ⟨_, .deleteConfig key⟩, outcome, after =>
    ∃ items, (outcome, items) = before.items.remove ConfigItems.notFound key ∧
      after = { before with items }
  -- Nodes
  | before, ⟨_, .listNodes wanted⟩, outcome, after =>
    (∃ listed, outcome = .ok (listed.map (·.2)) ∧
      before.nodes.Lists (fun _ node => matchesRoles wanted node = true) listed) ∧ after = before
  | before, ⟨_, .getNode name⟩, outcome, after =>
    outcome = before.nodes.find Nodes.notFound name ∧ after = before
  | before, ⟨_, .addNode name roles machineId systemId⟩, outcome, after =>
    ∃ nodes kept, KeptRoles roles kept ∧ (outcome, nodes) =
        (if name = "" then (.error (.invalidArgument .emptyNodeName), before.nodes)
        else before.nodes.add (.alreadyExists "node") name
          ⟨name, kept, machineId, systemId, member⟩) ∧
      after = { before with nodes }
  | before, ⟨_, .updateNode name roles machineId systemId⟩, outcome, after =>
    match before.nodes name with
    | none => outcome = .error Nodes.notFound ∧ after = before
    | some node =>
      ∃ kept, KeptRoles (if roles = [] then node.roles else roles) kept ∧ outcome = .ok () ∧
        after = { before with
          nodes := Function.update before.nodes name
            (some (updatedNode node member kept machineId systemId)) }
  | before, ⟨_, .deleteNode name⟩, outcome, after =>
    ∃ nodes, (outcome, nodes) = before.nodes.remove Nodes.notFound name ∧
      after = { before with nodes }
  -- Manifests
  | before, ⟨_, .listManifests⟩, outcome, after =>
    (∃ listed, outcome = .ok (listed.map (·.2)) ∧
      before.manifests.Lists (fun _ _ => True) listed) ∧ after = before
  | before, ⟨_, .getManifest id⟩, outcome, after =>
    outcome = before.manifests.find Manifests.notFound id ∧ after = before
  | before, ⟨now, .addManifest id data⟩, outcome, after =>
    ∃ manifests, (outcome, manifests) =
        (if id = "" then (.error (.invalidArgument .emptyManifestId), before.manifests)
        else if id = Manifest.latestId then
          (.error (.invalidArgument .reservedManifestId), before.manifests)
        else if (before.manifests id).isNone ∧
            ¬(Int64.minValue.toInt ≤ now.toNanos ∧ now.toNanos ≤ Int64.maxValue.toInt) then
          (.error (.invalidArgument (.appliedOutOfRange now)), before.manifests)
        else before.manifests.add (.alreadyExists "manifest") id
          ⟨id, .ofNanos now.toNanos, data⟩) ∧
      after = { before with manifests }
  | before, ⟨_, .deleteManifest id⟩, outcome, after =>
    ∃ manifests, (outcome, manifests) = before.manifests.remove Manifests.notFound id ∧
      after = { before with manifests }
  -- Juju users
  | before, ⟨_, .listJujuUsers⟩, outcome, after =>
    (∃ listed, outcome = .ok (listed.map (·.2)) ∧
      before.users.Lists (fun _ _ => True) listed) ∧ after = before
  | before, ⟨_, .getJujuUser username⟩, outcome, after =>
    outcome = before.users.find JujuUsers.notFound username ∧ after = before
  | before, ⟨_, .addJujuUser username token⟩, outcome, after =>
    ∃ users, (outcome, users) =
        (if username = "" then (.error (.invalidArgument .emptyUsername), before.users)
        else before.users.add (.alreadyExists "jujuuser") username ⟨username, token⟩) ∧
      after = { before with users }
  | before, ⟨_, .deleteJujuUser username⟩, outcome, after =>
    ∃ users, (outcome, users) = before.users.remove JujuUsers.notFound username ∧
      after = { before with users }
  -- Deployment plans, whose rows are configuration items
  | before, ⟨_, .listStates⟩, outcome, after =>
    (∃ plans, outcome = .ok plans ∧
      Plans.Lists (fun plan => before.items (Plans.stateKey plan) ≠ none) plans) ∧ after = before
  | before, ⟨_, .getState plan⟩, outcome, after =>
    outcome = before.items.find ConfigItems.notFound (Plans.stateKey plan) ∧ after = before
  | before, ⟨_, .putState plan lockId state⟩, outcome, after =>
    ∃ items, (outcome, items) =
        (match before.lockRow plan with
        | .absent => (.error (.lockConflict .blank), before.items)
        | .held held =>
          if held.id = lockId then
            (.ok (), Function.update before.items (Plans.stateKey plan) (some state))
          else (.error (.lockConflict held), before.items)
        | .corrupt problem => (.error (.internal (.lock plan problem)), before.items)) ∧
      after = { before with items }
  | before, ⟨_, .deleteState plan⟩, outcome, after =>
    ∃ items, (outcome, items) =
        before.items.remove ConfigItems.notFound (Plans.stateKey plan) ∧
      after = { before with items }
  | before, ⟨_, .listLocks⟩, outcome, after =>
    (∃ plans, outcome = .ok plans ∧
      Plans.Lists (fun plan => before.items (Plans.lockKey plan) ≠ none) plans) ∧ after = before
  | before, ⟨_, .getLock plan⟩, outcome, after =>
    outcome =
        (match before.lockRow plan with
        | .absent => .error ConfigItems.notFound
        | .held held => .ok held
        | .corrupt problem => .error (.internal (.lock plan problem))) ∧
      after = before
  | before, ⟨_, .lockPlan plan requested⟩, outcome, after =>
    ∃ items, (outcome, items) =
        (match before.lockRow plan with
        | .absent =>
          (.ok (), Function.update before.items (Plans.lockKey plan) (some requested.text))
        | .held held => (.error (Plans.refusal held requested), before.items)
        | .corrupt problem => (.error (.internal (.lock plan problem)), before.items)) ∧
      after = { before with items }
  | before, ⟨_, .unlockPlan plan requested⟩, outcome, after =>
    ∃ items, (outcome, items) =
        (match before.lockRow plan with
        | .absent => (.ok (), before.items)
        | .held held =>
          if held.sameHolder requested then
            (.ok (), Function.update before.items (Plans.lockKey plan) none)
          else (.error (.lockConflict held), before.items)
        | .corrupt problem => (.error (.internal (.lock plan problem)), before.items)) ∧
      after = { before with items }

/-! ## The rule leaves no choice -/

/-- The roles that are kept are settled. -/
theorem KeptRoles.unique {roles kept kept' : List String} (keeps : KeptRoles roles kept)
    (keeps' : KeptRoles roles kept') : kept = kept' := by
  apply keeps.ascending.eq_of_mem_iff keeps'.ascending
  intro role
  exact (keeps.mem_iff role).trans (keeps'.mem_iff role).symm

theorem answers_settled (member : String) : Rule.Settled (Answers member) := by
  rintro before ⟨now, call⟩ outcome after outcome' after' kept kept'
  cases call with
  | listConfigKeys | listNodes | listManifests | listJujuUsers =>
    rcases kept with ⟨⟨listed, rfl, lists⟩, rfl⟩
    rcases kept' with ⟨⟨listed', rfl, lists'⟩, rfl⟩
    rw [lists.unique lists']
    exact ⟨rfl, rfl⟩
  | listStates | listLocks =>
    rcases kept with ⟨⟨plans, rfl, lists⟩, rfl⟩
    rcases kept' with ⟨⟨plans', rfl, lists'⟩, rfl⟩
    rw [lists.unique lists']
    exact ⟨rfl, rfl⟩
  | addNode name roles machineId systemId =>
    rcases kept with ⟨nodes, roles₁, keeps, same, rfl⟩
    rcases kept' with ⟨nodes', roles₂, keeps', same', rfl⟩
    rw [← keeps.unique keeps', ← same] at same'
    cases same'
    exact ⟨rfl, rfl⟩
  | updateNode name roles machineId systemId =>
    simp only [Answers] at kept kept'
    cases present : before.nodes name with
    | none =>
      rw [present] at kept kept'
      exact ⟨kept.1.trans kept'.1.symm, kept.2.trans kept'.2.symm⟩
    | some node =>
      rw [present] at kept kept'
      rcases kept with ⟨roles₁, keeps, rfl, rfl⟩
      rcases kept' with ⟨roles₂, keeps', rfl, rfl⟩
      rw [keeps.unique keeps']
      exact ⟨rfl, rfl⟩
  | putConfig | deleteConfig | deleteNode | addManifest | deleteManifest | addJujuUser
  | deleteJujuUser | putState | deleteState | lockPlan | unlockPlan =>
    rcases kept with ⟨register, same, rfl⟩
    rcases kept' with ⟨register', same', rfl⟩
    rw [← same] at same'
    cases same'
    exact ⟨rfl, rfl⟩
  | getConfig | getNode | getManifest | getJujuUser | getState | getLock =>
    exact ⟨kept.1.trans kept'.1.symm, kept.2.trans kept'.2.symm⟩

end Registers

end ControlPlane
