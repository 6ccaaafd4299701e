import ControlPlane.Proofs.Cluster.DisjointCalls
import ControlPlane.Proofs.Http.RequestOutcomes

/-!
# Requests one after the other

Every request has its turn: at once if the writer slot is free when it comes in, and behind
those that came before it otherwise.  When it has, it comes to a response, and the cluster
serves its call if it has one.  A row stays as long as no request with status 200 was about
it, on either medium and whatever the clock shows.
-/

namespace ControlPlane

namespace Http

open Plan

/-! ## Requests that have their turn -/

namespace Request

/-- The response to a request when it has its turn, and the cluster after it. -/
def serve (request : Request) (cluster : Cluster) (now : Instant) : Response × Cluster :=
  match request.plan cluster.member with
  | .reply response => (response, cluster)
  | .ask pending =>
    let served := cluster.serve now pending.call
    (pending.receive served.1, served.2)

variable {request : Request} {cluster : Cluster} {now : Instant}

theorem serve_of_reply {response : Response}
    (planned : request.plan cluster.member = .reply response) :
    request.serve cluster now = (response, cluster) := by
  unfold serve
  rw [planned]

theorem serve_of_ask {pending : Pending Response}
    (planned : request.plan cluster.member = .ask pending) :
    request.serve cluster now = (pending.receive (cluster.serve now pending.call).1,
      (cluster.serve now pending.call).2) := by
  unfold serve
  rw [planned]

@[simp]
theorem member_serve (request : Request) (cluster : Cluster) (now : Instant) :
    (request.serve cluster now).2.member = cluster.member := by
  cases planned : request.plan cluster.member with
  | reply response => rw [serve_of_reply planned]
  | ask pending => rw [serve_of_ask planned, Cluster.member_serve]

@[simp]
theorem medium_serve (request : Request) (cluster : Cluster) (now : Instant) :
    (request.serve cluster now).2.store.database.medium = cluster.store.database.medium := by
  cases planned : request.plan cluster.member with
  | reply response => rw [serve_of_reply planned]
  | ask pending => rw [serve_of_ask planned, Cluster.medium_serve]

/-- Only a request with status 200 that does not look something up can change a row. -/
theorem database_serve
    (spares : (request.serve cluster now).1.status ≠ 200 ∨ request.LooksUp) :
    (request.serve cluster now).2.store.database = cluster.store.database := by
  cases planned : request.plan cluster.member with
  | reply response => rw [serve_of_reply planned]
  | ask pending =>
    rw [serve_of_ask planned] at spares ⊢
    exact database_of_ask planned now spares

/-- Status 200 is sent for a call whose writes are committed. -/
theorem acts_of_success {pending : Pending Response}
    (planned : request.plan cluster.member = .ask pending)
    (success : (request.serve cluster now).1.status = 200) :
    ∃ answer writes, pending.call.action cluster.member now cluster.store.database .empty =
        (.ok answer, writes) ∧
      cluster.store.database.apply writes = .ok (request.serve cluster now).2.store.database := by
  rw [serve_of_ask planned] at success ⊢
  rcases ((request.sound_plan _).reports pending planned _).1 success with ⟨answer, answered⟩
  rcases Cluster.acts_of_serve answered with ⟨writes, acts, applied⟩
  exact ⟨answer, writes, acts, applied⟩

/-- A request that comes in while the slot is free has its turn at once. -/
theorem submit_eq_serve {schedule : Schedule Response} (free : schedule.isFree = true)
    (request : Request) (clock : Nat → Instant) :
    request.submit schedule clock =
      let served := request.serve schedule.cluster (schedule.nextReading clock)
      (some served.1, { schedule with cluster := served.2 }) := by
  rw [submit]
  cases planned : request.plan schedule.cluster.member with
  | reply response => rw [serve_of_reply planned]
  | ask pending =>
    rw [serve_of_ask planned]
    exact Schedule.submit_of_isFree free pending

/-- A request comes to a call that may change a row. -/
def Concerns (request : Request) (member : String) (table : Table) (key : String) : Prop :=
  ∃ pending, request.plan member = .ask pending ∧ pending.call.part table key

/-- A row stays through a request that does not report success, or does not concern it. -/
theorem value?_serve {table : Table} {key : String}
    (spares : (request.serve cluster now).1.status = 200 →
      ¬request.Concerns cluster.member table key) :
    (request.serve cluster now).2.value? table key = cluster.value? table key := by
  cases planned : request.plan cluster.member with
  | reply response => rw [serve_of_reply planned]
  | ask pending =>
    rw [serve_of_ask planned] at spares ⊢
    apply Cluster.value?_serve
    cases outcome : (cluster.serve now pending.call).1 with
    | error failure => exact .inr ⟨failure, rfl⟩
    | ok answer =>
      rw [outcome] at spares
      have success : (pending.receive (.ok answer)).status = 200 :=
        ((request.sound_plan _).reports pending planned _).2 ⟨answer, rfl⟩
      exact .inl fun inside => spares success ⟨pending, planned, inside⟩

end Request

/-! ## Runs of requests -/

/-- A request and what the clock shows when it has its turn. -/
structure Turn where
  now : Instant
  request : Request
  deriving DecidableEq

/-- The responses to requests that have their turns one after the other, and the cluster
after them. -/
def serveEach (cluster : Cluster) : List Turn → List (Turn × Response) × Cluster
  | [] => ([], cluster)
  | turn :: later =>
    let served := turn.request.serve cluster turn.now
    let run := serveEach served.2 later
    ((turn, served.1) :: run.1, run.2)

variable {cluster : Cluster} {turns : List Turn}

/-- The requests have their turns in order. -/
theorem map_fst_serveEach (cluster : Cluster) (turns : List Turn) :
    (serveEach cluster turns).1.map Prod.fst = turns := by
  induction turns generalizing cluster with
  | nil => rfl
  | cons turn later ih => exact congrArg (turn :: ·) (ih _)

theorem mem_of_mem_serveEach {turn : Turn} {response : Response}
    (listed : (turn, response) ∈ (serveEach cluster turns).1) : turn ∈ turns := by
  have known := List.mem_map_of_mem (f := Prod.fst) listed
  rw [map_fst_serveEach] at known
  exact known

theorem serveAll_eq_serveEach (clock : Nat → Instant) (acc : List Response)
    {asked : List (Request × Pending Response)}
    (planned : ∀ pair ∈ asked, pair.1.plan cluster.member = .ask pair.2) :
    ∃ turns : List Turn, turns.map Turn.request = asked.map Prod.fst ∧
      Schedule.serveAll clock acc ⟨cluster, []⟩ (asked.map Prod.snd) =
        (acc.reverse ++ (serveEach cluster turns).1.map Prod.snd,
          ⟨(serveEach cluster turns).2, []⟩) := by
  induction asked generalizing cluster acc with
  | nil =>
    refine ⟨[], rfl, ?_⟩
    rw [List.map_nil, Schedule.serveAll, serveEach, List.map_nil, List.append_nil]
  | cons pair asked ih =>
    let now := Schedule.nextReading (ω := Response) ⟨cluster, []⟩ clock
    have served : pair.1.serve cluster now = (pair.2.receive (cluster.serve now pair.2.call).1,
        (cluster.serve now pair.2.call).2) :=
      Request.serve_of_ask (planned pair List.mem_cons_self)
    have plannedNext : ∀ other ∈ asked,
        other.1.plan (pair.1.serve cluster now).2.member = .ask other.2 := by
      intro other listed
      rw [Request.member_serve]
      exact planned other (List.mem_cons_of_mem _ listed)
    rcases ih ((pair.1.serve cluster now).1 :: acc) plannedNext with ⟨turns, requests, rest⟩
    have first : Schedule.serveAll clock acc ⟨cluster, []⟩ ((pair :: asked).map Prod.snd) =
        Schedule.serveAll clock ((pair.1.serve cluster now).1 :: acc)
          ⟨(pair.1.serve cluster now).2, []⟩ (asked.map Prod.snd) := by
      rw [served]
      rfl
    rw [List.reverse_cons, List.append_assoc] at rest
    exact ⟨⟨now, pair.1⟩ :: turns, congrArg (pair.1 :: ·) requests, first.trans rest⟩

/-- Requests that wait for the slot have their turns in order as soon as it is free. -/
theorem drain_eq_serveEach {schedule : Schedule Response} (clock : Nat → Instant)
    (free : schedule.cluster.store.current = none) {asked : List (Request × Pending Response)}
    (waits : schedule.waiting = asked.map Prod.snd)
    (planned : ∀ pair ∈ asked, pair.1.plan schedule.cluster.member = .ask pair.2) :
    ∃ turns : List Turn, turns.map Turn.request = asked.map Prod.fst ∧
      schedule.drain clock = ((serveEach schedule.cluster turns).1.map Prod.snd,
        ⟨(serveEach schedule.cluster turns).2, []⟩) := by
  rcases serveAll_eq_serveEach clock [] planned with ⟨turns, requests, served⟩
  refine ⟨turns, requests, ?_⟩
  rw [Schedule.drain, free, waits]
  exact served

theorem medium_serveEach (cluster : Cluster) (turns : List Turn) :
    (serveEach cluster turns).2.store.database.medium = cluster.store.database.medium := by
  induction turns generalizing cluster with
  | nil => rfl
  | cons turn later ih => exact (ih _).trans (turn.request.medium_serve _ _)

/-- A row stays through requests of which none reports success and concerns it. -/
theorem value?_serveEach {table : Table} {key : String}
    (spares : ∀ turn response, (turn, response) ∈ (serveEach cluster turns).1 →
      response.status = 200 → ¬turn.request.Concerns cluster.member table key) :
    (serveEach cluster turns).2.value? table key = cluster.value? table key := by
  induction turns generalizing cluster with
  | nil => rfl
  | cons turn later ih =>
    have first : (turn.request.serve cluster turn.now).2.value? table key =
        cluster.value? table key :=
      Request.value?_serve (spares turn _ List.mem_cons_self)
    have rest : (serveEach (turn.request.serve cluster turn.now).2 later).2.value? table key =
        (turn.request.serve cluster turn.now).2.value? table key := by
      apply ih
      intro other response listed success
      rw [Request.member_serve]
      exact spares other response (List.mem_cons_of_mem _ listed) success
    exact rest.trans first

end Http

end ControlPlane
