import ControlPlane.Proofs.Http.ItemPlans
import ControlPlane.Proofs.Http.ReadAnswers
import ControlPlane.Proofs.Http.RequestRuns
import ControlPlane.Proofs.Registry.StandingLock

/-!
# Texts that are kept by name

A text that was put under a name is told whoever asks for the name, in whichever way the
name is written, until a request about the same row succeeds.  Requests about different
names do not notice each other: they are answered in either order alike, and leave the same
rows behind.
-/

namespace ControlPlane

/-! ## Calls about one item -/

namespace Call

/-- A call that may change one configuration item, and is about it and perhaps one more. -/
structure IsAbout (call : Call) (own guard : String) : Prop where
  part : ∀ {table key}, call.part table key → table = .config ∧ key = own
  footprint : ∀ {table key}, call.footprint table key → table = .config ∧ (key = own ∨ key = guard)

variable {call other : Call}

theorem isAbout_of_item? {key : String} (about : call.item? = some key) (guard : String) :
    call.IsAbout key guard := by
  have only {table : Table} {other : String} (inside : call.footprint table other) :
      table = .config ∧ other = key := by
    rw [footprint_of_item? about] at inside
    exact inside
  constructor
  · intro table other inside
    exact only (footprint_of_part inside)
  · intro table other inside
    exact ⟨(only inside).1, .inl (only inside).2⟩

/-- A call about a plan that changes nothing but the state of the plan. -/
theorem isAbout_of_plan? {plan : String} (about : call.plan? = some plan)
    (part : ∀ {table key}, call.part table key → table = .config ∧ key = Plans.stateKey plan) :
    call.IsAbout (Plans.stateKey plan) (Plans.lockKey plan) where
  part := part
  footprint inside := by
    have rows := footprint_of_plan? about inside
    exact ⟨rows.1, rows.2.symm⟩

theorem IsAbout.apart {own own' guard guard' : String} (about : call.IsAbout own guard)
    (about' : other.IsAbout own' guard') (different : own ≠ own' ∧ guard ≠ own')
    (different' : own ≠ guard' ∧ guard ≠ guard') : call.Apart other := by
  intro table key inside inside'
  rcases (about.footprint inside).2 with rfl | rfl <;>
    rcases (about'.footprint inside').2 with same | same
  · exact different.1 same
  · exact different'.1 same
  · exact different.2 same
  · exact different'.2 same

end Call

namespace Http

open Plan

/-! ## Requests about one item -/

/-- The item that a request about a name is about. -/
def Endpoint.itemKey : Endpoint → String → String
  | .state, name => Plans.stateKey name
  | _, name => name

/-- The item that says whether the name may be written to. -/
def Endpoint.guardKey : Endpoint → String → String
  | .state, name => Plans.lockKey name
  | _, name => name

/-- The endpoints of texts. -/
def Endpoint.OfTexts (endpoint : Endpoint) : Prop := endpoint = .configItem ∨ endpoint = .state

theorem Endpoint.OfTexts.apart {endpoint : Endpoint} (texts : endpoint.OfTexts)
    {name name' : String} (different : name ≠ name') :
    (endpoint.itemKey name ≠ endpoint.itemKey name' ∧
        endpoint.guardKey name ≠ endpoint.itemKey name') ∧
      endpoint.itemKey name ≠ endpoint.guardKey name' ∧
        endpoint.guardKey name ≠ endpoint.guardKey name' := by
  rcases texts with rfl | rfl
  · exact ⟨⟨different, different⟩, different, different⟩
  · exact ⟨⟨fun same => different (Plans.stateKey_injective same), Plans.lockKey_ne_stateKey _ _⟩,
      Plans.stateKey_ne_lockKey _ _, fun same => different (Plans.lockKey_injective same)⟩

/-- Nothing of a target but its query makes a difference beside the name. -/
theorem planItem_of_query {target target' : Target} (query : target.query = target'.query)
    (body : Bytes) (name : String) (endpoint : Endpoint) (method : Method) :
    planItem target body name endpoint method = planItem target' body name endpoint method := by
  have single (parameter : String) : target.single? parameter = target'.single? parameter := by
    rw [Target.single?, Target.single?, Target.parameters, Target.parameters, query]
  cases endpoint <;> cases method <;> try rfl
  case state.put => simp only [planItem, withQuery, single]

/-- What a request about a text does is settled by two items. -/
theorem isAbout_of_planItem {endpoint : Endpoint} (texts : endpoint.OfTexts) {target : Target}
    {body : Bytes} {name : String} {method : Method} {pending : Pending Response}
    (planned : planItem target body name endpoint method = .ask pending) :
    pending.call.IsAbout (endpoint.itemKey name) (endpoint.guardKey name) := by
  have unrejected {plan : Plan} (planned : plan = .ask pending) : ¬plan.IsRejected := by
    rintro ⟨response, known, _⟩
    rw [planned] at known
    cases known
  rcases texts with rfl | rfl
  case inl =>
    cases method with
    | put =>
      rcases withText_cases body _ with rejected | ⟨value, _, read⟩
      · exact absurd rejected (unrejected planned)
      · cases read.symm.trans planned
        exact Call.isAbout_of_item? rfl name
    | delete =>
      cases planned
      exact Call.isAbout_of_item? rfl name
    | get | post =>
      cases planned
      exact Call.isAbout_of_item? rfl name
  case inr =>
    cases method with
    | put =>
      rcases withQuery_cases target "ID" _ with rejected | ⟨lockId, _, single⟩
      · exact absurd rejected (unrejected planned)
      · have planned := single.symm.trans planned
        rcases withText_cases body _ with rejected | ⟨state, _, read⟩
        · exact absurd rejected (unrejected planned)
        · cases read.symm.trans planned
          exact Call.isAbout_of_plan? rfl id
    | delete =>
      cases planned
      exact Call.isAbout_of_plan? rfl id
    | get | post =>
      cases planned
      exact Call.isAbout_of_plan? rfl False.elim

namespace Request

variable {request other : Request} {endpoint : Endpoint} {name name' : String}

theorem isAbout_of_ask (texts : endpoint.OfTexts) (addresses : request.Addresses endpoint name)
    {member : String} {pending : Pending Response}
    (planned : request.plan member = .ask pending) :
    pending.call.IsAbout (endpoint.itemKey name) (endpoint.guardKey name) := by
  rw [plan_of_addresses addresses] at planned
  cases serves : endpoint.method? request.method with
  | none =>
    rw [serves] at planned
    cases planned
  | some method =>
    rw [serves] at planned
    simp only at planned
    split at planned
    · rcases call_of_withoutBody planned with ⟨whole, planned, same⟩
      rw [← same]
      exact isAbout_of_planItem texts planned
    · exact isAbout_of_planItem texts planned

/-- A request about a text concerns no item but its own. -/
theorem not_concerns (texts : endpoint.OfTexts) (addresses : request.Addresses endpoint name)
    {key : String} (different : key ≠ endpoint.itemKey name) (member : String) :
    ¬request.Concerns member .config key := by
  rintro ⟨pending, planned, inside⟩
  exact different ((isAbout_of_ask texts addresses planned).part inside).2

/-- Requests about different names do not notice each other. -/
theorem serve_either_order (texts : endpoint.OfTexts) (addresses : request.Addresses endpoint name)
    (addresses' : other.Addresses endpoint name') (different : name ≠ name') (cluster : Cluster)
    (now now' : Instant) :
    (request.serve (other.serve cluster now).2 now').1 = (request.serve cluster now').1 ∧
      ∀ table key, (request.serve (other.serve cluster now).2 now').2.value? table key =
        (other.serve (request.serve cluster now').2 now).2.value? table key := by
  have plan_after (request other : Request) (now : Instant) :
      request.plan (other.serve cluster now).2.member = request.plan cluster.member :=
    congrArg request.plan (other.member_serve cluster now)
  -- A request whose response is known leaves nothing for the other one to notice.
  cases planned : request.plan cluster.member with
  | reply response =>
    rw [serve_of_reply planned, serve_of_reply ((plan_after _ _ _).trans planned)]
    exact ⟨rfl, fun _ _ => rfl⟩
  | ask pending =>
    cases planned' : other.plan cluster.member with
    | reply response =>
      have still := (plan_after other request now').trans planned'
      rw [serve_of_reply planned', serve_of_reply still]
      exact ⟨rfl, fun _ _ => rfl⟩
    | ask pending' =>
      have about := isAbout_of_ask texts addresses planned
      have about' := isAbout_of_ask texts addresses' planned'
      have apart := texts.apart different
      rw [serve_of_ask ((plan_after request other now).trans planned),
        serve_of_ask ((plan_after other request now').trans planned'), serve_of_ask planned,
        serve_of_ask planned']
      rcases (about.apart about' apart.1 apart.2).commutes cluster now' now with
        ⟨answer, -, same⟩
      refine ⟨congrArg pending.receive answer, fun table key => ?_⟩
      exact congrArg (·.value? table key) same

/-- Two requests that write the name of an item in different ways come to the same. -/
theorem serve_of_same_name (addresses : request.Addresses endpoint name)
    (addresses' : other.Addresses endpoint name) (method : request.method = other.method)
    (query : (Target.ofText request.target).query = (Target.ofText other.target).query)
    (body : request.body = other.body) (cluster : Cluster) (now : Instant) :
    request.serve cluster now = other.serve cluster now := by
  have same : request.plan cluster.member = other.plan cluster.member := by
    rw [plan_of_addresses addresses, plan_of_addresses addresses', method, body]
    simp only [planItem_of_query query]
  unfold serve
  rw [same]

end Request

/-! ## Texts that were put -/

/-- A text is read from a configuration item. -/
def Holds (cluster : Cluster) (key text : String) : Prop :=
  ConfigItems.Reads cluster.store.database .empty key (some text)

/-- A text is held as long as the row has the same value. -/
theorem Holds.congr {cluster cluster' : Cluster} {key text : String}
    (holds : Holds cluster key text)
    (medium : cluster'.store.database.medium = cluster.store.database.medium)
    (same : cluster'.value? .config key = cluster.value? .config key) :
    Holds cluster' key text := by
  rw [Holds, ConfigItems.Reads, Action.get_congr (Cluster.read_of_value? medium same)]
  exact holds

namespace Request

variable {request : Request} {name : String} {cluster : Cluster} {now : Instant}

theorem holds_putItem (addresses : request.Addresses .configItem name)
    (method : request.method = "PUT") (success : (request.serve cluster now).1.status = 200) :
    ∃ text, request.body = Utf8.encode text ∧ Holds (request.serve cluster now).2 name text := by
  rcases plan_putItem cluster.member addresses method with rejected | ⟨text, body, planned⟩
  · exact absurd success (isRejection_of_isRejected rejected now).not_success
  · rcases acts_of_success planned success with ⟨_, writes, acts, applied⟩
    cases acts
    exact ⟨text, body, (ConfigItems.reads_put _ _ _ _).commit applied⟩

theorem holds_putState (addresses : request.Addresses .state name)
    (method : request.method = "PUT") (success : (request.serve cluster now).1.status = 200) :
    ∃ text, request.body = Utf8.encode text ∧
      Holds (request.serve cluster now).2 (Plans.stateKey name) text := by
  rcases plan_putState cluster.member addresses method with
    rejected | ⟨lockId, text, body, planned⟩
  · exact absurd success (isRejection_of_isRejected rejected now).not_success
  · rcases acts_of_success planned success with ⟨_, writes, acts, applied⟩
    cases Plans.writes_of_putState acts
    exact ⟨text, body, (ConfigItems.reads_put _ _ _ _).commit applied⟩

theorem serve_getItem (addresses : request.Addresses .configItem name)
    (method : request.method = "GET") {text : String} (holds : Holds cluster name text) :
    (request.serve cluster now).1 = .sync (.text text) := by
  have acts := ConfigItems.get_apply holds
  have answered : (cluster.serve now (.getConfig name)).1 = .ok text :=
    Cluster.serve_of_unstaged rfl acts
  rw [serve_of_ask (plan_getItem cluster.member addresses method), answered]

theorem serve_getState (addresses : request.Addresses .state name)
    (method : request.method = "GET") {text : String}
    (holds : Holds cluster (Plans.stateKey name) text) :
    (request.serve cluster now).1 = .json 200 text := by
  have acts := Plans.getState_apply holds
  have answered : (cluster.serve now (.getState name)).1 = .ok text :=
    Cluster.serve_of_unstaged rfl acts
  rw [serve_of_ask (plan_getState cluster.member addresses method), answered]

end Request

/-- A text that was put under a name is told, until a request about its row succeeds. -/
def KeepsTexts (endpoint : Endpoint) (tells : String → Response → Prop) : Prop :=
  ∀ (name : String) (put get : Request) (cluster : Cluster) (now now' : Instant)
    (between : List Turn),
    put.Addresses endpoint name → put.method = "PUT" → (put.serve cluster now).1.status = 200 →
    get.Addresses endpoint name → get.method = "GET" →
    let run := serveEach (put.serve cluster now).2 between
    (∀ turn response, (turn, response) ∈ run.1 → response.status = 200 →
      ¬turn.request.Concerns cluster.member .config (endpoint.itemKey name)) →
    ∃ text, put.body = Utf8.encode text ∧ (get.serve run.2 now').1.status = 200 ∧
      tells text (get.serve run.2 now').1

/-- An endpoint keeps texts if what is put is held, and what is held is told. -/
theorem keepsTexts_of_holds {endpoint : Endpoint} {tells : String → Response → Prop}
    (answer : String → Response)
    (holds : ∀ {name put cluster now}, Request.Addresses put endpoint name → put.method = "PUT" →
      (put.serve cluster now).1.status = 200 →
      ∃ text, put.body = Utf8.encode text ∧
        Holds (put.serve cluster now).2 (endpoint.itemKey name) text)
    (answers : ∀ {name get cluster now}, Request.Addresses get endpoint name →
      get.method = "GET" → ∀ {text}, Holds cluster (endpoint.itemKey name) text →
      (get.serve cluster now).1 = answer text)
    (told : ∀ text, (answer text).status = 200 ∧ tells text (answer text)) :
    KeepsTexts endpoint tells := by
  intro name put get cluster now now' between addresses putting success addresses' getting run
    spares
  rcases holds addresses putting success with ⟨text, body, held⟩
  have kept : Holds run.2 (endpoint.itemKey name) text := by
    apply held.congr (medium_serveEach _ _)
    apply value?_serveEach
    rw [Request.member_serve]
    exact spares
  rw [answers addresses' getting kept]
  exact ⟨text, body, told text⟩

/-- Texts are kept by name, whatever the names and the texts are.

* Every name but the empty one has a segment, and whatever its segment is, a request finds
  the item of the name by it.
* A request has its turn when it comes in if the slot is free, and otherwise in order when
  it becomes free.
* Until a request about its row succeeds, the text that was put under a name is told: in an
  envelope from which it is read as it was sent, or, for a state, as the whole body.
* Requests about different names are answered as if the other one were not there, and leave
  the same rows in either order.
* Requests that write one name in different ways come to the same. -/
theorem texts_kept_by_name :
    (∀ name ≠ "", IsSegment (percentEncode (Utf8.encode name)) name) ∧
    (∀ segment name query, IsSegment segment name → '#' ∉ queryTail query → ∀ method body,
      Request.Addresses ⟨method, itemTarget "config" segment query, body⟩ .configItem name ∧
        Request.Addresses ⟨method, itemTarget "terraformstate" segment query, body⟩ .state name) ∧
    (∀ (request : Request) (schedule : Schedule Response) (clock : Nat → Instant),
      schedule.isFree = true → request.submit schedule clock =
        let (response, cluster) := request.serve schedule.cluster (schedule.nextReading clock)
        (some response, { schedule with cluster })) ∧
    (∀ (schedule : Schedule Response) (clock : Nat → Instant)
      (asked : List (Request × Pending Response)), schedule.cluster.store.current = none →
      schedule.waiting = asked.map Prod.snd →
      (∀ pair ∈ asked, pair.1.plan schedule.cluster.member = .ask pair.2) →
      ∃ turns : List Turn, turns.map Turn.request = asked.map Prod.fst ∧
        schedule.drain clock =
          let (history, cluster) := serveEach schedule.cluster turns
          (history.map Prod.snd, ⟨cluster, []⟩)) ∧
    KeepsTexts .configItem (fun text response =>
      TextEnvelope.decode (Utf8.encode response.body) = .ok (.success text)) ∧
    KeepsTexts .state (fun text response => response.body = text) ∧
    ∀ (endpoint : Endpoint) (one other : Request) (name name' : String), endpoint.OfTexts →
      one.Addresses endpoint name → other.Addresses endpoint name' →
      ∀ (cluster : Cluster) (now now' : Instant),
        (name ≠ name' →
          (one.serve (other.serve cluster now).2 now').1 = (one.serve cluster now').1 ∧
          ∀ table key, (one.serve (other.serve cluster now).2 now').2.value? table key =
            (other.serve (one.serve cluster now').2 now).2.value? table key) ∧
        (name = name' → one.method = other.method → one.body = other.body →
          (Target.ofText one.target).query = (Target.ofText other.target).query →
          one.serve cluster now = other.serve cluster now) := by
  refine ⟨fun _ => isSegment_percentEncode, ?targets, ?submit, ?drain, ?items, ?states, ?names⟩
  case targets =>
    intro segment name query stands uncut method body
    constructor
    · exact Request.addresses_of_segment rfl (by decide) stands uncut method body
    · exact Request.addresses_of_segment rfl (by decide) stands uncut method body
  case submit =>
    intro request schedule clock free
    exact request.submit_eq_serve free clock
  case drain =>
    intro schedule clock asked free waits planned
    exact drain_eq_serveEach clock free waits planned
  case items =>
    exact keepsTexts_of_holds (fun text => .sync (.text text)) Request.holds_putItem
      Request.serve_getItem fun text => ⟨rfl, TextEnvelope.decode_sync text⟩
  case states =>
    exact keepsTexts_of_holds (fun text => .json 200 text) Request.holds_putState
      Request.serve_getState fun _ => ⟨rfl, rfl⟩
  case names =>
    intro endpoint one other name name' texts addresses addresses' cluster now now'
    constructor
    · intro different
      exact Request.serve_either_order texts addresses addresses' different cluster now now'
    · rintro rfl method body query
      exact Request.serve_of_same_name addresses addresses' method query body cluster now

/-- An item and a state of the name `a/b`, each put while the other one is kept. -/
theorem texts_kept_by_name_of_slash :
    let lock : Lock := { id := "7" }
    let rows := (Tables.const KeyMap.empty).set .config
      (KeyMap.empty.insert (Plans.lockKey "a/b") (Utf8.encode lock.text))
    let cluster : Cluster := ⟨"node-1", ⟨⟨.persistent, rows, .const []⟩, 0, none⟩⟩
    let now : Instant := ⟨0, 0⟩
    let putItem : Request :=
      ⟨"PUT", itemTarget "config" "a%2Fb".toList none, Utf8.encode "\"é\"\n"⟩
    let getItem : Request := ⟨"GET", itemTarget "config" "%61%2fb".toList none, []⟩
    let putState : Request :=
      ⟨"PUT", itemTarget "terraformstate" "a%2Fb".toList (some "ID=7".toList), Utf8.encode "[]"⟩
    let getState : Request := ⟨"GET", itemTarget "terraformstate" "a%2fb".toList none, []⟩
    let afterItem := (putItem.serve cluster now).2
    let afterState := (putState.serve cluster now).2
    (putItem.serve cluster now).1.status = 200 ∧ (putState.serve cluster now).1.status = 200 ∧
      TextEnvelope.decode (Utf8.encode
        (getItem.serve (serveEach afterItem [⟨now, putState⟩]).2 now).1.body) =
          .ok (.success "\"é\"\n") ∧
      (getState.serve (serveEach afterState [⟨now, putItem⟩]).2 now).1.body = "[]" := by
  intro lock rows cluster now putItem getItem putState getState afterItem afterState
  have itemDone : (putItem.serve cluster now).1.status = 200 := by decide +kernel
  have stateDone : (putState.serve cluster now).1.status = 200 := by decide +kernel
  have capital : IsSegment "a%2Fb".toList "a/b" := ⟨by decide, by decide, by decide +kernel⟩
  have small : IsSegment "%61%2fb".toList "a/b" := ⟨by decide, by decide, by decide +kernel⟩
  have lower : IsSegment "a%2fb".toList "a/b" := ⟨by decide, by decide, by decide +kernel⟩
  rcases texts_kept_by_name with ⟨_, targets, _, _, items, states, _⟩
  have putItems := (targets _ "a/b" none capital (by decide) "PUT" putItem.body).1
  have getItems := (targets _ "a/b" none small (by decide) "GET" []).1
  have putStates :=
    (targets _ "a/b" (some "ID=7".toList) capital (by decide) "PUT" putState.body).2
  have getStates := (targets _ "a/b" none lower (by decide) "GET" []).2
  have itemSpared : ¬putState.Concerns "node-1" .config "a/b" :=
    Request.not_concerns (.inr rfl) putStates (by decide) "node-1"
  have stateSpared : ¬putItem.Concerns "node-1" .config (Plans.stateKey "a/b") :=
    Request.not_concerns (.inl rfl) putItems (by decide) "node-1"
  have told := items "a/b" putItem getItem cluster now now [⟨now, putState⟩] putItems rfl itemDone
    getItems rfl fun turn response listed _ => by
      rw [List.mem_singleton.1 (mem_of_mem_serveEach listed)]
      exact itemSpared
  have told' := states "a/b" putState getState cluster now now [⟨now, putItem⟩] putStates rfl
    stateDone getStates rfl fun turn response listed _ => by
      rw [List.mem_singleton.1 (mem_of_mem_serveEach listed)]
      exact stateSpared
  rcases told with ⟨text, body, _, decoded⟩
  rcases told' with ⟨text', body', _, whole⟩
  rw [← Utf8.encode_injective body] at decoded
  rw [← Utf8.encode_injective body'] at whole
  exact ⟨itemDone, stateDone, decoded, whole⟩

end Http

end ControlPlane
