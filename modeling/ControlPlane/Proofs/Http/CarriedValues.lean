import ControlPlane.Http.Api

/-!
# What requests carry

A body or a query is read as what the endpoint takes, or the request is rejected without a
look at the rows.  Nothing else can become of it, which is all that most statements about
plans need.
-/

namespace ControlPlane.Http

open Plan

/-! ## Rejections -/

/-- A response to a request that cannot be read as what the endpoint takes. -/
def Response.IsRejection (response : Response) : Prop :=
  response.status ∈ [400, 404, 405, 413]

theorem Response.IsRejection.not_success {response : Response} (rejection : response.IsRejection) :
    response.status ≠ 200 := by
  intro success
  rw [IsRejection, success] at rejection
  exact absurd rejection (by decide)

instance (response : Response) : Decidable response.IsRejection :=
  inferInstanceAs (Decidable (response.status ∈ _))

namespace Plan

/-- The request is rejected without a look at the rows. -/
def IsRejected (plan : Plan) : Prop :=
  ∃ response, plan = .reply response ∧ response.IsRejection

theorem isRejected_reply {response : Response} (rejection : response.IsRejection) :
    (reply response).IsRejected :=
  ⟨response, rfl, rejection⟩

/-- What holds of all responses, and of all ways to go on, holds of a plan that reads what
the request carries. -/
theorem of_cases {α : Type} {Holds : Plan → Prop} {plan : Plan} {Read : α → Prop} {next : α → Plan}
    (reads : plan.IsRejected ∨ ∃ value, Read value ∧ plan = next value)
    (replies : ∀ response, Holds (.reply response))
    (goesOn : ∀ value, Read value → Holds (next value)) : Holds plan := by
  rcases reads with ⟨response, planned, -⟩ | ⟨value, read, planned⟩
  · rw [planned]
    exact replies response
  · rw [planned]
    exact goesOn value read

/-- A plan without a body is for the same call. -/
theorem call_of_withoutBody {plan : Plan} {pending : Pending Response}
    (planned : plan.withoutBody = .ask pending) :
    ∃ whole, plan = .ask whole ∧ whole.call = pending.call := by
  cases plan with
  | reply response => cases planned
  | ask whole =>
    cases planned
    exact ⟨whole, rfl, rfl⟩

end Plan

/-! ## What a request carries -/

section Carried

variable (body : Bytes)

theorem withText_cases (next : String → Plan) :
    (withText body next).IsRejected ∨
      ∃ text, body = Utf8.encode text ∧ withText body next = next text := by
  rw [withText, withBytes]
  split
  · exact .inl (isRejected_reply (by decide))
  · cases decoded : Utf8.decode body with
    | error fault => exact .inl (isRejected_reply List.mem_cons_self)
    | ok text => exact .inr ⟨text, (Utf8.encode_of_decode decoded).symm, rfl⟩

theorem withRecord_cases {ρ : Type} (decode : Bytes → Except Json.Error ρ) (next : ρ → Plan) :
    (withRecord decode body next).IsRejected ∨
      ∃ record, decode body = .ok record ∧ withRecord decode body next = next record := by
  rw [withRecord, withBytes]
  split
  · exact .inl (isRejected_reply (by decide))
  · cases decoded : decode body with
    | error problem => exact .inl (isRejected_reply List.mem_cons_self)
    | ok record => exact .inr ⟨record, rfl, rfl⟩

theorem withLock_cases (next : Lock → Plan) :
    (withLock body next).IsRejected ∨
      ∃ lock, Plans.decodeLock body = .ok lock ∧ withLock body next = next lock := by
  rcases withText_cases body _ with rejected | ⟨text, same, planned⟩
  · exact .inl rejected
  · rw [withLock, planned, same, Plans.decodeLock]
    cases Lock.decode (Utf8.encode text) with
    | ok lock => exact .inr ⟨lock, rfl, rfl⟩
    | error problem => exact .inl (isRejected_reply List.mem_cons_self)

theorem withQuery_cases (target : Target) (name : String) (next : Option String → Plan) :
    (withQuery target name next).IsRejected ∨
      ∃ value, target.single? name = .ok value ∧ withQuery target name next = next value := by
  rw [withQuery]
  cases single : target.single? name with
  | error => exact .inl (isRejected_reply List.mem_cons_self)
  | ok value => exact .inr ⟨value, rfl, rfl⟩

/-- A text that is not too long is read from the body. -/
theorem withText_encode {text : String} (short : (Utf8.encode text).length ≤ bodyLimit)
    (next : String → Plan) : withText (Utf8.encode text) next = next text := by
  rw [withText, withBytes, if_neg (Nat.not_lt.2 short)]
  simp only [Utf8.decode_encode]

/-- A lock is read from its document. -/
theorem withLock_encode {text : String} {lock : Lock}
    (short : (Utf8.encode text).length ≤ bodyLimit)
    (decoded : Plans.decodeLock (Utf8.encode text) = .ok lock) (next : Lock → Plan) :
    withLock (Utf8.encode text) next = next lock := by
  rw [withLock, withText_encode short, decoded]

end Carried

end ControlPlane.Http
