import CentroidRpc.Proofs.Arguments
import CentroidRpc.Proofs.Outcome
import CentroidRpc.Proofs.Store.Served

/-!
# What callers of the service over a store are told

A request comes through unharmed, and so does a response but for the signs of zeros, as long as
neither is too long. So over an open connection the store answers what was asked, and its caller is
told of a success or of the failure that the store has answered with (`Session.call_inMemory`).
-/

namespace CentroidRpc

open Wire

namespace Request

/-- The response that tells of an outcome, as it is read from its bytes. -/
def arrived (r : Request) (o : Except Failure (r.Answer Double)) : Response r.operation.response :=
  .ofRecord (r.operation.response.schema.positiveZero (r.respond o).record)

private theorem status_arrived (r : Request) (o : Except Failure (r.Answer Double)) :
    (r.arrived o).status = if r.operation.response.bare then none else some (.ofOutcome o) := by
  cases r <;> rfl

/-- Of a success the caller is told what the response yields. -/
theorem conclude_arrived_ok (r : Request) (v : r.Answer Double) :
    r.conclude (.ok (r.arrived (.ok v))) =
      .ok (r.operation.response.project (r.arrived (.ok v)).payload) := by
  refine conclude_of_none fun hbare ↦ ?_
  rw [status_arrived, hbare]
  exact (Status.error?_eq_none_iff .ok r.subjects).2 rfl

/-- Of a failure in an envelope the caller is told the ids it is about. -/
theorem conclude_arrived_error {r : Request} (hbare : r.operation.response.bare = false)
    (f : Failure) :
    r.conclude (.ok (r.arrived (.error f))) = .error (.reported f (f.idsIn r.subjects) none) := by
  refine conclude_of_some hbare ?_
  rw [status_arrived, hbare]
  cases f <;> rfl

/-- The bytes of the response to a request are read as the response that arrives. -/
theorem response_encode (r : Request) (o : Except Failure (r.Answer Double))
    (hlen : (r.operation.response.schema.encode (r.respond o).record).length < UInt64.size) :
    r.response (.ok (r.operation.response.schema.encode (r.respond o).record)) =
      .ok (r.arrived o) := by
  have hnumbers := Message.wellNumbered_of_mem_all _ (Message.response_mem_all r.operation.response)
  have hwrites := r.operation.response.schema.writes_encode (r.respond o).record
  have hdecode := Schema.decode_of_writes hnumbers hlen hwrites
  simp only [response, hdecode]
  rfl

end Request

/-- A request that fails has a response in an envelope. -/
theorem Store.enveloped_of_error {α : Type} [Weight α] {s : Store α} {r : Request} {f : Failure}
    (h : (s.answer r).1 = .error f) : r.operation.response.bare = false := by
  cases r
  all_goals first | rfl | cases h

/-- The bytes of the response of a store to a request. -/
def Request.replyOf (r : Request) (store : Store Float) : Bytes :=
  r.operation.response.schema.encode
    (r.respond (Service.inDoubles .ofFloat (store.answer r).1)).record

/-- What is not too long can be counted by a number of 64 bits. -/
theorem RpcStatus.lt_of_le_maxMessageSize {length : Nat} (h : length ≤ maxMessageSize) :
    length < UInt64.size :=
  Nat.lt_of_le_of_lt h (by decide)

namespace Service

variable {r : Request}

/-- A request that is too long does not reach a service. -/
theorem exchange_of_tooLong {ω : Type} {status : RpcStatus}
    (h : RpcStatus.tooLong? r.encode.length = some status) (service : Service ω) (world : ω) :
    service.exchange () r world = (⟨false, .error status, 0⟩, world) := by
  simp only [exchange, h]

/-- Every other request is answered by the store of the service. -/
theorem exchange_inMemory (h : r.encode.length ≤ RpcStatus.maxMessageSize) (store : Store Float) :
    exchange inMemory () r store =
      (⟨true, Reply.received (.ok (r.replyOf store)), 0⟩, (store.answer r).2) := by
  have hdecode := r.decode_encode (RpcStatus.lt_of_le_maxMessageSize h)
  simp only [exchange, RpcStatus.tooLong?_eq_none_iff.2 h, inMemory, hdecode]
  rfl

end Service

/-- A reply is received if it is not too long. -/
theorem Reply.received_of_le {bs : Bytes} (h : bs.length ≤ RpcStatus.maxMessageSize) :
    received (.ok bs) = .ok bs := by
  simp only [received, RpcStatus.tooLong?_eq_none_iff.2 h]

/-- Of a reply that is too long the status is received that says so. -/
theorem Reply.received_of_tooLong {bs : Bytes} {status : RpcStatus}
    (h : RpcStatus.tooLong? bs.length = some status) : received (.ok bs) = .error status := by
  simp only [received, h]

private theorem Connection.after_of_tooLong {σ α : Type} (c : Connection σ) {length : Nat}
    {status : RpcStatus} (h : RpcStatus.tooLong? length = some status) :
    c.after (.error status : Except RpcStatus α) = c := by
  simp only [after, RpcStatus.isLoss_of_tooLong? h, Bool.false_eq_true, if_false]

namespace Session

/-- A request to a store is not too long, and neither is the reply to it. -/
structure Fits (s : Session Unit (Store Float)) (r : Request) : Prop where
  request : r.encode.length ≤ RpcStatus.maxMessageSize
  reply : (r.replyOf s.world).length ≤ RpcStatus.maxMessageSize

/-- Over an open connection, which stays open, the service does not notice a request that is too
long, and its caller is told so. -/
theorem call_of_tooLong {ω : Type} {s : Session Unit ω} (hopen : s.client.connection = .opened ())
    {r : Request} {status : RpcStatus} (h : RpcStatus.tooLong? r.encode.length = some status)
    (service : Service ω) :
    s.call service.exchange r = (⟨r, false, .error (.transport status)⟩, s) := by
  rw [call_of_open hopen, Service.exchange_of_tooLong h]
  simp only [Request.response, Request.conclude, Connection.after_of_tooLong _ h]

variable {s : Session Unit (Store Float)}

/-- If the reply of a store is too long, the caller is told so instead of the answer. -/
theorem call_inMemory_of_tooLong (hopen : s.client.connection = .opened ()) {r : Request}
    (hrequest : r.encode.length ≤ RpcStatus.maxMessageSize) {status : RpcStatus}
    (h : RpcStatus.tooLong? (r.replyOf s.world).length = some status) :
    s.call (Service.exchange .inMemory) r =
      (⟨r, true, .error (.transport status)⟩, ⟨s.client, (s.world.answer r).2⟩) := by
  rw [call_of_open hopen, Service.exchange_inMemory hrequest, Reply.received_of_tooLong h]
  simp only [Request.response, Request.conclude, Connection.after_of_tooLong _ h]

/-- Over an open connection, which stays open, the store answers what was asked, and its answer
arrives. -/
theorem call_inMemory (hopen : s.client.connection = .opened ()) {r : Request} (hfits : s.Fits r) :
    s.call (Service.exchange .inMemory) r =
      (⟨r, true, r.conclude (.ok (r.arrived (Service.inDoubles .ofFloat (s.world.answer r).1)))⟩,
        ⟨s.client, (s.world.answer r).2⟩) := by
  have hresponse := r.response_encode _ (RpcStatus.lt_of_le_maxMessageSize hfits.reply)
  rw [call_of_open hopen, Service.exchange_inMemory hfits.request, Reply.received_of_le hfits.reply]
  simp only [Request.replyOf, hresponse, Connection.after]

end Session

end CentroidRpc
