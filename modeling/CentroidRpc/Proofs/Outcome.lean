import CentroidRpc.Proofs.Connection
import CentroidRpc.Session

/-!
# What a call over an open connection tells its caller

A call that ends below the service fails with the status it ended with. Otherwise the response alone
decides: which codes are failures is said by number, and the field that a successful call yields is
found in the response by its name (`Operation.answerField`).
-/

namespace CentroidRpc

open Wire

namespace Wire.Record

/-- The value of the first field with a name, with its type. -/
def find? {τ : Type} [FieldSort τ] (name : String) :
    (fs : List (FieldDecl τ)) → Record fs → Option ((t : τ) × FieldSort.Value t)
  | [], _ => none
  | f :: fs, (v, r) => if f.name = name then some ⟨f.type, v⟩ else find? name fs r

end Wire.Record

/-- The value of a field that an answer is; the bare fact of success is none. -/
def AnswerKind.field : (k : AnswerKind) → k.Value Double → Option ((t : FieldType) × t.Value)
  | done, _ => none
  | facts, v => some ⟨.dict .text, v⟩
  | text, v => some ⟨.leaf (.plain .text), v⟩
  | texts, v => some ⟨.repeated .text, v⟩
  | flag, v => some ⟨.leaf (.plain .bool), v⟩
  | flags, v => some ⟨.repeated .bool, v⟩
  | score, v => some ⟨.leaf (.plain .double), v⟩
  | scores, v => some ⟨.dict .double, v⟩

/-- The name of the field that a successful call yields, if it yields one. -/
def Operation.answerField : Operation → Option String
  | ping | addDocumentsToCentroid | removeDocumentsFromCentroid => none
  | getServerMetadata => some "metadata"
  | createDocument | createDocumentWithId | deleteDocument => some "id"
  | createCentroid | deleteCentroid => some "id"
  | multiDeleteDocuments | multiCreateCentroids | multiDeleteCentroids => some "ids"
  | getDocumentMetadata => some "document"
  | joinCentroid | multiJoinCentroids => some "recalculated"
  | getDocumentSimilarity | getTextSimilarity | getCentroidSimilarity => some "similarity"
  | multiGetDocumentSimilarity | multiGetTextSimilarity => some "scores"
  | listAllCentroids | listCentroidRange | listCentroidRangeFromId => some "centroids"
  | listAllDocuments | listDocumentRange | listDocumentRangeFromId => some "documents"
  | listUnusedDocuments => some "documents"
  | listAllDocumentsForCentroid | listCentroidDocumentRange => some "documents"
  | listCentroidDocumentRangeFromId => some "documents"

namespace StatusCode

/-- The numbers from zero to seven, and no others, are status codes. -/
theorem ofNumber?_eq_none_iff (n : Int32) : ofNumber? n = none ↔ n < 0 ∨ 7 < n := by
  have hall : ofNumber? n = none ↔ ∀ c ∈ all, c.number ≠ n := by
    simp [ofNumber?, List.find?_eq_none]
  rw [hall]
  simp only [all, Failure.all, List.map_cons, List.map_nil, List.forall_mem_cons,
    List.not_mem_nil, false_imp_iff, implies_true, and_true, ne_eq, number, Failure.number]
  grind

/-- A status code that is found has the number that was looked for. -/
theorem number_of_ofNumber?_eq_some {n : Int32} {c : StatusCode} (h : ofNumber? n = some c) :
    c.number = n := by
  simpa using List.find?_some h

end StatusCode

namespace Status

/-- A status reports no error exactly if its code is zero. -/
theorem error?_eq_none_iff (s : Status) (subjects : Subjects) :
    s.error? subjects = none ↔ s.code = 0 := by
  unfold error?
  constructor
  · intro h
    split at h
    · next hc => exact (StatusCode.number_of_ofNumber?_eq_some hc).symm
    · cases h
    · cases h
  · intro h
    rw [h]
    rfl

/-- A code from one to seven is reported as the failure with that number. -/
theorem error?_of_failure {s : Status} (h₁ : 1 ≤ s.code) (h₇ : s.code ≤ 7) (subjects : Subjects) :
    ∃ f : Failure, f.number = s.code ∧
      s.error? subjects = some (.reported f (f.idsIn subjects) s.message) := by
  unfold error?
  cases hc : StatusCode.ofNumber? s.code with
  | none =>
    rw [StatusCode.ofNumber?_eq_none_iff] at hc
    grind
  | some c =>
    have hn := StatusCode.number_of_ofNumber?_eq_some hc
    cases c with
    | ok =>
      change 0 = s.code at hn
      grind
    | failed f => exact ⟨f, hn, rfl⟩

private theorem error?_of_unknown {s : Status} (h : s.code < 0 ∨ 7 < s.code) (subjects : Subjects) :
    s.error? subjects = some (.unrecognised s.code s.message) := by
  unfold error?
  rw [(StatusCode.ofNumber?_eq_none_iff s.code).mpr h]

private theorem error?_ne_local {s : Status} {subjects : Subjects} {e : CallError}
    (h : s.error? subjects = some e) : e ≠ .notConnected ∧ ∀ status, e ≠ .transport status := by
  unfold error? at h
  split at h
  · cases h
  · cases h
    exact ⟨nofun, nofun⟩
  · cases h
    exact ⟨nofun, nofun⟩

end Status

namespace Response

variable {t : ResponseType}

/-- Nothing of a record is lost when it is split into status and payload. -/
theorem record_ofRecord (v : t.schema.Value) : (ofRecord v).record = v := by
  cases t
  all_goals
    first
      | rfl
      | (obtain ⟨s, p⟩ := v; cases s <;> rfl)

private theorem outcome_of_bare (h : t.bare = true) (r : Response t) (subjects : Subjects) :
    r.outcome subjects = .ok r.payload := by
  simp only [outcome, envelope, h, ite_true, Option.bind_none]

private theorem outcome_of_enveloped (h : t.bare = false) (r : Response t) (subjects : Subjects) :
    r.outcome subjects =
      match r.status.bind (·.error? subjects) with
      | some e => .error e
      | none => .ok r.payload := by
  have hok : Status.ok.error? subjects = none := (Status.error?_eq_none_iff _ _).mpr rfl
  simp only [outcome, envelope, h, Bool.false_eq_true, ite_false, Option.bind_some]
  cases r.status with
  | none => rw [Option.getD_none, hok, Option.bind_none]
  | some s => rfl

end Response

namespace Request

private theorem field_project (op : Operation) (response : Response op.response) :
    op.response.answerKind.field (op.response.project response.payload) =
      op.answerField.bind fun name ↦ Record.find? name op.response.fields response.record := by
  cases op <;> rfl

/-- How the outcome of a call depends on the record that came back as the response. -/
structure Reports (r : Request) (record : r.operation.response.schema.Value)
    (outcome : Except CallError (r.Answer Double)) : Prop where
  bare : r.operation.response.bare = true → ∃ v, outcome = .ok v
  enveloped : r.operation.response.bare = false →
    ((∃ v, outcome = .ok v) ↔ ∀ s, (Response.ofRecord record).status = some s → s.code = 0)
  failure : r.operation.response.bare = false →
    ∀ s, (Response.ofRecord record).status = some s → 1 ≤ s.code → s.code ≤ 7 →
      ∃ e f, outcome = .error e ∧ e.failure? = some f ∧ f.number = s.code
  unknown : r.operation.response.bare = false →
    ∀ s, (Response.ofRecord record).status = some s → s.code < 0 ∨ 7 < s.code →
      outcome = .error (.unrecognised s.code s.message)
  answer : ∀ v, outcome = .ok v → r.operation.response.answerKind.field v =
    r.operation.answerField.bind fun name ↦ Record.find? name r.operation.response.fields record
  remote : ∀ e, outcome = .error e → e ≠ .notConnected ∧ ∀ s, e ≠ .transport s

variable {r : Request} {response : Response r.operation.response}

/-- A call whose response reports no error yields the field that its type projects. -/
theorem conclude_of_none
    (h : r.operation.response.bare = false → response.status.bind (·.error? r.subjects) = none) :
    r.conclude (.ok response) = .ok (r.operation.response.project response.payload) := by
  change (response.outcome r.subjects).map _ = _
  cases hb : r.operation.response.bare with
  | true => rw [Response.outcome_of_bare hb, Except.map]
  | false => rw [Response.outcome_of_enveloped hb, h hb, Except.map]

/-- A call whose response reports an error fails with it. -/
theorem conclude_of_some {e : CallError} (hb : r.operation.response.bare = false)
    (h : response.status.bind (·.error? r.subjects) = some e) :
    r.conclude (.ok response) = .error e := by
  change (response.outcome r.subjects).map _ = _
  rw [Response.outcome_of_enveloped hb, h, Except.map]

private theorem conclude_cases (r : Request) (response : Response r.operation.response) :
    r.conclude (.ok response) = .ok (r.operation.response.project response.payload) ∨
      ∃ s e, response.status = some s ∧ s.error? r.subjects = some e ∧
        r.conclude (.ok response) = .error e := by
  cases hb : r.operation.response.bare with
  | true => exact .inl (conclude_of_none (by simp [hb]))
  | false =>
    cases hs : response.status with
    | none => exact .inl (conclude_of_none (by simp [hs]))
    | some s =>
      cases he : s.error? r.subjects with
      | none => exact .inl (conclude_of_none (by simp [hs, he]))
      | some e => exact .inr ⟨s, e, rfl, he, conclude_of_some hb (by simp [hs, he])⟩

/-- No response tells of the connection, be it lost or missing. -/
theorem conclude_ne_local {e : CallError} (h : r.conclude (.ok response) = .error e) :
    e ≠ .notConnected ∧ ∀ s, e ≠ .transport s := by
  obtain ho | ⟨s, e', -, he', ho⟩ := conclude_cases r response
  · rw [ho] at h
    cases h
  · rw [ho] at h
    cases h
    exact Status.error?_ne_local he'

/-- A call ends as its response reports. -/
theorem reports_conclude (r : Request) (record : r.operation.response.schema.Value) :
    r.Reports record (r.conclude (.ok (.ofRecord record))) := by
  -- What a status reports is what the caller is told.
  have hfail : r.operation.response.bare = false →
      ∀ s, (Response.ofRecord record).status = some s →
      ∀ e, s.error? r.subjects = some e → r.conclude (.ok (.ofRecord record)) = .error e := by
    intro hb s hs e he
    exact conclude_of_some hb (by rw [hs, Option.bind_some, he])
  constructor
  case bare => exact fun hb ↦ ⟨_, conclude_of_none (by simp [hb])⟩
  case enveloped =>
    intro hb
    constructor
    · rintro ⟨v, hv⟩ s hs
      rw [← Status.error?_eq_none_iff s r.subjects]
      cases he : s.error? r.subjects with
      | none => rfl
      | some e =>
        rw [hfail hb s hs e he] at hv
        cases hv
    · intro h
      refine ⟨_, conclude_of_none fun _ ↦ ?_⟩
      cases hs : (Response.ofRecord record).status with
      | none => rfl
      | some s => exact (Status.error?_eq_none_iff s _).mpr (h s hs)
  case failure =>
    intro hb s hs h₁ h₇
    obtain ⟨f, hf, he⟩ := Status.error?_of_failure h₁ h₇ r.subjects
    exact ⟨_, f, hfail hb s hs _ he, rfl, hf⟩
  case unknown =>
    intro hb s hs h
    exact hfail hb s hs _ (Status.error?_of_unknown h r.subjects)
  case answer =>
    intro v hv
    have hf := field_project r.operation (Response.ofRecord record)
    rw [Response.record_ofRecord] at hf
    rw [← hf]
    obtain h | ⟨s, e, -, -, h⟩ := conclude_cases r (.ofRecord record)
    · rw [h] at hv
      cases hv
      rfl
    · rw [h] at hv
      cases hv
  case remote => exact fun e he ↦ conclude_ne_local he

end Request

namespace Session

variable {σ ω : Type}

/-- A call over an open connection sends its request, and ends with what came back for it. -/
theorem call_of_open {s : Session σ ω} {stub : σ} (h : s.client.connection = .opened stub)
    (x : Exchange σ ω) (r : Request) :
    s.call x r =
      (⟨r, (x stub r s.world).1.delivered, r.conclude (r.response (x stub r s.world).1.reply)⟩,
        ⟨⟨s.client.config, s.client.connection.after (r.response (x stub r s.world).1.reply)⟩,
          (x stub r s.world).2⟩) := by
  simp only [call, start, Client.start, h, Connection.stub, finish, Client.finish]

/-- Over an open connection, what comes back for a request decides both what the caller is told and
whether the connection stays open. -/
theorem outcome_over_open_connection {s : Session σ ω} {stub : σ}
    (h : s.client.connection = .opened stub) (x : Exchange σ ω) (r : Request) :
    ∃ outcome connection,
      s.call x r = (⟨r, (x stub r s.world).1.delivered, outcome⟩,
        ⟨⟨s.client.config, connection⟩, (x stub r s.world).2⟩) ∧
      (∀ status, (x stub r s.world).1.reply = .error status →
        outcome = .error (.transport status) ∧
        connection =
          if status.code = .unavailable ∨ status.source ≠ none then .closed else .opened stub) ∧
      (∀ bs fault, (x stub r s.world).1.reply = .ok bs →
        r.operation.response.schema.decode bs = .error fault →
        outcome = .error (.transport (.plain .internal fault.text)) ∧
        connection = .opened stub) ∧
      (∀ bs record, (x stub r s.world).1.reply = .ok bs →
        r.operation.response.schema.decode bs = .ok record →
        connection = .opened stub ∧ r.Reports record outcome) := by
  refine ⟨_, _, call_of_open h x r, ?_, ?_, ?_⟩
  · intro status hreply
    rw [hreply, h]
    refine ⟨rfl, ?_⟩
    change (if status.isLoss = true then _ else _) = _
    simp only [RpcStatus.isLoss_iff]
    rfl
  · intro bs fault hreply hdecode
    have hresponse : r.response (x stub r s.world).1.reply =
        .error (.plain .internal fault.text) := by
      simp only [Request.response, hreply, hdecode]
    rw [hresponse, h]
    exact ⟨rfl, rfl⟩
  · intro bs record hreply hdecode
    have hresponse : r.response (x stub r s.world).1.reply = .ok (.ofRecord record) := by
      simp only [Request.response, hreply, hdecode]
    rw [hresponse, h]
    exact ⟨rfl, r.reports_conclude record⟩

/-- A response whose status has the code two is the failure with that number. -/
theorem outcome_of_code_two :
    (Client.ofStub () : Client Unit).connection = .opened () ∧
    ∃ e f,
      (call ⟨.ofStub (), ()⟩ (fun _ _ w ↦ (⟨true, .ok [10, 2, 8, 2], 0⟩, w))
        (.createCentroid "a" false)).1 = ⟨.createCentroid "a" false, true, .error e⟩ ∧
      e.failure? = some f ∧ f.number = 2 := by
  have hopened : (⟨.ofStub (), ()⟩ : Session Unit Unit).client.connection = .opened () := rfl
  obtain ⟨outcome, connection, hcall, -, -, hrecord⟩ :=
    outcome_over_open_connection hopened
      (fun _ _ w ↦ (⟨true, .ok [10, 2, 8, 2], 0⟩, w)) (.createCentroid "a" false)
  obtain ⟨-, hreports⟩ := hrecord [10, 2, 8, 2] (some (Status.record ⟨2, none⟩), "", ()) rfl rfl
  obtain ⟨e, f, rfl, hf, hn⟩ := hreports.failure rfl ⟨2, none⟩ rfl (by decide) (by decide)
  exact ⟨rfl, e, f, congrArg Prod.fst hcall, hf, hn⟩

end Session

end CentroidRpc
