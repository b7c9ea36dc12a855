import CentroidRpc.Proofs.Lengths
import CentroidRpc.Proofs.Store.Verdict
import CentroidRpc.Proofs.Subjects
import CentroidRpc.Proofs.Told

/-!
# Errors are true

The ids that an error speaks of come from the request, and the failure comes from the store, which
tells no ids. Still they fit together: some of the ids are as the failure says, in the store as it
was before the call; and a call succeeds exactly if the listings of that store allow it
(`Session.call_truthful`). Only a message that is too long is a reason of another kind.
-/

namespace CentroidRpc

namespace Draft

private theorem metBy_request {α : Type} [Weight α] (s : Store α) (d : Draft) :
    d.request.MetBy s ↔ d.filled.MetBy s := by
  cases d <;> exact Iff.rfl

private theorem operation_ne_of_enveloped {d : Draft}
    (h : d.request.operation.response.bare = false) :
    d.operation ≠ .listCentroidRangeFromId ∧ d.operation ≠ .listDocumentRangeFromId := by
  rw [operation_request] at h
  have hne {op : Operation} (hbare : op.response.bare = true) : d.operation ≠ op := by
    rintro rfl
    rw [h] at hbare
    cases hbare
  exact ⟨hne rfl, hne rfl⟩

end Draft

/-- A failure that the store bears out is true of the ids that the caller passed. -/
theorem Store.Supports.trueOf {α : Type} [Weight α] {s : Store α} {d : Draft} {f : Failure}
    (h : s.Supports d.request.subjects f) (henveloped : d.request.operation.response.bare = false) :
    f.TrueOf s (d.passed .centroid) (f.idsIn d.request.subjects) := by
  obtain ⟨hcentroid, hdocument⟩ := Draft.operation_ne_of_enveloped henveloped
  have hsubjects := Draft.subjects_request hcentroid hdocument
  have hcentroids : d.request.subjects.centroids = d.passed .centroid := by rw [hsubjects]
  rw [← hcentroids]
  exact h

namespace Session

/-- Over an open connection to a store that calls have led to: a call whose request and reply are
not too long succeeds exactly if the listings of the store before it allow it; and if it fails, it
is for one of the six reasons that are known, about just the ids that its caller passed of the kind
that the reason is about, and the reason is true of the store before the call. A request that is too
long does not reach the store, and a reply that is too long does not come back; the caller is told
so, and the connection stays open. -/
theorem call_truthful {s : Session Unit (Store Float)}
    (hopen : s.client.connection = .opened ()) (hserved : s.world.Served) (d : Draft) :
    (s.Fits d.request →
      ∃ outcome, (s.call (Service.exchange .inMemory) d.request).1 = ⟨d.request, true, outcome⟩ ∧
        ((∃ v, outcome = .ok v) ↔ d.filled.MetBy s.world) ∧
        ∀ e, outcome = .error e →
          ∃ f, e.failure? = some f ∧ f ≠ .unknownException ∧
            e.ids = f.subject?.elim [] d.passed ∧ f.TrueOf s.world (d.passed .centroid) e.ids) ∧
    (∀ status, RpcStatus.tooLong? d.request.encode.length = some status →
      s.call (Service.exchange .inMemory) d.request =
        (⟨d.request, false, .error (.transport status)⟩, s)) ∧
    (d.request.encode.length ≤ RpcStatus.maxMessageSize →
      ∀ status, RpcStatus.tooLong? (d.request.replyOf s.world).length = some status →
        s.call (Service.exchange .inMemory) d.request =
          (⟨d.request, true, .error (.transport status)⟩,
            ⟨s.client, (s.world.answer d.request).2⟩)) := by
  refine ⟨fun hfits ↦ ?_, fun status hlong ↦ call_of_tooLong hopen hlong _,
    fun hrequest status hlong ↦ call_inMemory_of_tooLong hopen hrequest hlong⟩
  have hcall := call_inMemory hopen hfits
  have hfair := Store.fair_answer hserved.reachable.intact hserved.knowsLanguages d.request
  refine ⟨_, congrArg Prod.fst hcall, ?_⟩
  rw [← Draft.metBy_request]
  cases ho : (s.world.answer d.request).1 with
  | ok v =>
    rw [ho] at hfair
    cases hfair with
    | ok hmet =>
      have hconclude := d.request.conclude_arrived_ok
        (AnswerKind.map .ofFloat d.request.operation.response.answerKind v)
      refine ⟨⟨fun _ ↦ hmet, fun _ ↦ ⟨_, hconclude⟩⟩, fun e he ↦ ?_⟩
      cases hconclude.symm.trans he
  | error f =>
    have henveloped := Store.enveloped_of_error ho
    have hconclude := d.request.conclude_arrived_error henveloped f
    obtain ⟨hcentroid, hdocument⟩ := Draft.operation_ne_of_enveloped henveloped
    rw [ho] at hfair
    cases hfair with
    | error hmet hreason =>
      refine ⟨⟨fun ⟨v, hv⟩ ↦ ?_, fun hm ↦ absurd hm hmet⟩, fun e he ↦ ?_⟩
      · cases hconclude.symm.trans hv
      · cases hconclude.symm.trans he
        refine ⟨f, rfl, ?_, Draft.idsIn_subjects hcentroid hdocument f, hreason.trueOf henveloped⟩
        rintro rfl
        exact hreason

/-- A centroid that exists already is named by the error, and is one of those that are listed. -/
theorem call_truthful_existing :
    let d : Draft := .createCentroid "a" none
    let s : Session Unit (Store Float) := ⟨.ofStub (), .run .empty [d.request]⟩
    s.client.connection = .opened () ∧ s.world.Served ∧ s.Fits d.request ∧
    s.world.listedCentroids = ["a"] ∧
    ∃ e, (s.call (Service.exchange .inMemory) d.request).1 = ⟨d.request, true, .error e⟩ ∧
      e.failure? = some .centroidAlreadyExists ∧ e.ids = ["a"] := by
  intro d s
  have hserved : s.world.Served := ⟨[d], rfl⟩
  have hfits : s.Fits d.request := ⟨by decide +kernel, by decide +kernel⟩
  have hlisted : s.world.listedCentroids = ["a"] := rfl
  obtain ⟨outcome, hcall, hok, herror⟩ := (call_truthful rfl hserved d).1 hfits
  refine ⟨rfl, hserved, hfits, hlisted, ?_⟩
  cases outcome with
  | ok v =>
    have hmet : "a" ∉ s.world.listedCentroids := hok.1 ⟨v, rfl⟩ rfl
    rw [hlisted] at hmet
    exact absurd List.mem_cons_self hmet
  | error e =>
    obtain ⟨f, hf, -, hids, htrue⟩ := herror e rfl
    have hcentroids : d.passed .centroid = ["a"] := by decide
    have hdocuments : d.passed .document = [] := by decide
    rw [hids] at htrue
    refine ⟨e, hcall, ?_⟩
    rw [hf, hids]
    cases f with
    | centroidAlreadyExists => exact ⟨rfl, hcentroids⟩
    | _ =>
      simp [Failure.TrueOf, Failure.subject?, hcentroids, hdocuments, hlisted] at htrue

/-- A text that alone takes as many bytes as a message may have. -/
def longest : Draft := .createDocument (wordOf RpcStatus.maxMessageSize) none

private theorem length_encode_longest : longest.request.encode.length = 4194309 :=
  (Request.length_encode_createDocument (utf8ByteSize_wordOf _) (by decide)).trans (by decide)

/-- Nothing speaks against a document in an empty store. But its text is so long that the call ends
with a status, and of no failure that has a name is told. -/
theorem not_truthful_of_longest :
    let s : Session Unit (Store Float) := ⟨.ofStub (), .empty⟩
    s.client.connection = .opened () ∧ s.world.Served ∧ longest.filled.MetBy s.world ∧
    (∃ status : RpcStatus,
      s.call (Service.exchange .inMemory) longest.request =
        (⟨longest.request, false, .error (.transport status)⟩, s) ∧ status.code = .outOfRange) ∧
    ¬ ∀ (d : Draft) (e : CallError),
      (s.call (Service.exchange .inMemory) d.request).1.outcome = .error e → e.failure? ≠ none := by
  intro s
  have hlong : ∃ status, RpcStatus.tooLong? longest.request.encode.length = some status ∧
      status.code = .outOfRange := by
    rw [length_encode_longest]
    exact ⟨_, rfl, rfl⟩
  obtain ⟨status, hstatus, hcode⟩ := hlong
  have hcall := call_of_tooLong (s := s) rfl hstatus .inMemory
  refine ⟨rfl, ⟨[], rfl⟩, trivial, ⟨status, hcall, hcode⟩, fun hclaim ↦ ?_⟩
  have houtcome : (s.call (Service.exchange .inMemory) longest.request).1.outcome =
      .error (.transport status) := by rw [hcall]
  exact hclaim longest (.transport status) houtcome rfl

end Session

end CentroidRpc
