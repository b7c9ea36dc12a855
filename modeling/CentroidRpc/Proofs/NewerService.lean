import CentroidRpc.Client
import CentroidRpc.Proofs.Wire.Newer
import CentroidRpc.Proofs.Wire.RoundTrip

/-!
# A service that is newer than the client

A newer service may answer with fields that the client does not know. They are passed over wherever
they stand among the fields of the response or of its status, and so a call comes to its end as if
they were not there (`Message.newer_fields_ignored`).
-/

namespace CentroidRpc

open Wire

namespace Client

variable {σ : Type}

/-- A call whose reply is read as a response ends with what the response says, and its client stays
as it is. -/
theorem finish_of_decode (c : Client σ) {r : Request} {bs : Bytes}
    {v : r.operation.response.schema.Value}
    (h : r.operation.response.schema.decode bs = .ok v) :
    c.finish r (.ok bs) = (r.conclude (.ok (.ofRecord v)), c) := by
  have hresponse : r.response (.ok bs) = .ok (.ofRecord v) := by
    simp only [Request.response, h]
  rw [finish, hresponse]
  rfl

end Client

namespace Message

/-- Fields that a message does not declare are ignored: whatever their wire types, their numbers and
their bytes, and with at most 98 groups in each other, they may stand anywhere among the pieces of
the message and of the status in it. A message without negative zero is read back as it was written,
and a call that is answered with it ends as if nothing else had been written. Lengths are numbers of
64 bits, so there may be no more bytes than such a number can count. -/
theorem newer_fields_ignored :
    (∀ m ∈ all, ∀ (v : m.Value) bs,
      (m.Writes v bs → m.WritesNewer 98 v bs) ∧
      (m.WritesNewer 98 v bs → bs.length < UInt64.size → .negZero ∉ m.doubles v →
        m.decode bs = .ok v)) ∧
    ∀ {σ : Type} (c : Client σ) (r : Request) (v : r.operation.response.schema.Value) bs,
      r.operation.response.schema.WritesNewer 98 v bs → bs.length < UInt64.size →
      .negZero ∉ r.operation.response.schema.doubles v →
      c.finish r (.ok bs) = (r.conclude (.ok (.ofRecord v)), c) := by
  have hdecode : ∀ m ∈ all, ∀ (v : m.Value) bs, m.WritesNewer 98 v bs → bs.length < UInt64.size →
      .negZero ∉ m.doubles v → m.decode bs = .ok v := by
    intro m hm v bs hnewer hlen hneg
    rw [Schema.decode_of_writesNewer (wellNumbered_of_mem_all m hm) (Nat.le_refl 98) hlen hnewer,
      m.positiveZero_eq_self hneg]
  refine ⟨fun m hm v bs ↦ ⟨fun h ↦ Schema.writesNewer_of_writes h 98, hdecode m hm v bs⟩, ?_⟩
  intro σ c r v bs hnewer hlen hneg
  exact c.finish_of_decode (hdecode _ (response_mem_all _) v bs hnewer hlen hneg)

/-- A group with a number in it, a status behind whose length stands a word of 32 bits, an id, and a
block whose length is written in two bytes. -/
def newerResponse : Bytes :=
  [123, 8, 1, 124, 10, 7, 29, 0, 0, 0, 0, 8, 5, 18, 1, 97, 34, 130, 0, 1, 2]

/-- The status and the id are read, and the call ends with the failure that the status reports. -/
theorem newer_fields_ignored_newerResponse :
    ResponseType.createDocument.schema.decode newerResponse =
      .ok (some (Status.record ⟨5, none⟩), "a", ()) ∧
    (Client.ofStub ()).finish (.createDocument "red" 0) (.ok newerResponse) =
      (Request.conclude (.createDocument "red" 0) (.ok ⟨some ⟨5, none⟩, "a", ()⟩),
        Client.ofStub ()) := by
  have hmem : ResponseType.createDocument.schema ∈ all := response_mem_all .createDocument
  have hgroup : ResponseType.createDocument.schema.Undeclared 98 [123, 8, 1, 124] :=
    ⟨⟨15, .startGroup⟩, [123], [8, 1, 124], rfl, by decide, spellsKey_byte (by decide),
      .groupField (k := ⟨1, .varint⟩) (spellsKey_byte (by decide))
        (.varint (spells_byte (by decide))) (.groupEnd (spellsKey_byte (by decide)))⟩
  have hword : statusSchema.Undeclared 98 [29, 0, 0, 0, 0] :=
    ⟨⟨3, .thirtyTwoBit⟩, [29], [0, 0, 0, 0], rfl, by decide, spellsKey_byte (by decide),
      .thirtyTwoBit rfl⟩
  have hlength : Spells [1, 2].length [130, 0] :=
    ⟨by decide, by decide, by decide, [130], 0, rfl, List.forall_mem_singleton.2 (by decide),
      by decide⟩
  have hpayload : Payload 98 ⟨4, .lengthDelimited⟩ ([130, 0] ++ [1, 2]) := .lengthDelimited hlength
  have hblock : ResponseType.createDocument.schema.Undeclared 98 [34, 130, 0, 1, 2] :=
    ⟨⟨4, .lengthDelimited⟩, [34], [130, 0] ++ [1, 2], rfl, by decide, spellsKey_byte (by decide),
      hpayload⟩
  have hcode : [[8, 5]] = pieceOf (LeafType.write (.plain .int32) 1 5) := by decide +kernel
  have hid : [[18, 1, 97]] = pieceOf (LeafType.write (.plain .text) 2 "a") := by decide +kernel
  have hstatus : statusSchema.Newer LeafType.Pieces 98 (Status.record ⟨5, none⟩)
      [29, 0, 0, 0, 0, 8, 5] :=
    ⟨[[8, 5]], ⟨[[8, 5]], [], rfl, hcode, [], [], rfl, rfl, rfl⟩,
      .extra hword (.piece [8, 5] .nil)⟩
  have hnewer : ResponseType.createDocument.schema.WritesNewer 98
      (some (Status.record ⟨5, none⟩), "a", ()) newerResponse :=
    ⟨[[10, 7, 29, 0, 0, 0, 0, 8, 5], [18, 1, 97]],
      ⟨[[10, 7, 29, 0, 0, 0, 0, 8, 5]], [[18, 1, 97]], rfl, ⟨_, hstatus, by decide +kernel⟩,
        [[18, 1, 97]], [], rfl, hid, rfl⟩,
      .extra hgroup (.piece _ (.piece _ (.extra hblock .nil)))⟩
  have hlen : newerResponse.length < UInt64.size := by decide
  have hneg : .negZero ∉ ResponseType.createDocument.schema.doubles
      (some (Status.record ⟨5, none⟩), "a", ()) := by decide
  obtain ⟨hdecode, hfinish⟩ := newer_fields_ignored
  exact ⟨(hdecode _ hmem _ _).2 hnewer hlen hneg,
    hfinish (Client.ofStub ()) (.createDocument "red" 0) _ _ hnewer hlen hneg⟩

end Message

end CentroidRpc
