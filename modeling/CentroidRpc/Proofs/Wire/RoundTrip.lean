import CentroidRpc.Message.Catalog
import CentroidRpc.Proofs.Wire.Merging

/-!
# The service's messages come back as they were written

Every message of the service is numbered well, so all that is said of well numbered messages holds
of it.
-/

namespace CentroidRpc.Message

open Wire

/-- The messages of the service are numbered well. -/
theorem wellNumbered_of_mem_all : ∀ m ∈ all, m.WellNumbered := by
  decide

/-- A message comes back as it was written, in whatever order the entries of its dictionaries stand,
but for a positive zero in the stead of each negative one; and it takes as many bytes as its size
says. Lengths are numbers of 64 bits, so there may be no more bytes than such a number can count. -/
theorem decode_written {m : Schema FieldType} (hm : m ∈ all) (v : m.Value) :
    m.Writes v (m.encode v) ∧
    ∀ bs, m.Writes v bs →
      bs.length = m.size v ∧
      (bs.length < UInt64.size →
        m.decode bs = .ok (m.positiveZero v) ∧
        (.negZero ∉ m.doubles v → m.decode bs = .ok v)) := by
  refine ⟨m.writes_encode v, fun bs hwrites ↦ ⟨m.length_of_writes hwrites, fun hlen ↦ ?_⟩⟩
  have hdecode := Schema.decode_of_writes (wellNumbered_of_mem_all m hm) hlen hwrites
  refine ⟨hdecode, fun hneg ↦ ?_⟩
  rw [hdecode, m.positiveZero_eq_self hneg]

/-- Scores with an empty key and a negative zero, written last to first behind a status that is
present and empty. -/
theorem decode_scores_backwards :
    ResponseType.multiSimilarity.schema.decode
        [10, 0, 18, 12, 10, 1, 97, 17, 1, 0, 0, 0, 0, 0, 0, 0, 18, 0] =
      .ok (some Status.ok.record, ⟨[("", .zero), ("a", ⟨1⟩)], by decide⟩, ()) := by
  have hmem : ResponseType.multiSimilarity.schema ∈ all :=
    List.mem_append_right _ (List.mem_map.2 ⟨.multiSimilarity, by decide, rfl⟩)
  have hwrites : ResponseType.multiSimilarity.schema.Writes
      (some Status.ok.record, ⟨[("", .negZero), ("a", ⟨1⟩)], by decide⟩, ())
      [10, 0, 18, 12, 10, 1, 97, 17, 1, 0, 0, 0, 0, 0, 0, 0, 18, 0] := by
    refine ⟨[10, 0], [18, 12, 10, 1, 97, 17, 1, 0, 0, 0, 0, 0, 0, 0, 18, 0], rfl, ?_, _, [],
      (List.append_nil _).symm, ⟨[("a", ⟨1⟩), ("", .negZero)], .swap .., ?_⟩, rfl⟩
    · show [10, 0] = FieldType.write _ _ _
      decide +kernel
    · decide +kernel
  exact (((decode_written hmem _).2 _ hwrites).2 (by decide)).1

end CentroidRpc.Message
