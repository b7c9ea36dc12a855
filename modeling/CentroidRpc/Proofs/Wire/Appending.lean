import CentroidRpc.Proofs.Wire.Exact
import CentroidRpc.Proofs.Wire.RoundTrip

/-!
# Messages whose bytes come one after the other

Bytes that have been read to their end are read in the same way with more bytes after them. So the
bytes of one message behind those of another are read as the one laid over the other
(`Schema.overlay`), even if the first ones were not written by this library.
-/

namespace CentroidRpc.Wire.Schema

variable {m : Schema FieldType}

/-- Bytes of a message, however they are written, are laid over what was read before them. -/
theorem decode_append_of_writes (hm : m.WellNumbered) {front bs : Bytes} {old new : m.Value}
    (hfront : m.decode front = .ok old) (hlen : bs.length < UInt64.size) (h : m.Writes new bs) :
    m.decode (front ++ bs) = .ok (m.overlay old new) := by
  have hbefore : Reader.Steps (m.mergeNext maxDepth) m.absent front old := decode_eq_ok_iff.1 hfront
  have hafter : Reader.Steps (m.mergeNext maxDepth) old bs (m.overlay old new) :=
    steps_of_writes hm 99 old new hlen h
  exact decode_eq_ok_iff.2 (hbefore.append hafter)

end CentroidRpc.Wire.Schema

namespace CentroidRpc.Message

open Wire

/-- Behind any bytes that are read as a message, the bytes of a second one are read as the second
message laid over the first one: as they are written here, and with the entries of dictionaries in
any other order. The second message may take no more bytes than a number of 64 bits can count. -/
theorem decode_appended {m : Schema FieldType} (hm : m ∈ all) {front : Bytes} {old : m.Value}
    (hfront : m.decode front = .ok old) (new : m.Value) (hsize : m.size new < UInt64.size) :
    m.decode (front ++ m.encode new) = .ok (m.overlay old new) ∧
    ∀ bs, m.Writes new bs → m.decode (front ++ bs) = .ok (m.overlay old new) := by
  have hwritten : ∀ bs, m.Writes new bs → m.decode (front ++ bs) = .ok (m.overlay old new) := by
    intro bs h
    have hlen : bs.length < UInt64.size := by
      rw [m.length_of_writes h]
      exact hsize
    exact Schema.decode_append_of_writes (wellNumbered_of_mem_all m hm) hfront hlen h
  exact ⟨hwritten _ (m.writes_encode new), hwritten⟩

/-- A group that is not declared and the code five, written in more bytes than it needs, are
followed by a status without a code. The code stays, and the words and the score come in. -/
theorem decode_appended_status :
    ResponseType.multiSimilarity.schema.decode [123, 8, 1, 124, 10, 3, 8, 133, 0] =
      .ok (some (Status.record ⟨5, none⟩), .empty, ()) ∧
    ResponseType.multiSimilarity.schema.decode
        [123, 8, 1, 124, 10, 3, 8, 133, 0,
          10, 3, 18, 1, 120, 18, 12, 10, 1, 97, 17, 2, 0, 0, 0, 0, 0, 0, 0] =
      .ok (some (Status.record ⟨5, some "x"⟩), ⟨[("a", ⟨2⟩)], by decide⟩, ()) := by
  have hmem : ResponseType.multiSimilarity.schema ∈ all := response_mem_all .multiSimilarity
  have hfront : ResponseType.multiSimilarity.schema.decode [123, 8, 1, 124, 10, 3, 8, 133, 0] =
      .ok (some (Status.record ⟨5, none⟩), .empty, ()) := rfl
  have hsize : ResponseType.multiSimilarity.schema.size
      (some (Status.record ⟨0, some "x"⟩), ⟨[("a", ⟨2⟩)], by decide⟩, ()) < UInt64.size := by
    decide +kernel
  have hbytes : ResponseType.multiSimilarity.schema.encode
      (some (Status.record ⟨0, some "x"⟩), ⟨[("a", ⟨2⟩)], by decide⟩, ()) =
      [10, 3, 18, 1, 120, 18, 12, 10, 1, 97, 17, 2, 0, 0, 0, 0, 0, 0, 0] := by
    decide +kernel
  have happended := (decode_appended hmem hfront _ hsize).1
  rw [hbytes] at happended
  exact ⟨hfront, happended⟩

end CentroidRpc.Message
