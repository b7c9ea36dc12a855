import CentroidRpc.Proofs.Arguments
import CentroidRpc.Service.InMemory

/-!
# How long messages are

A message takes as many bytes as its size says, so whether it is too long can be told from the
lengths of the texts in it. What is asked about one centroid is never longer than what is asked
about several, and a response with one score is short.
-/

namespace CentroidRpc

open Wire

namespace Wire.FieldType

private theorem le_total_of_mem {α : Type} {size : α → Nat} {a : α} {l : List α} (h : a ∈ l) :
    size a ≤ total size l := by
  induction l with
  | nil => exact absurd h List.not_mem_nil
  | cons b l ih =>
    rw [total]
    rcases List.mem_cons.1 h with rfl | h
    · exact Nat.le_add_right ..
    · exact Nat.le_add_left_of_le (ih h)

private theorem size_text_le (number : Nat) {id : String} {ids : List String} (h : id ∈ ids) :
    (leaf (.plain .text)).size number id ≤ (repeated .text).size number ids := by
  show (if Scalar.text.isZero id then 0 else scalarFieldSize .text number id) ≤
    total (scalarFieldSize .text number) ids
  split
  · exact Nat.zero_le _
  · exact le_total_of_mem h

private theorem size_text_of_pos (number : Nat) {text : String} {n : Nat}
    (h : text.utf8ByteSize = n) (hpos : 0 < n) :
    (leaf (.plain .text)).size number text = keySize number + (varintSize n + n) := by
  have hne : Scalar.text.isZero text = false := by
    show text.isEmpty = false
    rw [String.isEmpty, h]
    exact beq_eq_false_iff_ne.2 (Nat.pos_iff_ne_zero.1 hpos)
  show (if Scalar.text.isZero text then 0 else scalarFieldSize .text number text) = _
  rw [hne, ← h]
  rfl

end Wire.FieldType

/-- A word of a number of letters. -/
def wordOf (n : Nat) : String := String.ofList (List.replicate n 'a')

/-- It takes as many bytes. -/
theorem utf8ByteSize_wordOf (n : Nat) : (wordOf n).utf8ByteSize = n := by
  rw [wordOf, ← String.size_toByteArray, ← String.utf8Encode_toList, String.toList_ofList]
  induction n with
  | zero => rfl
  | succ n ih =>
    have hletter : ['a'].utf8Encode.size = 1 := by decide
    rw [List.replicate_succ, List.utf8Encode_cons, ByteArray.size_append, ih, hletter,
      Nat.add_comm]

namespace Request

/-- A request takes as many bytes as its size says. -/
theorem length_encode (r : Request) : r.encode.length = r.operation.request.size r.record :=
  r.operation.request.length_of_writes (r.operation.request.writes_encode r.record)

/-- What is sent for a document in English is its text. -/
theorem length_encode_createDocument {text : String} {n : Nat} (h : text.utf8ByteSize = n)
    (hpos : 0 < n) :
    (encode (.createDocument text 0)).length = keySize 1 + (varintSize n + n) := by
  rw [length_encode]
  exact FieldType.size_text_of_pos 1 h hpos

/-- What is asked about a text in English is the centroid and the text. -/
theorem length_encode_getTextSimilarity (c : String) {text : String} {n : Nat}
    (h : text.utf8ByteSize = n) (hpos : 0 < n) :
    (encode (.getTextSimilarity c text 0)).length =
      (FieldType.leaf (.plain .text)).size 1 c + (keySize 2 + (varintSize n + n)) := by
  rw [length_encode]
  exact congrArg _ (FieldType.size_text_of_pos 2 h hpos)

/-- If several centroids are named, then all of them and the text. -/
theorem length_encode_multiGetTextSimilarity (cs : List String) {text : String} {n : Nat}
    (h : text.utf8ByteSize = n) (hpos : 0 < n) :
    (encode (.multiGetTextSimilarity cs text 0)).length =
      (FieldType.repeated .text).size 1 cs + (keySize 2 + (varintSize n + n)) := by
  rw [length_encode]
  exact congrArg _ (FieldType.size_text_of_pos 2 h hpos)

/-- What is asked about one centroid is not longer than what is asked about several. -/
theorem length_encode_getDocumentSimilarity_le {ids : List String} {id : String} (hid : id ∈ ids)
    (d : String) : (encode (.getDocumentSimilarity id d)).length ≤
      (encode (.multiGetDocumentSimilarity ids d)).length := by
  rw [length_encode, length_encode]
  exact Nat.add_le_add_right (FieldType.size_text_le 1 hid) _

/-- What is asked about one centroid is not longer than what is asked about several. -/
theorem length_encode_getTextSimilarity_le {ids : List String} {id : String} (hid : id ∈ ids)
    (text : String) (language : Int32) : (encode (.getTextSimilarity id text language)).length ≤
      (encode (.multiGetTextSimilarity ids text language)).length := by
  rw [length_encode, length_encode]
  exact Nat.add_le_add_right (FieldType.size_text_le 1 hid) _

end Request

/-- The response with one score is short. -/
theorem ResponseType.length_similarity_le (o : Except Failure Double) :
    (similarity.schema.encode (Response.record
      ⟨some (.ofOutcome o), (o.toOption.getD .zero, ())⟩)).length ≤ RpcStatus.maxMessageSize := by
  rw [similarity.schema.length_of_writes (similarity.schema.writes_encode _)]
  cases o with
  | error f => cases f <;> decide
  | ok x =>
    show blockFieldSize 1 0 + ((if x.isZero then 0 else keySize 2 + 8) + 0) ≤
      RpcStatus.maxMessageSize
    split <;> decide

end CentroidRpc
