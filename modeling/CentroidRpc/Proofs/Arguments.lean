import CentroidRpc.Proofs.Wire.RoundTrip
import CentroidRpc.Request

/-!
# What a caller asks for is what the service reads

The arguments of a call have names, and flags and languages that its caller leaves out are filled in
(`Draft.filled`). The bytes of the request are read as just these arguments, each one in the field
of its name, so they tell any two calls of an operation apart (`Draft.decode_sent`).
-/

namespace CentroidRpc

open Wire

/-- What an argument of a call can be. -/
inductive Argument where
  | text (s : String)
  | texts (l : List String)
  | flag (b : Bool)
  | count (n : UInt64)
  | language (l : Language)
  deriving DecidableEq

/-- The argument that a field holds. The number of no language is none, and nor is a field of a type
that requests do not have. -/
def Argument.ofField? : (t : FieldType) → t.Value → Option Argument
  | .leaf (.plain .text), v => some (text v)
  | .repeated .text, v => some (texts v)
  | .leaf (.plain .bool), v => some (flag v)
  | .leaf (.plain .uint64), v => some (count v)
  | .leaf (.plain .int32), v => (Language.ofNumber? v).map language
  | _, _ => none

/-- The arguments in the fields of a message, by the names of the fields. -/
def Wire.Record.arguments : (fs : List (FieldDecl FieldType)) → Record fs →
    List (String × Option Argument)
  | [], _ => []
  | f :: fs, (v, r) => (f.name, Argument.ofField? f.type v) :: arguments fs r

namespace Call

variable {φ ℓ : Type}

/-- The arguments of a call by name. -/
def arguments : Call Bool Language → List (String × Argument)
  | ping | getServerMetadata | listAllCentroids | listAllDocuments => []
  | createDocument text l => [("text", .text text), ("language", .language l)]
  | createDocumentWithId id text l =>
    [("id", .text id), ("text", .text text), ("language", .language l)]
  | deleteDocument id ignore => [("id", .text id), ("ignore_missing", .flag ignore)]
  | multiDeleteDocuments ids ignore => [("ids", .texts ids), ("ignore_missing", .flag ignore)]
  | getDocumentMetadata id => [("id", .text id)]
  | createCentroid id ignore => [("id", .text id), ("ignore_existing", .flag ignore)]
  | multiCreateCentroids ids ignore => [("ids", .texts ids), ("ignore_existing", .flag ignore)]
  | deleteCentroid id ignore => [("id", .text id), ("ignore_missing", .flag ignore)]
  | multiDeleteCentroids ids ignore => [("ids", .texts ids), ("ignore_missing", .flag ignore)]
  | joinCentroid id => [("id", .text id)]
  | multiJoinCentroids ids => [("ids", .texts ids)]
  | addDocumentsToCentroid c ds ignore =>
    [("centroid_id", .text c), ("document_ids", .texts ds),
      ("ignore_already_in_centroid", .flag ignore)]
  | removeDocumentsFromCentroid c ds ignore =>
    [("centroid_id", .text c), ("document_ids", .texts ds),
      ("ignore_not_in_centroid", .flag ignore)]
  | getDocumentSimilarity c d => [("centroid_id", .text c), ("document_id", .text d)]
  | multiGetDocumentSimilarity cs d => [("centroid_ids", .texts cs), ("document_id", .text d)]
  | getTextSimilarity c text l =>
    [("centroid_id", .text c), ("text", .text text), ("language", .language l)]
  | multiGetTextSimilarity cs text l =>
    [("centroid_ids", .texts cs), ("text", .text text), ("language", .language l)]
  | getCentroidSimilarity a b => [("centroid_1_id", .text a), ("centroid_2_id", .text b)]
  | listCentroidRange offset count | listDocumentRange offset count =>
    [("offset", .count offset), ("count", .count count)]
  | listCentroidRangeFromId id count | listDocumentRangeFromId id count =>
    [("id", .text id), ("count", .count count)]
  | listUnusedDocuments limit => [("limit", .count limit)]
  | listAllDocumentsForCentroid c => [("centroid_id", .text c)]
  | listCentroidDocumentRange c offset count =>
    [("centroid_id", .text c), ("offset", .count offset), ("count", .count count)]
  | listCentroidDocumentRangeFromId c d count =>
    [("centroid_id", .text c), ("document_id", .text d), ("count", .count count)]

/-- Flags and languages that are changed twice are changed once. -/
theorem map_map {φ' ℓ' φ'' ℓ'' : Type} (c : Call φ ℓ) (f : φ → φ') (g : ℓ → ℓ') (f' : φ' → φ'')
    (g' : ℓ' → ℓ'') : (c.map f g).map f' g' = c.map (fun b ↦ f' (f b)) fun l ↦ g' (g l) := by
  cases c <;> rfl

/-- A call whose flags and languages are left as they are is the same call. -/
theorem map_id (c : Call φ ℓ) : (c.map (fun b ↦ b) fun l ↦ l) = c := by
  cases c <;> rfl

/-- The fields of a request are the arguments of the call, each one under its name. -/
theorem arguments_record (c : Call Bool Language) :
    Record.arguments _ (Request.record (c.map (fun b ↦ b) Language.number)) =
      c.arguments.map fun a ↦ (a.1, some a.2) := by
  have hlanguage (l : Language) : Argument.ofField? (.leaf (.plain .int32)) l.number =
      some (.language l) := by
    show (Language.ofNumber? l.number).map _ = _
    rw [Language.ofNumber?_number, Option.map_some]
  cases c with
  | createDocument text l | createDocumentWithId id text l | getTextSimilarity c text l
  | multiGetTextSimilarity cs text l =>
    simp only [map, Request.record, Record.arguments, hlanguage, arguments]
    rfl
  | _ => rfl

end Call

namespace Request

private theorem positiveZero_record (r : Request) :
    r.operation.request.positiveZero r.record = r.record := by
  cases r <;> rfl

/-- The bytes of a request are read as its record. -/
theorem decode_record (r : Request) (hlen : r.encode.length < UInt64.size) :
    r.operation.request.decode r.encode = .ok r.record := by
  have hnumbers := Message.wellNumbered_of_mem_all _ (Message.request_mem_all r.operation)
  have hwrites := r.operation.request.writes_encode r.record
  have hdecode := Schema.decode_of_writes hnumbers hlen hwrites
  rwa [positiveZero_record] at hdecode

/-- The bytes of a request are read as that request. -/
theorem decode_encode (r : Request) (hlen : r.encode.length < UInt64.size) :
    decode r.operation r.encode = .ok r := by
  rw [decode, decode_record r hlen, Except.map, ofRecord_record]

/-- Requests for one operation with the same bytes are the same request. -/
theorem eq_of_encode_eq {r r' : Request} (hop : r'.operation = r.operation)
    (hlen : r.encode.length < UInt64.size) (h : r'.encode = r.encode) : r' = r := by
  have hr : decode r.operation r.encode = .ok r := decode_encode r hlen
  have hr' : decode r'.operation r'.encode = .ok r' := decode_encode r' (h ▸ hlen)
  rw [hop, h, hr] at hr'
  exact (Except.ok.inj hr').symm

end Request

namespace Draft

/-- The call with what its caller left out: a flag is not set, and a text is in English. -/
def filled (d : Draft) : Call Bool Language := d.map (·.getD false) (·.getD .english)

private theorem request_eq (d : Draft) : d.request = d.filled.map (fun b ↦ b) Language.number := by
  rw [filled, Call.map_map]
  rfl

private theorem filled_eq (d : Draft) :
    d.filled = d.request.map (fun b ↦ b) fun n ↦ (Language.ofNumber? n).getD .english := by
  rw [request_eq, Call.map_map]
  simp only [Language.ofNumber?_number, Option.getD_some]
  exact (Call.map_id d.filled).symm

/-- A request is for the operation of its draft. -/
theorem operation_request (d : Draft) : d.request.operation = d.operation :=
  Call.operation_map _ _ d

/-- The bytes that are sent for a call are read as a message whose fields are the arguments of the
call by name, filled in where its caller left them out, and which is taken for the request for them.
So two calls for one operation are sent as the same bytes exactly if they are the same call once
they are filled in. There may be no more bytes than a number of 64 bits can count. -/
theorem decode_sent (d : Draft) (hlen : d.request.encode.length < UInt64.size) :
    (∃ record, d.operation.request.decode d.request.encode = .ok record ∧
      Record.arguments d.operation.request.fields record =
        d.filled.arguments.map (fun a ↦ (a.1, some a.2)) ∧
      Request.ofRecord d.operation record = d.filled.map (fun b ↦ b) Language.number) ∧
    ∀ d' : Draft, d'.operation = d.operation →
      (d'.request.encode = d.request.encode ↔ d'.filled = d.filled) := by
  refine ⟨?_, fun d' hop ↦ ⟨fun h ↦ ?_, fun h ↦ ?_⟩⟩
  · rw [← operation_request]
    refine ⟨d.request.record, d.request.decode_record hlen, ?_, ?_⟩
    · rw [request_eq]
      exact d.filled.arguments_record
    · rw [Request.ofRecord_record, request_eq]
  · have hop' : d'.request.operation = d.request.operation := by
      rw [operation_request, operation_request, hop]
    rw [filled_eq, filled_eq, Request.eq_of_encode_eq hop' hlen h]
  · rw [request_eq, request_eq, h]

/-- Documents to be added are read in the order in which they are written, an empty id and a
repeated one included. A flag that is left out is sent as one that is not set, and documents in
another order are sent otherwise. -/
theorem decode_sent_members :
    let d : Draft := .addDocumentsToCentroid "c" ["z", "", "z"] none
    d.request.encode.length < UInt64.size ∧
    (∃ record, d.operation.request.decode d.request.encode = .ok record ∧
      Record.arguments d.operation.request.fields record =
        [("centroid_id", some (.text "c")), ("document_ids", some (.texts ["z", "", "z"])),
          ("ignore_already_in_centroid", some (.flag false))]) ∧
    (Draft.request (.addDocumentsToCentroid "c" ["z", "", "z"] (some false))).encode =
      d.request.encode ∧
    (Draft.request (.addDocumentsToCentroid "c" ["", "z", "z"] none)).encode ≠
      d.request.encode := by
  intro d
  have hlen : d.request.encode.length < UInt64.size := by decide +kernel
  obtain ⟨⟨record, hdecode, harguments, -⟩, hsame⟩ := decode_sent d hlen
  refine ⟨hlen, ⟨record, hdecode, harguments⟩, (hsame _ rfl).2 rfl, ?_⟩
  rw [ne_eq, hsame (.addDocumentsToCentroid "c" ["", "z", "z"] none) rfl]
  decide

end Draft

end CentroidRpc
