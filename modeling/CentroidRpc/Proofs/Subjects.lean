import CentroidRpc.Proofs.Arguments
import CentroidRpc.Proofs.Outcome

/-!
# The ids that an error speaks of

Which arguments of an operation are ids, and of what, is said by their names
(`Operation.subject?`). A failure is about centroids or about documents, and the error it becomes
speaks of just those ids that its caller passed as such (`Draft.error_names_passed`). The ids at
which two of the listings start are no part of this: their operations have one request in common,
which names nothing.
-/

namespace CentroidRpc

/-- What an id can be the id of. -/
inductive Subject where
  | centroid
  | document
  deriving DecidableEq, Repr

/-- What a failure is about; one that is not known is about nothing. -/
def Failure.subject? : Failure → Option Subject
  | centroidDoesNotExist | centroidAlreadyExists => some .centroid
  | documentDoesNotExist | documentAlreadyExists => some .document
  | documentAlreadyInCentroid | documentNotInCentroid => some .document
  | unknownException => none

namespace Operation

/-- What an operation is about if it calls an id nothing but an id. -/
def topic? : Operation → Option Subject
  | createCentroid | multiCreateCentroids | deleteCentroid | multiDeleteCentroids => some .centroid
  | joinCentroid | multiJoinCentroids | listCentroidRangeFromId => some .centroid
  | createDocumentWithId | deleteDocument | multiDeleteDocuments => some .document
  | getDocumentMetadata | listDocumentRangeFromId => some .document
  | _ => none

/-- What the argument with a name is the id of. -/
def subject? (op : Operation) (name : String) : Option Subject :=
  if name ∈ ["centroid_id", "centroid_ids", "centroid_1_id", "centroid_2_id"] then some .centroid
  else if name ∈ ["document_id", "document_ids"] then some .document
  else if name ∈ ["id", "ids"] then op.topic?
  else none

end Operation

/-- The ids in an argument that is one id or a list of them. -/
def Argument.ids : Argument → List String
  | text s => [s]
  | texts l => l
  | _ => []

/-- The ids of some kind that are passed to a call, in the order in which they are written. -/
def Draft.passed (d : Draft) (kind : Subject) : List String :=
  (d.filled.arguments.filter fun a ↦ d.operation.subject? a.1 = some kind).flatMap (·.2.ids)

/-- What names centroids and documents: a request, or what was noted down of it. -/
class Naming (ρ : Type) where
  centroids : ρ → List String
  documents : ρ → List String

instance {φ ℓ : Type} : Naming (Call φ ℓ) := ⟨Call.centroids, Call.documents⟩

instance : Naming Subjects := ⟨Subjects.centroids, Subjects.documents⟩

section Naming

variable {ρ : Type} [Naming ρ]

/-- What is noted down of something that names centroids and documents. -/
def Subjects.of (x : ρ) : Subjects := ⟨Naming.centroids x, Naming.documents x⟩

/-- The ids that a failure is about. -/
def Failure.idsNamed (x : ρ) : Failure → List String
  | centroidDoesNotExist | centroidAlreadyExists => Naming.centroids x
  | documentDoesNotExist | documentAlreadyExists => Naming.documents x
  | documentAlreadyInCentroid | documentNotInCentroid => Naming.documents x
  | unknownException => []

/-- The error that a status reports about the ids that something names. -/
def Status.errorAbout? (s : Status) (x : ρ) : Option CallError :=
  match StatusCode.ofNumber? s.code with
  | some .ok => none
  | some (.failed f) => some (.reported f (f.idsNamed x) s.message)
  | none => some (.unrecognised s.code s.message)

/-- An error is about the same ids whether they are noted down first or not. -/
theorem Status.errorAbout?_eq (s : Status) (x : ρ) :
    s.errorAbout? x = s.error? (Subjects.of x) := by
  have hids (f : Failure) : f.idsNamed x = f.idsIn (Subjects.of x) := by cases f <;> rfl
  cases hcode : StatusCode.ofNumber? s.code with
  | none => simp only [errorAbout?, error?, hcode]
  | some c =>
    cases c with
    | ok => simp only [errorAbout?, error?, hcode]
    | failed f => simp only [errorAbout?, error?, hcode, hids]

end Naming

namespace CallError

variable (f : Failure) (ids : List String) {detail : Option String}

private theorem text_of_detail {words : String} (h : words ≠ "") :
    (reported f ids (some words)).text = f.text ++ ": " ++ words := by
  have hkept : (some words).filter (!·.isEmpty) = some words := by
    simpa [Option.filter_some] using h
  show reportedText f ids (some words) = _
  unfold reportedText
  rw [hkept]

private theorem text_of_no_detail (h : detail = none ∨ detail = some "") :
    (reported f ids detail).text =
      if ids = [] then f.text else f.text ++ ": " ++ ", ".intercalate ids := by
  have hgone : detail.filter (!·.isEmpty) = none := by
    rcases h with rfl | rfl
    · rfl
    · rfl
  show reportedText f ids detail = _
  unfold reportedText
  rw [hgone]
  cases ids with
  | nil => rfl
  | cons id ids => rfl

end CallError

namespace Draft

variable {d : Draft}

/-- A request names the ids that are passed, unless they are where a listing starts. -/
theorem subjects_request (hcentroid : d.operation ≠ .listCentroidRangeFromId)
    (hdocument : d.operation ≠ .listDocumentRangeFromId) :
    d.request.subjects = ⟨d.passed .centroid, d.passed .document⟩ := by
  cases d with
  | listCentroidRangeFromId id count => exact absurd rfl hcentroid
  | listDocumentRangeFromId id count => exact absurd rfl hdocument
  | _ => simp [Call.subjects, Call.centroids, Call.documents, request, Call.map, passed, filled,
      Call.arguments, Operation.subject?, Operation.topic?, Argument.ids]

/-- A failure is about the ids that are passed of its kind. -/
theorem idsIn_subjects (hcentroid : d.operation ≠ .listCentroidRangeFromId)
    (hdocument : d.operation ≠ .listDocumentRangeFromId) (f : Failure) :
    f.idsIn d.request.subjects = f.subject?.elim [] d.passed := by
  rw [subjects_request hcentroid hdocument]
  cases f <;> rfl

/-- A status code from one to seven is the failure with that number, about just the ids that the
caller passed of the kind that the failure is about. Its words are those of the failure, and then
those of the service, or else the ids, if there are any. It does not matter whether the ids are
taken from the request or were noted down before. -/
theorem error_names_passed (hcentroid : d.operation ≠ .listCentroidRangeFromId)
    (hdocument : d.operation ≠ .listDocumentRangeFromId) {s : Status} (h₁ : 1 ≤ s.code)
    (h₇ : s.code ≤ 7) :
    ∃ e f, s.errorAbout? d.request = some e ∧ s.errorAbout? (Subjects.of d.request) = some e ∧
      (∀ response, response.envelope = some s → d.request.conclude (.ok response) = .error e) ∧
      e.failure? = some f ∧ f.number = s.code ∧ e.ids = f.subject?.elim [] d.passed ∧
      (∀ words, s.message = some words → words ≠ "" → e.text = f.text ++ ": " ++ words) ∧
      (s.message = none ∨ s.message = some "" →
        e.text = if e.ids = [] then f.text else f.text ++ ": " ++ ", ".intercalate e.ids) := by
  obtain ⟨f, hnumber, herror⟩ := Status.error?_of_failure h₁ h₇ d.request.subjects
  refine ⟨.reported f (f.idsIn d.request.subjects) s.message, f, ?_, ?_,
    fun response henvelope ↦ ?_, rfl, hnumber, idsIn_subjects hcentroid hdocument f,
    fun words hwords hne ↦ ?_, fun hnone ↦ ?_⟩
  · rw [Status.errorAbout?_eq]
    exact herror
  · rw [Status.errorAbout?_eq]
    exact herror
  · show (response.outcome d.request.subjects).map _ = _
    rw [Response.outcome, henvelope, Option.bind_some, herror]
    rfl
  · rw [hwords]
    exact CallError.text_of_detail f _ hne
  · exact CallError.text_of_no_detail f _ hnone

/-- Documents that are not there are named as they were written, the repeated one included. -/
theorem error_names_passed_missing :
    let d : Draft := .addDocumentsToCentroid "c" ["b", "a", "b"] none
    d.passed .document = ["b", "a", "b"] ∧
    ∃ e, (⟨3, some ""⟩ : Status).errorAbout? d.request = some e ∧ e.ids = ["b", "a", "b"] ∧
      e.text = "Document does not exist: b, a, b" := by
  intro d
  obtain ⟨e, f, herror, -, -, -, hnumber, hids, -, htext⟩ :=
    error_names_passed (d := d) nofun nofun (s := ⟨3, some ""⟩) (by decide) (by decide)
  have hf : f = .documentDoesNotExist := by
    cases f
    all_goals first | rfl | exact absurd hnumber (by decide)
  subst hf
  have hpassed : d.passed .document = ["b", "a", "b"] := by decide
  have hids' : e.ids = ["b", "a", "b"] := hids.trans hpassed
  refine ⟨hpassed, e, herror, hids', ?_⟩
  rw [htext (.inr rfl), hids']
  decide

end Draft

end CentroidRpc
