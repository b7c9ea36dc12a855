import CentroidRpc.Proofs.Dict
import CentroidRpc.Wire.FieldType

/-!
# One value of a message over another

What is left of two values of a message whose bytes come one after the other (`Schema.overlay`): a
scalar that is written takes the stead of the earlier one, lists and dictionaries grow, and messages
are laid over each other field by field. Over the absent value any value is as it was, but for the
sign of a zero that is not written (`Schema.absent_overlay`).
-/

namespace CentroidRpc

/-- Positive zero in the stead of negative zero, and every other double as it is. -/
def Double.positiveZero (x : Double) : Double := if x = negZero then zero else x

namespace Wire

namespace Record

variable {τ : Type} [FieldSort τ]

/-- Changes the value of every field. -/
def mapFields (f : (t : τ) → FieldSort.Value t → FieldSort.Value t) :
    (fs : List (FieldDecl τ)) → Record fs → Record fs
  | [], _ => ()
  | d :: fs, (v, r) => (f d.type v, mapFields f fs r)

/-- Brings two records together field by field. -/
def zipFields (f : (t : τ) → FieldSort.Value t → FieldSort.Value t → FieldSort.Value t) :
    (fs : List (FieldDecl τ)) → Record fs → Record fs → Record fs
  | [], _, _ => ()
  | d :: fs, (v, r), (v', r') => (f d.type v v', zipFields f fs r r')

/-- What is found in the fields, one after the other. -/
def collect {α : Type} (f : (t : τ) → FieldSort.Value t → List α) :
    (fs : List (FieldDecl τ)) → Record fs → List α
  | [], _ => []
  | d :: fs, (v, r) => f d.type v ++ collect f fs r

private theorem zipFields_absent {overlay : (t : τ) → FieldSort.Value t → FieldSort.Value t →
      FieldSort.Value t} {f : (t : τ) → FieldSort.Value t → FieldSort.Value t}
    (h : ∀ t v, overlay t (FieldSort.absent t) v = f t v) (fs : List (FieldDecl τ))
    (r : Record fs) : zipFields overlay fs (absent fs) r = mapFields f fs r := by
  induction fs with
  | nil => rfl
  | cons d fs ih =>
    obtain ⟨v, r⟩ := r
    rw [absent, zipFields, mapFields, h, ih]

private theorem mapFields_eq_self {α : Type} {bad : α}
    {found : (t : τ) → FieldSort.Value t → List α}
    {f : (t : τ) → FieldSort.Value t → FieldSort.Value t}
    (h : ∀ t v, bad ∉ found t v → f t v = v) (fs : List (FieldDecl τ)) (r : Record fs)
    (hr : bad ∉ collect found fs r) : mapFields f fs r = r := by
  induction fs with
  | nil => rfl
  | cons d fs ih =>
    obtain ⟨v, r⟩ := r
    rw [collect, List.mem_append, not_or] at hr
    rw [mapFields, h _ _ hr.1, ih r hr.2]

end Record

namespace Scalar

/-- Positive zero in the stead of negative zero. -/
def positiveZero : (s : Scalar) → s.Value → s.Value
  | double, v => v.positiveZero
  | text, v | int32, v | uint64, v | bool, v => v

/-- The doubles that a scalar is. -/
def doubles : (s : Scalar) → s.Value → List Double
  | double, v => [v]
  | text, _ | int32, _ | uint64, _ | bool, _ => []

/-- A scalar that need not be written is zero but for its sign. -/
theorem ite_isZero (s : Scalar) (v : s.Value) :
    (if s.isZero v then s.zero else v) = s.positiveZero v := by
  cases s with
  | text =>
    by_cases hv : v = ""
    · subst hv
      rfl
    · exact if_neg fun h ↦ hv (String.isEmpty_iff.1 h)
  | int32 => exact ite_eq_right_iff.2 fun h ↦ (eq_of_beq h).symm
  | uint64 => exact ite_eq_right_iff.2 fun h ↦ (eq_of_beq h).symm
  | bool => cases v <;> rfl
  | double =>
    show (if Double.isZero v then Double.zero else v) = if v = .negZero then .zero else v
    by_cases hneg : v = .negZero
    · rw [if_pos hneg, if_pos (Double.isZero_iff.2 (.inr hneg))]
    · rw [if_neg hneg]
      exact ite_eq_right_iff.2 fun h ↦ ((Double.isZero_iff.1 h).resolve_right hneg).symm

private theorem positiveZero_eq_self {s : Scalar} {v : s.Value} (h : .negZero ∉ s.doubles v) :
    s.positiveZero v = v := by
  cases s with
  | double => exact if_neg fun hv ↦ h (List.mem_singleton.2 hv.symm)
  | text | int32 | uint64 | bool => rfl

end Scalar

namespace LeafType

/-- A value over another one. -/
def overlay : (t : LeafType) → t.Value → t.Value → t.Value
  | plain s, old, new => if s.isZero new then old else new
  | optional _, old, new => new.or old

/-- Positive zero in the stead of negative zero, where it stands for absence. -/
def positiveZero : (t : LeafType) → t.Value → t.Value
  | plain s, v => s.positiveZero v
  | optional _, v => v

/-- The doubles in a leaf. -/
def doubles : (t : LeafType) → t.Value → List Double
  | plain s, v => s.doubles v
  | optional s, v => v.toList.flatMap s.doubles

/-- Over the absent value a leaf is as it was but for the sign of zero. -/
theorem absent_overlay (t : LeafType) (v : t.Value) :
    t.overlay t.absent v = t.positiveZero v := by
  cases t with
  | plain s => exact s.ite_isZero v
  | optional s => exact Option.or_none

private theorem positiveZero_eq_self (t : LeafType) (v : t.Value) (h : .negZero ∉ t.doubles v) :
    t.positiveZero v = v := by
  cases t with
  | plain s => exact Scalar.positiveZero_eq_self h
  | optional s => rfl

end LeafType

namespace FieldType

/-- A value over another one. -/
def overlay : (t : FieldType) → t.Value → t.Value → t.Value
  | leaf t, old, new => t.overlay old new
  | repeated _, old, new => old ++ new
  | dict s, old, new => old.override (new.map s.positiveZero)
  | message _, old, none => old
  | message m, old, some new =>
    some (Record.zipFields LeafType.overlay m.fields (old.getD m.absent) new)

/-- Positive zero in the stead of negative zero, where it stands for absence. -/
def positiveZero : (t : FieldType) → t.Value → t.Value
  | leaf t, v => t.positiveZero v
  | repeated _, v => v
  | dict s, v => v.map s.positiveZero
  | message m, v => v.map (Record.mapFields LeafType.positiveZero m.fields)

/-- The doubles in a field. -/
def doubles : (t : FieldType) → t.Value → List Double
  | leaf t, v => t.doubles v
  | repeated s, v => v.flatMap s.doubles
  | dict s, v => v.values.flatMap s.doubles
  | message m, v => v.toList.flatMap (Record.collect LeafType.doubles m.fields)

/-- Over the absent value a field is as it was but for the sign of zero. -/
theorem absent_overlay (t : FieldType) (v : t.Value) :
    t.overlay t.absent v = t.positiveZero v := by
  cases t with
  | leaf t => exact t.absent_overlay v
  | repeated s => exact List.nil_append v
  | dict s => exact Dict.empty_override _
  | message m =>
    cases v with
    | none => rfl
    | some v => exact congrArg some (Record.zipFields_absent LeafType.absent_overlay m.fields v)

private theorem positiveZero_eq_self (t : FieldType) (v : t.Value) (h : .negZero ∉ t.doubles v) :
    t.positiveZero v = v := by
  cases t with
  | leaf t => exact t.positiveZero_eq_self v h
  | repeated s => rfl
  | dict s =>
    have hvalues : ∀ e ∈ v.entries, s.positiveZero e.2 = e.2 := by
      intro e he
      apply Scalar.positiveZero_eq_self
      intro hneg
      exact h (List.mem_flatMap.2 ⟨e.2, List.mem_map.2 ⟨e, he, rfl⟩, hneg⟩)
    have hentries : v.entries.map (fun e ↦ (e.1, s.positiveZero e.2)) = v.entries.map id := by
      apply List.map_congr_left
      intro e he
      rw [hvalues e he]
      rfl
    show Dict.mk _ _ = v
    congr 1
    rw [hentries, List.map_id]
  | message m =>
    cases v with
    | none => rfl
    | some v =>
      have hv : .negZero ∉ Record.collect LeafType.doubles m.fields v := by
        intro hneg
        exact h (List.mem_flatMap.2 ⟨v, List.mem_singleton.2 rfl, hneg⟩)
      exact congrArg some (Record.mapFields_eq_self LeafType.positiveZero_eq_self m.fields v hv)

end FieldType

namespace Schema

variable (m : Schema FieldType)

/-- A value over another one, field by field. -/
def overlay (old new : m.Value) : m.Value := Record.zipFields FieldType.overlay m.fields old new

/-- Positive zero in the stead of negative zero, where it stands for absence. -/
def positiveZero (v : m.Value) : m.Value := Record.mapFields FieldType.positiveZero m.fields v

/-- The doubles in a message. -/
def doubles (v : m.Value) : List Double := Record.collect FieldType.doubles m.fields v

/-- Over the absent value a message is as it was but for the signs of zeros. -/
theorem absent_overlay (v : m.Value) : m.overlay m.absent v = m.positiveZero v :=
  Record.zipFields_absent FieldType.absent_overlay m.fields v

/-- A message without negative zero is left alone. -/
theorem positiveZero_eq_self {v : m.Value} (h : .negZero ∉ m.doubles v) : m.positiveZero v = v :=
  Record.mapFields_eq_self FieldType.positiveZero_eq_self m.fields v h

end Schema

end Wire

end CentroidRpc
