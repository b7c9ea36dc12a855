import CentroidRpc.Wire.Record

/-!
# Readers that take exactly what is in front of them

A reader that takes given bytes as a value does so whatever comes after them (`Reader.Takes`).
Readers that run one after the other take bytes that stand one after the other, so the law of a
message is put together from the laws of its parts. A reader of elements takes a sequence of them
(`Reader.Steps`), and a part of stated length is taken by its elements (`Steps.delimited`).
-/

namespace CentroidRpc.Wire

namespace Reader

variable {α β σ : Type} {bs cs : Bytes}

/-- Takes given bytes as a value, whatever comes after them. -/
def Takes (r : Reader α) (bs : Bytes) (a : α) : Prop := ∀ rest, r (bs ++ rest) = .ok (a, rest)

/-- A value that is given takes nothing. -/
theorem takes_pure (a : α) : Takes (pure a) [] a := fun _ ↦ rfl

/-- Two readers take their bytes one after the other. -/
theorem Takes.bind {r : Reader α} {f : α → Reader β} {a : α} {b : β} (h : Takes r bs a)
    (hf : Takes (f a) cs b) : Takes (r >>= f) (bs ++ cs) b := by
  intro rest
  rw [List.append_assoc, bind_apply, h (cs ++ rest)]
  exact hf rest

/-- Changing the value of a reader does not change what it takes. -/
theorem Takes.map {r : Reader α} {a : α} (h : Takes r bs a) (f : α → β) :
    Takes (do return f (← r)) bs (f a) := by
  have hpure : Takes (r >>= fun a ↦ pure (f a)) (bs ++ []) (f a) := h.bind (takes_pure _)
  rwa [List.append_nil] at hpure

/-- Placing the faults of a reader does not change what it takes. -/
theorem Takes.within {r : Reader α} {a : α} (h : Takes r bs a) (message field : String) :
    Takes (r.within message field) bs a := by
  intro rest
  show (r (bs ++ rest)).mapError _ = _
  rw [h rest]
  rfl

/-- The number of bytes left is told without taking any. -/
theorem remaining_bind (f : Nat → Reader α) (bs : Bytes) :
    (remaining >>= f) bs = f bs.length bs := rfl

/-- The expected wire type is let pass. -/
theorem takes_expect (w : WireType) : Takes (expect w w) [] () := by
  rw [expect, if_pos rfl]
  exact takes_pure ()

/-- The number of a wire type has room in three bits. -/
theorem wireNumber_lt (w : WireType) : w.number < 8 := by
  cases w <;> decide

/-- A key of 32 bits, however its number is written, is taken as its number and its wire type. -/
theorem takes_key_of_takes {number : Nat} {w : WireType} {front : Bytes} (h0 : 0 < number)
    (h : number * 8 + w.number < UInt32.size)
    (hfront : Takes varint front (number * 8 + w.number)) : Takes key front ⟨number, w⟩ := by
  intro rest
  have hw := wireNumber_lt w
  have hmod : (number * 8 + w.number) % 8 = w.number := by omega
  have hdiv : (number * 8 + w.number) / 8 = number := by omega
  have hwire : WireType.ofNumber? w.number = some w := WireType.ofNumber?_eq_some_iff.2 rfl
  rw [key, bind_apply, hfront]
  simp only [Except.bind]
  rw [if_neg (Nat.not_le_of_lt h), hmod, hwire, hdiv]
  simp only
  rw [if_neg (by omega)]
  rfl

/-- A key of 32 bits is taken as its number and its wire type. -/
theorem takes_key {number : Nat} (h0 : 0 < number) (h : number * 8 < UInt32.size) (w : WireType) :
    Takes key (writeKey number w) ⟨number, w⟩ := by
  have hw := wireNumber_lt w
  have hsize : number * 8 + w.number < UInt32.size := by
    simp only [UInt32.size] at h ⊢
    omega
  have hvarint : number * 8 + w.number < UInt64.size := by
    simp only [UInt32.size, UInt64.size] at hsize ⊢
    omega
  exact takes_key_of_takes h0 hsize (varint_writeVarint hvarint)

/-- Takes bytes element by element, from one state to another. No element is empty. -/
inductive Steps (step : σ → Reader σ) : σ → Bytes → σ → Prop where
  | done (s : σ) : Steps step s [] s
  | next {s s' s'' : σ} {bs cs : Bytes} (hne : bs ≠ []) (htake : Takes (step s) bs s')
      (more : Steps step s' cs s'') : Steps step s (bs ++ cs) s''

variable {step : σ → Reader σ} {s s' : σ}

/-- Elements are taken first, and the turns that are left are for the bytes after them. -/
theorem Steps.elementsIn_append (h : Steps step s bs s') {limit : Nat} {rest : Bytes}
    (hlimit : limit ≤ rest.length) (turns : Nat) (hturns : bs.length ≤ turns) :
    ∃ left, turns ≤ left + bs.length ∧
      elementsIn limit step turns s (bs ++ rest) = elementsIn limit step left s' rest := by
  induction h generalizing turns with
  | done s => exact ⟨turns, Nat.le_refl _, rfl⟩
  | @next s s₁ s₂ bs cs hne htake more ih =>
    have hpos : 0 < bs.length := List.length_pos_iff.2 hne
    have hlen : (bs ++ cs).length = bs.length + cs.length := List.length_append
    cases turns with
    | zero => omega
    | succ turns =>
      have hmore : ¬ (bs ++ cs ++ rest).length ≤ limit := by
        rw [List.length_append]
        omega
      obtain ⟨left, hleft, hread⟩ := ih turns (by omega)
      refine ⟨left, by omega, ?_⟩
      rw [Reader.elementsIn, remaining_bind, if_neg hmore, List.append_assoc, bind_apply, htake]
      exact hread

/-- Elements are taken up to the bytes after them, if there are turns enough. -/
theorem Steps.elementsIn (h : Steps step s bs s') (rest : Bytes) (turns : Nat)
    (hturns : bs.length ≤ turns) :
    elementsIn rest.length step turns s (bs ++ rest) = .ok (s', rest) := by
  obtain ⟨left, -, hread⟩ := h.elementsIn_append (Nat.le_refl rest.length) turns hturns
  rw [hread]
  cases left with
  | zero => rfl
  | succ left =>
    rw [Reader.elementsIn, remaining_bind, if_pos (Nat.le_refl _)]
    rfl

/-- Elements that are all there is are taken to the end. -/
theorem Steps.elements (h : Steps step s bs s') : elements 0 step s bs = .ok (s', []) := by
  have hall := h.elementsIn [] bs.length (Nat.le_refl _)
  rwa [List.append_nil] at hall

/-- Elements after their length, however it is written, are taken as a part of that length. -/
theorem Steps.delimited_of_takes (h : Steps step s bs s') {front : Bytes}
    (hlen : Takes varint front bs.length) : Takes (delimited step s) (front ++ bs) s' := by
  intro rest
  have hlength : (bs ++ rest).length = bs.length + rest.length := List.length_append
  have hleft : (bs ++ rest).length - bs.length = rest.length := by omega
  have hread := h.elementsIn rest (bs ++ rest).length (by omega)
  rw [List.append_assoc, Reader.delimited, bind_apply, hlen]
  simp only [Except.bind]
  rw [remaining_bind, if_neg (by omega), hleft, bind_apply, Reader.elements, remaining_bind, hread]
  simp only [Except.bind]
  rw [remaining_bind, if_pos rfl]
  rfl

/-- Elements with their length before them are taken as a part of that length. -/
theorem Steps.delimited (h : Steps step s bs s') (hlen : bs.length < UInt64.size) :
    Takes (delimited step s) (writeVarint bs.length ++ bs) s' :=
  h.delimited_of_takes (varint_writeVarint hlen)

end Reader

end CentroidRpc.Wire
