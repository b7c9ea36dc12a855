import CentroidRpc.Proofs.Wire.Takes
import CentroidRpc.Wire.FieldType

/-!
# Readers that look no further than what they take

Whenever an exact reader succeeds, it has taken some bytes from the front, and it takes them in the
same way whatever comes after them (`Reader.Exact`). The loops over elements count the bytes that
are left, but each element takes a byte or more, so that they too come to the same end. Hence bytes
are read as a message exactly if its fields can be taken from them one after the other
(`Schema.decode_eq_ok_iff`).
-/

namespace CentroidRpc.Wire

/-- A number of variable length ends where it ends, whatever comes after it. -/
theorem readGroups?_eq_some {room n : Nat} {bs rest : Bytes}
    (h : readGroups? room bs = some (n, rest)) :
    ∃ taken, bs = taken ++ rest ∧
      ∀ rest', readGroups? room (taken ++ rest') = some (n, rest') := by
  induction room generalizing bs n with
  | zero => cases h
  | succ room ih =>
    cases bs with
    | nil => cases h
    | cons b bs =>
      rw [readGroups?] at h
      by_cases hlast : b < 128
      · rw [if_pos hlast] at h
        by_cases hover : (room = 0 && 1 < b) = true
        · rw [if_pos hover] at h
          cases h
        · rw [if_neg hover] at h
          obtain ⟨rfl, rfl⟩ := Prod.mk.inj (Option.some.inj h)
          refine ⟨[b], rfl, fun rest' ↦ ?_⟩
          rw [List.singleton_append, readGroups?, if_pos hlast, if_neg hover]
      · rw [if_neg hlast] at h
        obtain ⟨⟨high, tail⟩, htail, hvalue⟩ := Option.map_eq_some_iff.1 h
        obtain ⟨rfl, rfl⟩ := Prod.mk.inj hvalue
        obtain ⟨taken, rfl, hread⟩ := ih htail
        refine ⟨b :: taken, rfl, fun rest' ↦ ?_⟩
        rw [List.cons_append, readGroups?, if_neg hlast, hread rest']
        rfl

namespace Reader

variable {α β σ : Type} {bs cs rest : Bytes}

/-- Two readers have succeeded one after the other exactly if each of them has. -/
theorem bind_eq_ok {r : Reader α} {f : α → Reader β} {b : β} :
    (r >>= f) bs = .ok (b, rest) ↔
      ∃ a left, r bs = .ok (a, left) ∧ f a left = .ok (b, rest) := by
  rw [bind_apply]
  cases r bs with
  | error fault => exact ⟨nofun, fun ⟨_, _, h, _⟩ ↦ nomatch h⟩
  | ok p =>
    constructor
    · intro h
      exact ⟨p.1, p.2, rfl, h⟩
    · rintro ⟨a, left, hp, hf⟩
      rw [Except.ok.inj hp]
      exact hf

/-- Whatever a reader succeeds with, it takes exactly some bytes from the front as that. -/
def Exact (r : Reader α) : Prop :=
  ∀ bs a rest, r bs = .ok (a, rest) → ∃ taken, bs = taken ++ rest ∧ Takes r taken a

private theorem exact_pure (a : α) : Exact (pure a : Reader α) := by
  intro bs b rest h
  obtain ⟨rfl, rfl⟩ := Prod.mk.inj (Except.ok.inj h)
  exact ⟨[], rfl, takes_pure a⟩

private theorem exact_fail (c : Cause) : Exact (fail c : Reader α) := nofun

/-- Two exact readers one after the other are exact. -/
theorem Exact.bind {r : Reader α} {f : α → Reader β} (h : Exact r) (hf : ∀ a, Exact (f a)) :
    Exact (r >>= f) := by
  intro bs b rest hb
  obtain ⟨a, left, ha, hfa⟩ := bind_eq_ok.1 hb
  obtain ⟨front, rfl, htake⟩ := h bs a left ha
  obtain ⟨back, rfl, htake'⟩ := hf a left b rest hfa
  exact ⟨front ++ back, (List.append_assoc ..).symm, htake.bind htake'⟩

/-- Changing the value of a reader keeps it exact. -/
theorem Exact.map {r : Reader α} (h : Exact r) (f : α → β) : Exact (do return f (← r)) :=
  h.bind fun a ↦ exact_pure (f a)

/-- Dropping the value of a reader is going on with none. -/
theorem discard_eq_bind (r : Reader α) : discard r = r >>= fun _ ↦ pure () := by
  funext bs
  rw [bind_apply]
  show StateT.map _ r bs = _
  unfold StateT.map
  cases r bs <;> rfl

/-- Dropping the value of a reader keeps it exact. -/
theorem Exact.discard {r : Reader α} (h : Exact r) : Exact (discard r) := by
  rw [discard_eq_bind]
  exact h.map fun _ ↦ ()

/-- Placing the faults of a reader keeps it exact. -/
theorem Exact.within {r : Reader α} (h : Exact r) (message field : String) :
    Exact (r.within message field) := by
  intro bs a rest ha
  change (r bs).mapError _ = .ok (a, rest) at ha
  cases hr : r bs with
  | error fault =>
    rw [hr] at ha
    cases ha
  | ok p =>
    rw [hr] at ha
    obtain rfl : p = (a, rest) := Except.ok.inj ha
    obtain ⟨taken, hbs, htake⟩ := h bs a rest hr
    exact ⟨taken, hbs, htake.within message field⟩

private theorem exact_varint : Exact varint := by
  intro bs n rest h
  cases hread : readVarint? bs with
  | none =>
    simp only [varint, hread] at h
    cases h
  | some p =>
    simp only [varint, hread] at h
    obtain rfl := Except.ok.inj h
    obtain ⟨taken, hbs, htake⟩ := readGroups?_eq_some hread
    refine ⟨taken, hbs, fun rest' ↦ ?_⟩
    have hread' : readVarint? (taken ++ rest') = some (n, rest') := htake rest'
    simp only [varint, hread']

private theorem exact_take (n : Nat) : Exact (take n) := by
  intro bs front rest h
  rw [take] at h
  split at h
  · cases h
  · next hle =>
    obtain ⟨rfl, rfl⟩ := Prod.mk.inj (Except.ok.inj h)
    refine ⟨bs.take n, (List.take_append_drop n bs).symm, fun rest' ↦ ?_⟩
    have hlen : (bs.take n).length = n := by
      rw [List.length_take]
      omega
    have htake := take_append (bs.take n) rest'
    rwa [hlen] at htake

private theorem exact_block : Exact block := exact_varint.bind exact_take

private theorem exact_expect (expected actual : WireType) : Exact (expect expected actual) := by
  unfold expect
  split
  · exact exact_pure ()
  · exact exact_fail _

private theorem exact_key : Exact key := by
  refine exact_varint.bind fun n ↦ ?_
  split
  · exact exact_fail _
  · split
    · exact exact_fail _
    · split
      · exact exact_fail _
      · exact exact_pure _

/-- A reader that finds nothing in no bytes. -/
def Needy (r : Reader α) : Prop := ∀ p, r [] ≠ .ok p

/-- Of two readers it is enough that the first one finds nothing in no bytes. -/
theorem Needy.bind {r : Reader α} (h : Needy r) (f : α → Reader β) : Needy (r >>= f) := by
  rintro ⟨b, rest⟩ hb
  obtain ⟨a, left, ha, -⟩ := bind_eq_ok.1 hb
  exact h _ ha

/-- Bytes that a needy reader takes are not none. -/
theorem Needy.ne_nil {r : Reader α} (h : Needy r) {a : α} (htake : Takes r bs a) : bs ≠ [] := by
  rintro rfl
  exact h _ (htake [])

/-- There is no key in no bytes. -/
theorem needy_key : Needy key := nofun

variable {step : σ → Reader σ} {s s' s'' : σ}

/-- Elements follow each other. -/
theorem Steps.append (h : Steps step s bs s') (h' : Steps step s' cs s'') :
    Steps step s (bs ++ cs) s'' := by
  induction h with
  | done s => exact h'
  | next hne htake more ih =>
    rw [List.append_assoc]
    exact .next hne htake (ih h')

/-- What a loop over elements has taken are elements, however many turns it had. -/
theorem steps_of_elementsIn (hexact : ∀ s, Exact (step s)) (hneedy : ∀ s, Needy (step s))
    {limit turns : Nat} (h : elementsIn limit step turns s bs = .ok (s', rest)) :
    ∃ taken, bs = taken ++ rest ∧ Steps step s taken s' := by
  induction turns generalizing s bs with
  | zero =>
    obtain ⟨rfl, rfl⟩ := Prod.mk.inj (Except.ok.inj h)
    exact ⟨[], rfl, .done s⟩
  | succ turns ih =>
    rw [elementsIn, remaining_bind] at h
    split at h
    · obtain ⟨rfl, rfl⟩ := Prod.mk.inj (Except.ok.inj h)
      exact ⟨[], rfl, .done s⟩
    · obtain ⟨s₁, left, hstep, hmore⟩ := bind_eq_ok.1 h
      obtain ⟨first, rfl, htake⟩ := hexact s bs s₁ left hstep
      obtain ⟨others, rfl, hsteps⟩ := ih hmore
      have hne : first ≠ [] := (hneedy s).ne_nil htake
      exact ⟨first ++ others, (List.append_assoc ..).symm, .next hne htake hsteps⟩

/-- A loop with as many turns as there are bytes goes on as long as there are too many. -/
theorem length_le_of_elementsIn (hexact : ∀ s, Exact (step s)) (hneedy : ∀ s, Needy (step s))
    {limit turns : Nat} (hturns : bs.length ≤ turns)
    (h : elementsIn limit step turns s bs = .ok (s', rest)) : rest.length ≤ limit := by
  induction turns generalizing s bs with
  | zero =>
    obtain ⟨-, rfl⟩ := Prod.mk.inj (Except.ok.inj h)
    omega
  | succ turns ih =>
    rw [elementsIn, remaining_bind] at h
    split at h
    · next hle =>
      obtain ⟨-, rfl⟩ := Prod.mk.inj (Except.ok.inj h)
      exact hle
    · obtain ⟨s₁, left, hstep, hmore⟩ := bind_eq_ok.1 h
      obtain ⟨first, rfl, htake⟩ := hexact s bs s₁ left hstep
      have hpos : 0 < first.length := List.length_pos_iff.2 ((hneedy s).ne_nil htake)
      rw [List.length_append] at hturns
      exact ih (by omega) hmore

/-- All bytes are elements exactly if the loop over them succeeds. -/
theorem elements_eq_ok_iff (hexact : ∀ s, Exact (step s)) (hneedy : ∀ s, Needy (step s)) :
    elements 0 step s bs = .ok (s', rest) ↔ rest = [] ∧ Steps step s bs s' := by
  constructor
  · intro h
    have hlen : rest.length ≤ 0 := length_le_of_elementsIn hexact hneedy (Nat.le_refl _) h
    obtain rfl : rest = [] := List.eq_nil_of_length_eq_zero (Nat.le_zero.1 hlen)
    obtain ⟨taken, rfl, hsteps⟩ := steps_of_elementsIn hexact hneedy h
    rw [List.append_nil]
    exact ⟨rfl, hsteps⟩
  · rintro ⟨rfl, hsteps⟩
    exact hsteps.elements

private theorem exact_delimited (hexact : ∀ s, Exact (step s)) (hneedy : ∀ s, Needy (step s))
    (s : σ) :
    Exact (delimited step s) := by
  intro bs s' rest h
  obtain ⟨len, body, hlen, hbody⟩ := bind_eq_ok.1 h
  obtain ⟨front, rfl, htake⟩ := exact_varint bs len body hlen
  rw [remaining_bind] at hbody
  split at hbody
  · cases hbody
  · next hle =>
    obtain ⟨s₁, left, hloop, hrest⟩ := bind_eq_ok.1 hbody
    rw [remaining_bind] at hrest
    split at hrest
    · next hend =>
      obtain ⟨rfl, rfl⟩ := Prod.mk.inj (Except.ok.inj hrest)
      obtain ⟨taken, rfl, hsteps⟩ := steps_of_elementsIn hexact hneedy hloop
      rw [List.length_append] at hle hend
      obtain rfl : len = taken.length := by omega
      exact ⟨front ++ taken, (List.append_assoc ..).symm, hsteps.delimited_of_takes htake⟩
    · cases hrest

/-- The end of a group is found wherever it is, if there are turns enough. -/
theorem groupIn_eq_ok {skip : Key → Reader Unit} (hskip : ∀ k, Exact (skip k)) {number turns : Nat}
    (h : groupIn skip number turns bs = .ok ((), rest)) :
    ∃ taken, bs = taken ++ rest ∧ ∀ rest' turns', taken.length < turns' →
      groupIn skip number turns' (taken ++ rest') = .ok ((), rest') := by
  induction turns generalizing bs with
  | zero => cases h
  | succ turns ih =>
    obtain ⟨k, left, hkey, hfields⟩ := bind_eq_ok.1 h
    obtain ⟨front, rfl, htake⟩ := exact_key bs k left hkey
    have hfront : 0 < front.length := List.length_pos_iff.2 (needy_key.ne_nil htake)
    -- More turns than there are bytes are at least one.
    have hturn (after : Bytes) {turns' : Nat} (hlt : (front ++ after).length < turns') :
        ∃ n, turns' = n + 1 ∧ after.length < n := by
      rw [List.length_append] at hlt
      exact ⟨turns' - 1, by omega, by omega⟩
    by_cases hend : k.wire = .endGroup
    · rw [if_pos hend] at hfields
      by_cases hnumber : k.number = number
      · rw [if_pos hnumber] at hfields
        obtain ⟨-, rfl⟩ := Prod.mk.inj (Except.ok.inj hfields)
        refine ⟨front, rfl, fun rest' turns' hlt ↦ ?_⟩
        obtain ⟨n, rfl, -⟩ := hturn [] (by rwa [List.append_nil])
        rw [groupIn, bind_apply, htake rest']
        show (if k.wire = .endGroup then _ else _ : Reader Unit) rest' = _
        rw [if_pos hend, if_pos hnumber]
        rfl
      · rw [if_neg hnumber] at hfields
        cases hfields
    · rw [if_neg hend] at hfields
      obtain ⟨_, left', hfield, hmore⟩ := bind_eq_ok.1 hfields
      obtain ⟨field, rfl, htake'⟩ := hskip k left () left' hfield
      obtain ⟨others, rfl, hread⟩ := ih hmore
      refine ⟨front ++ (field ++ others), by simp only [List.append_assoc],
        fun rest' turns' hlt ↦ ?_⟩
      obtain ⟨n, rfl, hn⟩ := hturn (field ++ others) hlt
      rw [List.length_append] at hn
      rw [groupIn, bind_apply, List.append_assoc, htake, List.append_assoc]
      show (if k.wire = .endGroup then _ else _ : Reader Unit) _ = _
      rw [if_neg hend, bind_apply, htake' (others ++ rest')]
      exact hread rest' n (by omega)

private theorem exact_group {skip : Key → Reader Unit} (hskip : ∀ k, Exact (skip k))
    (number : Nat) :
    Exact (group skip number) := by
  intro bs _ rest h
  rw [group, remaining_bind] at h
  obtain ⟨taken, hbs, hread⟩ := groupIn_eq_ok hskip h
  refine ⟨taken, hbs, fun rest' ↦ ?_⟩
  rw [group, remaining_bind]
  apply hread
  rw [List.length_append]
  omega

/-- A field that is not declared is passed over exactly, with all that lies in it. -/
theorem exact_skipField (depth : Nat) (k : Key) : Exact (skipField depth k) := by
  induction depth generalizing k with
  | zero => exact exact_fail _
  | succ depth ih =>
    unfold skipField
    split
    · exact exact_varint.discard
    · exact (exact_take 8).discard
    · exact (exact_take 4).discard
    · exact exact_block.discard
    · exact exact_group ih k.number
    · exact exact_fail _

end Reader

open Reader

namespace Scalar

private theorem exact_read (s : Scalar) : Exact s.read := by
  cases s with
  | text =>
    refine exact_block.bind fun bs ↦ ?_
    split
    · exact exact_pure _
    · exact exact_fail _
  | int32 => exact exact_varint.map _
  | uint64 => exact exact_varint.map _
  | bool => exact exact_varint.map _
  | double => exact (exact_take 8).map _

/-- There is no scalar in no bytes. -/
theorem needy_read (s : Scalar) : Needy s.read := by
  cases s <;> nofun

private theorem exact_readAs (s : Scalar) (w : WireType) : Exact (s.readAs w) :=
  (exact_expect s.wire w).bind fun _ ↦ s.exact_read

end Scalar

private theorem LeafType.exact_merge (t : LeafType) (w : WireType) (v : t.Value) :
    Exact (t.merge w v) := by
  cases t with
  | plain s => exact s.exact_readAs w
  | optional s => exact (s.exact_readAs w).map some

private theorem Record.exact_mergeField {τ : Type} [FieldSort τ] (message : String) (k : Key)
    (depth : Nat) (hmerge : ∀ (t : τ) v, Exact (FieldSort.merge t k.wire depth v))
    (fs : List (FieldDecl τ)) (r : Record fs) : Exact (mergeField message k depth fs r) := by
  induction fs with
  | nil => exact (exact_skipField depth k).bind fun _ ↦ exact_pure r
  | cons f fs ih =>
    obtain ⟨v, r⟩ := r
    rw [mergeField]
    split
    · exact ((hmerge f.type v).within message f.name).bind fun v ↦ exact_pure (v, r)
    · exact (ih r).bind fun r ↦ exact_pure (v, r)

namespace Schema

variable {τ : Type} [FieldSort τ]

private theorem exact_mergeNext (m : Schema τ) (depth : Nat)
    (hmerge : ∀ (t : τ) w v, Exact (FieldSort.merge t w depth v)) (r : m.Value) :
    Exact (m.mergeNext depth r) :=
  exact_key.bind fun k ↦ Record.exact_mergeField m.name k depth (fun t v ↦ hmerge t k.wire v) _ r

/-- There is no field in no bytes. -/
theorem needy_mergeNext (m : Schema τ) (depth : Nat) (r : m.Value) : Needy (m.mergeNext depth r) :=
  needy_key.bind _

end Schema

private theorem exact_mergeEntry (s : Scalar) (depth : Nat) (e : String × s.Value) :
    Exact (mergeEntry s depth e) := by
  refine exact_key.bind fun k ↦ ?_
  split
  · exact (Scalar.text.exact_readAs k.wire).map fun key ↦ (key, e.2)
  · exact (s.exact_readAs k.wire).map fun v ↦ (e.1, v)
  · exact (exact_skipField depth k).bind fun _ ↦ exact_pure e

namespace FieldType

private theorem exact_descend {α : Type} (depth : Nat) {r : Nat → Reader α} (h : ∀ d, Exact (r d)) :
    Exact (descend depth r) := by
  cases depth with
  | zero => exact exact_fail _
  | succ depth => exact h depth

private theorem exact_merge (t : FieldType) (w : WireType) (depth : Nat) (v : t.Value) :
    Exact (t.merge w depth v) := by
  cases t with
  | leaf t => exact t.exact_merge w v
  | repeated s =>
    rw [merge]
    split
    · refine exact_delimited (fun vs ↦ s.exact_read.map fun v ↦ vs ++ [v]) (fun vs ↦ ?_) v
      exact s.needy_read.bind _
    · exact (s.exact_readAs w).map fun new ↦ v ++ [new]
  | dict s =>
    refine exact_descend depth fun depth ↦ ?_
    have hentry :=
      exact_delimited (exact_mergeEntry s depth) (fun e ↦ needy_key.bind _) ("", s.zero)
    exact hentry.bind fun e ↦ exact_pure (v.insert e.1 e.2)
  | message m =>
    refine (exact_expect .lengthDelimited w).bind fun _ ↦ exact_descend depth fun depth ↦ ?_
    refine (exact_delimited ?_ (m.needy_mergeNext depth) (v.getD m.absent)).map some
    exact m.exact_mergeNext depth fun t w v ↦ t.exact_merge w v

end FieldType

namespace Schema

variable {m : Schema FieldType}

/-- Bytes are read as a value exactly if it is what their fields, taken one after the other, make of
the absent value. -/
theorem decode_eq_ok_iff {bs : Bytes} {v : m.Value} :
    m.decode bs = .ok v ↔ Steps (m.mergeNext maxDepth) m.absent bs v := by
  have hexact := m.exact_mergeNext maxDepth fun t w v ↦ t.exact_merge w maxDepth v
  have hsteps {rest : Bytes} {v : m.Value} : m.reader maxDepth bs = .ok (v, rest) ↔
      rest = [] ∧ Steps (m.mergeNext maxDepth) m.absent bs v :=
    elements_eq_ok_iff hexact (m.needy_mergeNext maxDepth)
  constructor
  · intro h
    cases hread : m.reader maxDepth bs with
    | error fault =>
      simp only [decode, hread, Except.map] at h
      cases h
    | ok p =>
      simp only [decode, hread, Except.map] at h
      obtain rfl := Except.ok.inj h
      exact (hsteps.1 hread).2
  · intro h
    rw [decode, hsteps.2 ⟨rfl, h⟩]
    rfl

end Schema

end CentroidRpc.Wire
