import CentroidRpc.Proofs.Wire.Overlay
import CentroidRpc.Proofs.Wire.Takes
import CentroidRpc.Proofs.Wire.Writing

/-!
# Reading what is written of a message

Fields are read one after the other, each one by its key (`Reader.Fields`). However the new value of
a field, of a record or of a message is written, reading it over an old value gives the new value
laid over the old one.
-/

namespace CentroidRpc.Wire

namespace Reader

variable {σ ρ : Type} {bs cs : Bytes} {ps qs : List Bytes}

/-- Takes fields with given numbers one after the other, from one state to another. -/
inductive Fields (merge : Key → σ → Reader σ) (numbers : List Nat) : σ → Bytes → σ → Prop where
  | done (s : σ) : Fields merge numbers s [] s
  | next {s s' s'' : σ} {bs cs : Bytes} (k : Key) (hk : k.number ∈ numbers)
      (htake : Takes (merge k s) bs s') (more : Fields merge numbers s' cs s'') :
      Fields merge numbers s (writeKey k.number k.wire ++ bs ++ cs) s''

/-- Takes one field with one of some numbers, from one state to another. -/
def OneField (merge : Key → σ → Reader σ) (numbers : List Nat) (s : σ) (bs : Bytes) (s' : σ) :
    Prop :=
  ∃ k body, k.number ∈ numbers ∧ bs = writeKey k.number k.wire ++ body ∧ Takes (merge k s) body s'

variable {merge : Key → σ → Reader σ} {numbers : List Nat} {s s' s'' : σ}

/-- A field behind its key. -/
theorem oneField (k : Key) (htake : Takes (merge k s) bs s') :
    OneField merge [k.number] s (writeKey k.number k.wire ++ bs) s' :=
  ⟨k, bs, List.mem_singleton.2 rfl, rfl, htake⟩

/-- A field is not nothing. -/
theorem OneField.ne_nil (h : OneField merge numbers s bs s') : bs ≠ [] := by
  obtain ⟨k, body, -, rfl, -⟩ := h
  exact List.append_ne_nil_of_left_ne_nil (writeVarint_ne_nil _) body

/-- A field is taken with its key. -/
theorem OneField.takes (h : OneField merge numbers s bs s')
    (hnumbers : ∀ n ∈ numbers, 0 < n ∧ n * 8 < UInt32.size) :
    Takes (do merge (← key) s) bs s' := by
  obtain ⟨k, body, hk, rfl, htake⟩ := h
  exact (takes_key (hnumbers _ hk).1 (hnumbers _ hk).2 k.wire).bind htake

/-- A field of a part of the state is a field of the whole. -/
theorem OneField.lift {merge' : Key → ρ → Reader ρ} {numbers' : List Nat} (embed : σ → ρ)
    (hmem : ∀ n ∈ numbers, n ∈ numbers')
    (hmerge : ∀ k s s' bs, k.number ∈ numbers → Takes (merge k s) bs s' →
      Takes (merge' k (embed s)) bs (embed s'))
    (h : OneField merge numbers s bs s') : OneField merge' numbers' (embed s) bs (embed s') := by
  obtain ⟨k, body, hk, hbs, htake⟩ := h
  exact ⟨k, body, hmem _ hk, hbs, hmerge k s s' body hk htake⟩

/-- A field on its own. -/
theorem OneField.fields (h : OneField merge numbers s bs s') : Fields merge numbers s bs s' := by
  obtain ⟨k, body, hk, rfl, htake⟩ := h
  have hnext := Fields.next k hk htake (.done s')
  rwa [List.append_nil] at hnext

/-- Fields follow each other. -/
theorem Fields.trans (h : Fields merge numbers s bs s') (h' : Fields merge numbers s' cs s'') :
    Fields merge numbers s (bs ++ cs) s'' := by
  induction h with
  | done s => exact h'
  | next k hk htake more ih =>
    rw [List.append_assoc]
    exact .next k hk htake (ih h')

/-- Fields of a part of the state are fields of the whole. -/
theorem Fields.lift {merge' : Key → ρ → Reader ρ} {numbers' : List Nat} (embed : σ → ρ)
    (hmem : ∀ n ∈ numbers, n ∈ numbers')
    (hmerge : ∀ k s s' bs, k.number ∈ numbers → Takes (merge k s) bs s' →
      Takes (merge' k (embed s)) bs (embed s'))
    (h : Fields merge numbers s bs s') : Fields merge' numbers' (embed s) bs (embed s') := by
  induction h with
  | done s => exact .done _
  | next k hk htake more ih => exact .next k (hmem _ hk) (hmerge k _ _ _ hk htake) ih

/-- Fields are elements that start with their keys. -/
theorem Fields.steps (h : Fields merge numbers s bs s')
    (hnumbers : ∀ n ∈ numbers, 0 < n ∧ n * 8 < UInt32.size) :
    Steps (fun s ↦ do merge (← key) s) s bs s' := by
  induction h with
  | done s => exact .done s
  | @next s s' s'' bs cs k hk htake more ih =>
    have hkey : Takes key (writeKey k.number k.wire) k :=
      takes_key (hnumbers _ hk).1 (hnumbers _ hk).2 k.wire
    have hne : writeKey k.number k.wire ++ bs ≠ [] := by
      intro hnil
      exact writeVarint_ne_nil _ (List.append_eq_nil_iff.1 hnil).1
    exact .next hne (hkey.bind htake) ih

/-- Takes pieces one after the other, from one state to another. Each of them is made of fields with
given numbers. -/
inductive Chain (merge : Key → σ → Reader σ) (numbers : List Nat) : σ → List Bytes → σ → Prop where
  | done (s : σ) : Chain merge numbers s [] s
  | next {s s' s'' : σ} {p : Bytes} {ps : List Bytes} (fields : Fields merge numbers s p s')
      (more : Chain merge numbers s' ps s'') : Chain merge numbers s (p :: ps) s''

/-- A piece on its own. -/
theorem Chain.one (h : Fields merge numbers s bs s') : Chain merge numbers s [bs] s' :=
  .next h (.done s')

private theorem Fields.eq_of_nil (h : Fields merge numbers s [] s') : s' = s := by
  generalize hbs : ([] : Bytes) = bs at h
  cases h with
  | done => rfl
  | next k hk htake more =>
    have hkey := (List.append_eq_nil_iff.1 (List.append_eq_nil_iff.1 hbs.symm).1).1
    exact absurd hkey (writeVarint_ne_nil _)

/-- A field that has at most one piece. -/
theorem chain_pieceOf (h : Fields merge numbers s bs s') :
    Chain merge numbers s (pieceOf bs) s' := by
  unfold pieceOf
  split
  · next hbs =>
    subst hbs
    rw [h.eq_of_nil]
    exact .done _
  · exact .one h

/-- Pieces follow each other. -/
theorem Chain.trans (h : Chain merge numbers s ps s') (h' : Chain merge numbers s' qs s'') :
    Chain merge numbers s (ps ++ qs) s'' := by
  induction h with
  | done s => exact h'
  | next fields more ih => exact .next fields (ih h')

/-- Pieces of a part of the state are pieces of the whole. -/
theorem Chain.lift {merge' : Key → ρ → Reader ρ} {numbers' : List Nat} (embed : σ → ρ)
    (hmem : ∀ n ∈ numbers, n ∈ numbers')
    (hmerge : ∀ k s s' bs, k.number ∈ numbers → Takes (merge k s) bs s' →
      Takes (merge' k (embed s)) bs (embed s'))
    (h : Chain merge numbers s ps s') : Chain merge' numbers' (embed s) ps (embed s') := by
  induction h with
  | done s => exact .done _
  | next fields more ih => exact .next (fields.lift embed hmem hmerge) ih

/-- Pieces that stand next to each other are fields. -/
theorem Chain.fields (h : Chain merge numbers s ps s') : Fields merge numbers s ps.flatten s' := by
  induction h with
  | done s => exact .done s
  | next fields more ih => exact fields.trans ih

end Reader

open Reader

namespace Scalar

private theorem write_ne_nil (s : Scalar) (v : s.Value) : s.write v ≠ [] := by
  cases s with
  | text => exact fun h ↦ writeVarint_ne_nil _ (List.append_eq_nil_iff.1 h).1
  | int32 | uint64 | bool => exact writeVarint_ne_nil _
  | double => exact List.cons_ne_nil _ _

private theorem takes_read {s : Scalar} {v : s.Value} (h : (s.write v).length < UInt64.size) :
    Takes s.read (s.write v) v :=
  fun rest ↦ read_write s v rest h

private theorem takes_readAs {s : Scalar} {v : s.Value} (h : (s.write v).length < UInt64.size) :
    Takes (s.readAs s.wire) (s.write v) v := by
  rw [readAs, ← List.nil_append (s.write v)]
  exact (takes_expect s.wire).bind (takes_read h)

end Scalar

/-- Bytes that belong to more bytes are not more than those. -/
theorem length_lt_of_append {bs cs : Bytes} {n : Nat} (h : (bs ++ cs).length < n) :
    bs.length < n ∧ cs.length < n := by
  rw [List.length_append] at h
  omega

/-- A leaf that is written is read over an old value as a field. -/
theorem LeafType.oneField_write (t : LeafType) (number : Nat) (old new : t.Value)
    (hne : t.write number new ≠ []) (h : (t.write number new).length < UInt64.size) :
    OneField (fun k v ↦ t.merge k.wire v) [number] old (t.write number new)
      (t.overlay old new) := by
  cases t with
  | plain s =>
    have hzero : ¬ s.isZero new = true := fun hzero ↦ hne (if_pos hzero)
    have hwrite : (plain s).write number new = writeScalarField s number new := if_neg hzero
    have hover : (plain s).overlay old new = new := if_neg hzero
    rw [hwrite] at h ⊢
    rw [hover]
    exact oneField ⟨number, s.wire⟩ (Scalar.takes_readAs (length_lt_of_append h).2)
  | optional s =>
    cases new with
    | none => exact absurd rfl hne
    | some new =>
      exact oneField ⟨number, s.wire⟩
        ((Scalar.takes_readAs (length_lt_of_append h).2).map some)

private theorem LeafType.overlay_of_write_eq_nil {t : LeafType} {number : Nat} {new : t.Value}
    (h : t.write number new = []) (old : t.Value) : t.overlay old new = old := by
  cases t with
  | plain s =>
    refine if_pos (Classical.not_not.1 fun hzero ↦ ?_)
    have hwrite : (plain s).write number new = writeScalarField s number new := if_neg hzero
    rw [hwrite] at h
    exact writeVarint_ne_nil _ (List.append_eq_nil_iff.1 h).1
  | optional s =>
    cases new with
    | none => rfl
    | some new => exact absurd (List.append_eq_nil_iff.1 h).1 (writeVarint_ne_nil _)

/-- A leaf that is read over an old value is laid over it. -/
theorem LeafType.fields_write (t : LeafType) (number : Nat) (old new : t.Value)
    (h : (t.write number new).length < UInt64.size) :
    Fields (fun k v ↦ t.merge k.wire v) [number] old (t.write number new) (t.overlay old new) := by
  by_cases hnil : t.write number new = []
  · rw [hnil, overlay_of_write_eq_nil hnil]
    exact .done old
  · exact (t.oneField_write number old new hnil h).fields

namespace Record

variable {τ : Type} [FieldSort τ]

private theorem mergeField_of_eq (message : String) {k : Key} (depth : Nat) {f : FieldDecl τ}
    {fs : List (FieldDecl τ)} (v : FieldSort.Value f.type) (r : Record fs)
    (h : f.number = k.number) : mergeField message k depth (f :: fs) (v, r) =
      (do return (← (FieldSort.merge f.type k.wire depth v).within message f.name, r)) := by
  rw [mergeField, if_pos h]
  rfl

private theorem mergeField_of_ne (message : String) {k : Key} (depth : Nat) {f : FieldDecl τ}
    {fs : List (FieldDecl τ)} (v : FieldSort.Value f.type) (r : Record fs)
    (h : f.number ≠ k.number) : mergeField message k depth (f :: fs) (v, r) =
      (do return (v, ← mergeField message k depth fs r)) := by
  rw [mergeField, if_neg h]
  rfl

/-- The first field of a record is taken into its head. -/
theorem takes_head {message : String} {k : Key} {depth : Nat} {f : FieldDecl τ}
    {fs : List (FieldDecl τ)} {v v' : FieldSort.Value f.type} {bs : Bytes}
    (hk : k.number ∈ [f.number]) (htake : Takes (FieldSort.merge f.type k.wire depth v) bs v')
    (r : Record fs) : Takes (mergeField message k depth (f :: fs) (v, r)) bs (v', r) := by
  rw [mergeField_of_eq message depth v r (List.mem_singleton.1 hk).symm]
  exact (htake.within message f.name).map fun v ↦ (v, r)

/-- A field of a record with another number than the first one is taken into its tail. -/
theorem takes_tail {message : String} {k : Key} {depth : Nat} {f : FieldDecl τ}
    {fs : List (FieldDecl τ)} {r r' : Record fs} {bs : Bytes}
    (hf : f.number ∉ fs.map (·.number)) (hk : k.number ∈ fs.map (·.number))
    (htake : Takes (mergeField message k depth fs r) bs r') (v : FieldSort.Value f.type) :
    Takes (mergeField message k depth (f :: fs) (v, r)) bs (v, r') := by
  rw [mergeField_of_ne message depth v r fun heq ↦ hf (heq ▸ hk)]
  exact htake.map fun r ↦ (v, r)

variable
  {writes : (t : τ) → (number : Nat) → FieldSort.Value t → Bytes → Prop}
  {overlay : (t : τ) → FieldSort.Value t → FieldSort.Value t → FieldSort.Value t}

/-- A record whose pieces are read over an old one is laid over it, if each of its fields is. -/
theorem chain_of_pieces
    {pieces : (t : τ) → (number : Nat) → FieldSort.Value t → List Bytes → Prop} {message : String}
    {depth : Nat} {fs : List (FieldDecl τ)} (hnumbers : (fs.map (·.number)).Nodup)
    (hfield : ∀ f ∈ fs, ∀ old new ps, ps.flatten.length < UInt64.size →
      pieces f.type f.number new ps →
      Chain (fun k v ↦ FieldSort.merge f.type k.wire depth v) [f.number] old ps
        (overlay f.type old new))
    (old new : Record fs) {ps : List Bytes} (hlen : ps.flatten.length < UInt64.size)
    (h : Pieces pieces fs new ps) :
    Chain (fun k r ↦ mergeField message k depth fs r) (fs.map (·.number)) old ps
      (zipFields overlay fs old new) := by
  induction fs generalizing ps with
  | nil =>
    rw [show ps = [] from h]
    exact .done _
  | cons f fs ih =>
    obtain ⟨v, r⟩ := old
    obtain ⟨v', r'⟩ := new
    obtain ⟨first, others, rfl, hfirst, hothers⟩ := h
    rw [List.flatten_append] at hlen
    obtain ⟨hlfirst, hlothers⟩ := length_lt_of_append hlen
    rw [List.map_cons, List.nodup_cons] at hnumbers
    have hhead := hfield f List.mem_cons_self v v' first hlfirst hfirst
    have htail := ih hnumbers.2 (fun g hg ↦ hfield g (List.mem_cons_of_mem f hg)) r r' hlothers
      hothers
    -- The first field changes the head of the record, and the others its tail.
    refine (hhead.lift (fun v ↦ (v, r)) ?_ ?_).trans (htail.lift (fun r ↦ (_, r)) ?_ ?_)
    · intro n hn
      rw [List.mem_singleton.1 hn]
      exact List.mem_cons_self
    · intro k v v' bs hk htake
      exact takes_head hk htake r
    · intro n hn
      exact List.mem_cons_of_mem _ hn
    · intro k r r' bs hk htake
      exact takes_tail hnumbers.1 hk htake _

/-- A record that is read over an old one is laid over it, if each of its fields is. -/
theorem fields_of_writes {message : String} {depth : Nat} {fs : List (FieldDecl τ)}
    (hnumbers : (fs.map (·.number)).Nodup)
    (hfield : ∀ f ∈ fs, ∀ old new bs, bs.length < UInt64.size → writes f.type f.number new bs →
      Fields (fun k v ↦ FieldSort.merge f.type k.wire depth v) [f.number] old bs
        (overlay f.type old new))
    (old new : Record fs) {bs : Bytes} (hlen : bs.length < UInt64.size)
    (h : Writes writes fs new bs) :
    Fields (fun k r ↦ mergeField message k depth fs r) (fs.map (·.number)) old bs
      (zipFields overlay fs old new) := by
  -- What is written of a field is one piece here.
  obtain ⟨ps, hps, rfl⟩ := pieces_of_writes
    (fun t number v ps ↦ ∃ bs, writes t number v bs ∧ ps = [bs])
    (fun t number v bs hbs ↦ ⟨[bs], ⟨bs, hbs, rfl⟩, List.flatten_singleton⟩) h
  refine (chain_of_pieces hnumbers ?_ old new hlen hps).fields
  rintro f hf v v' _ hbs ⟨bs, hwrites, rfl⟩
  rw [List.flatten_singleton] at hbs
  exact .one (hfield f hf v v' bs hbs hwrites)

end Record

namespace Schema

variable {τ : Type} [FieldSort τ]

/-- The numbers of the fields are apart, and each of them fits in a key. -/
structure Numbered (m : Schema τ) : Prop where
  nodup : (m.fields.map (·.number)).Nodup
  bounds : ∀ n ∈ m.fields.map (·.number), 0 < n ∧ n * 8 < UInt32.size

instance (m : Schema τ) : Decidable m.Numbered :=
  decidable_of_iff ((m.fields.map (·.number)).Nodup ∧
      ∀ n ∈ m.fields.map (·.number), 0 < n ∧ n * 8 < UInt32.size)
    ⟨fun h ↦ ⟨h.1, h.2⟩, fun h ↦ ⟨h.1, h.2⟩⟩

/-- A message of leaves that is read over an old one is laid over it. -/
theorem steps_encode_leaves {m : Schema LeafType} (hm : m.Numbered) (depth : Nat)
    (old new : m.Value) (hlen : (m.encode new).length < UInt64.size) :
    Steps (m.mergeNext depth) old (m.encode new)
      (Record.zipFields LeafType.overlay m.fields old new) := by
  have hwrites := m.writes_encode_leaves new
  refine (Record.fields_of_writes hm.nodup ?_ old new hlen hwrites).steps hm.bounds
  rintro f - v v' bs hbs rfl
  exact f.type.fields_write f.number v v' hbs

end Schema

namespace FieldType

/-- A block is a field with a key of its own. -/
theorem oneField_block {σ : Type} {merge : Key → σ → Reader σ} {number : Nat} {s s' : σ}
    {bs : Bytes} (htake : Takes (merge ⟨number, .lengthDelimited⟩ s)
      (writeVarint bs.length ++ bs) s') :
    OneField merge [number] s (writeBlockField number bs) s' := by
  rw [writeBlockField, List.append_assoc]
  exact oneField ⟨number, .lengthDelimited⟩ htake

/-- A text that is read after others is appended to them. -/
theorem oneField_text (number depth : Nat) (old : List String) {v : String}
    (hlen : (writeScalarField .text number v).length < UInt64.size) :
    OneField (fun k v ↦ (repeated .text).merge k.wire depth v) [number] old
      (writeScalarField .text number v) (old ++ [v]) := by
  refine oneField ⟨number, Scalar.text.wire⟩ ?_
  have hmerge : (repeated .text).merge Scalar.text.wire depth old =
      (do return old ++ [← Scalar.text.readAs Scalar.text.wire]) := by
    rw [FieldType.merge, if_neg fun h ↦ h.1 rfl]
  rw [hmerge]
  exact (Scalar.takes_readAs (length_lt_of_append hlen).2).map fun v ↦ old ++ [v]

private theorem chain_texts (number depth : Nat) (old new : List String)
    (hlen : (new.map (writeScalarField .text number)).flatten.length < UInt64.size) :
    Chain (fun k v ↦ (repeated .text).merge k.wire depth v) [number] old
      (new.map (writeScalarField .text number)) (old ++ new) := by
  induction new generalizing old with
  | nil =>
    rw [List.append_nil]
    exact .done old
  | cons v new ih =>
    rw [List.map_cons, List.flatten_cons] at hlen
    obtain ⟨hv, hnew⟩ := length_lt_of_append hlen
    have hmore := ih (old ++ [v]) hnew
    rw [List.append_assoc, List.singleton_append] at hmore
    exact .next (oneField_text number depth old hv).fields hmore

private theorem steps_packed (s : Scalar) (old new : List s.Value)
    (hlen : (new.flatMap s.write).length < UInt64.size) :
    Steps (fun vs ↦ do return vs ++ [← s.read]) old (new.flatMap s.write) (old ++ new) := by
  induction new generalizing old with
  | nil =>
    rw [List.append_nil]
    exact .done old
  | cons v new ih =>
    rw [List.flatMap_cons] at hlen ⊢
    obtain ⟨hv, hnew⟩ := length_lt_of_append hlen
    have hmore := ih (old ++ [v]) hnew
    rw [List.append_assoc, List.singleton_append] at hmore
    exact .next (s.write_ne_nil v) ((Scalar.takes_read hv).map fun v ↦ old ++ [v]) hmore

/-- A packed list that is read after another one is appended to it. -/
theorem oneField_packed {s : Scalar} (hs : s ≠ .text) (number depth : Nat) (old new : List s.Value)
    (hlen : (writeBlockField number (new.flatMap s.write)).length < UInt64.size) :
    OneField (fun k v ↦ (repeated s).merge k.wire depth v) [number] old
      (writeBlockField number (new.flatMap s.write)) (old ++ new) := by
  apply oneField_block
  have hmerge : (repeated s).merge .lengthDelimited depth old =
      Reader.delimited (fun vs ↦ do return vs ++ [← s.read]) old := if_pos ⟨hs, rfl⟩
  rw [hmerge]
  have hblock := (length_lt_of_append hlen).2
  exact (steps_packed s old new hblock).delimited hblock

private theorem chain_packed {s : Scalar} (hs : s ≠ .text) (number depth : Nat)
    (old new : List s.Value) {ps : List Bytes}
    (h : ps = pieceOf (if new.isEmpty then [] else writeBlockField number (new.flatMap s.write)))
    (hlen : ps.flatten.length < UInt64.size) :
    Chain (fun k v ↦ (repeated s).merge k.wire depth v) [number] old ps (old ++ new) := by
  rw [h, flatten_pieceOf] at hlen
  rw [h]
  apply chain_pieceOf
  by_cases hnew : new.isEmpty
  · rw [if_pos hnew, List.isEmpty_iff.1 hnew, List.append_nil]
    exact .done old
  · rw [if_neg hnew] at hlen ⊢
    exact (oneField_packed hs number depth old new hlen).fields

private def entryField (s : Scalar) (depth : Nat) (k : Key) (e : String × s.Value) :
    Reader (String × s.Value) :=
  match k.number with
  | 1 => do return (← Scalar.text.readAs k.wire, e.2)
  | 2 => do return (e.1, ← s.readAs k.wire)
  | _ => do
    Reader.skipField depth k
    return e

private theorem takes_entry (s : Scalar) (depth : Nat) (e : String × s.Value) {bs : Bytes}
    (hbs : bs = LeafType.write (.plain .text) 1 e.1 ++ LeafType.write (.plain s) 2 e.2)
    (hlen : bs.length < UInt64.size) :
    Takes (Reader.delimited (mergeEntry s depth) ("", s.zero)) (writeVarint bs.length ++ bs)
      (e.1, s.positiveZero e.2) := by
  refine Steps.delimited ?_ hlen
  subst hbs
  obtain ⟨hkey, hvalue⟩ := length_lt_of_append hlen
  have hfirst := LeafType.fields_write (.plain .text) 1 "" e.1 hkey
  have hsecond := LeafType.fields_write (.plain s) 2 s.zero e.2 hvalue
  rw [show LeafType.overlay (.plain .text) "" e.1 = e.1 from Scalar.ite_isZero .text e.1] at hfirst
  rw [show LeafType.overlay (.plain s) s.zero e.2 = s.positiveZero e.2 from s.ite_isZero e.2]
    at hsecond
  -- An entry is a message of two leaves, of which either one may be left out.
  have hfields : Fields (entryField s depth) [1, 2] ("", s.zero)
      (LeafType.write (.plain .text) 1 e.1 ++ LeafType.write (.plain s) 2 e.2)
      (e.1, s.positiveZero e.2) := by
    refine (hfirst.lift (fun k ↦ (k, s.zero)) (by simp) ?_).trans
      (hsecond.lift (fun v ↦ (e.1, v)) (by simp) ?_)
    · rintro ⟨number, w⟩ k k' bs hk htake
      obtain rfl : number = 1 := List.mem_singleton.1 hk
      exact htake.map fun k ↦ (k, s.zero)
    · rintro ⟨number, w⟩ v v' bs hk htake
      obtain rfl : number = 2 := List.mem_singleton.1 hk
      exact htake.map fun v ↦ (e.1, v)
  exact hfields.steps (by decide)

/-- An entry that is read over a dictionary is put into it. -/
theorem oneField_entry (s : Scalar) (number depth : Nat) (old : Dict s.Value)
    {e : String × s.Value} (hlen : (writeEntry s number e).length < UInt64.size) :
    OneField (fun k v ↦ (dict s).merge k.wire (depth + 1) v) [number] old (writeEntry s number e)
      (old.insert e.1 (s.positiveZero e.2)) :=
  oneField_block ((takes_entry s depth e rfl (length_lt_of_append hlen).2).map
    fun e ↦ old.insert e.1 e.2)

private theorem chain_entries (s : Scalar) (number depth : Nat) (old : Dict s.Value)
    (es : List (String × s.Value))
    (hlen : (es.map (writeEntry s number)).flatten.length < UInt64.size) :
    Chain (fun k v ↦ (dict s).merge k.wire (depth + 1) v) [number] old
      (es.map (writeEntry s number))
      ((es.map fun e ↦ (e.1, s.positiveZero e.2)).foldl (fun d e ↦ d.insert e.1 e.2) old) := by
  induction es generalizing old with
  | nil => exact .done old
  | cons e es ih =>
    rw [List.map_cons, List.flatten_cons] at hlen
    obtain ⟨he, hes⟩ := length_lt_of_append hlen
    exact .next (oneField_entry s number depth old he).fields
      (ih (old.insert e.1 (s.positiveZero e.2)) hes)

/-- A message that is read over an old one is laid over it, if it is read so from its bytes. -/
theorem oneField_message {m : Schema LeafType} (number : Nat) {depth : Nat} (old : Option m.Value)
    {new : m.Value} {bs : Bytes} (hlen : (writeBlockField number bs).length < UInt64.size)
    (hsteps : Steps (m.mergeNext depth) (old.getD m.absent) bs new) :
    OneField (fun k v ↦ (message m).merge k.wire (depth + 1) v) [number] old
      (writeBlockField number bs) (some new) := by
  apply oneField_block
  rw [← List.nil_append (writeVarint _ ++ _)]
  exact (takes_expect .lengthDelimited).bind
    ((hsteps.delimited (length_lt_of_append hlen).2).map some)

/-- The messages that lie in a field have numbers that are apart. -/
def Numbered : FieldType → Prop
  | leaf _ | repeated _ | dict _ => True
  | message m => m.Numbered

instance (t : FieldType) : Decidable t.Numbered :=
  match t with
  | leaf _ | repeated _ | dict _ => .isTrue trivial
  | message m => inferInstanceAs (Decidable m.Numbered)

/-- A field that is read piece by piece over an old value is laid over it, if the message in it
is. -/
theorem chain_of_pieces {inner : (m : Schema LeafType) → m.Value → Bytes → Prop} {t : FieldType}
    {depth : Nat}
    (hinner : ∀ m, t = message m → ∀ old new bs, bs.length < UInt64.size → inner m new bs →
      Steps (m.mergeNext depth) old bs (Record.zipFields LeafType.overlay m.fields old new))
    (number : Nat) (old new : t.Value) {ps : List Bytes} (hlen : ps.flatten.length < UInt64.size)
    (h : t.Pieces inner number new ps) :
    Chain (fun k v ↦ t.merge k.wire (depth + 1) v) [number] old ps (t.overlay old new) := by
  cases t with
  | leaf t =>
    obtain rfl : ps = pieceOf (t.write number new) := h
    rw [flatten_pieceOf] at hlen
    exact chain_pieceOf (t.fields_write number old new hlen)
  | repeated s =>
    cases s with
    | text =>
      obtain rfl : ps = new.map (writeScalarField .text number) := h
      exact chain_texts number (depth + 1) old new hlen
    | int32 => exact chain_packed (s := .int32) nofun number (depth + 1) old new h hlen
    | uint64 => exact chain_packed (s := .uint64) nofun number (depth + 1) old new h hlen
    | bool => exact chain_packed (s := .bool) nofun number (depth + 1) old new h hlen
    | double => exact chain_packed (s := .double) nofun number (depth + 1) old new h hlen
  | dict s =>
    obtain ⟨es, hperm, rfl⟩ := h
    have hchain := chain_entries s number depth old es hlen
    have hmap : (es.map fun e ↦ (e.1, s.positiveZero e.2)).Perm (new.map s.positiveZero).entries :=
      hperm.map _
    rwa [Dict.foldl_insert_of_perm hmap] at hchain
  | message m =>
    cases new with
    | none =>
      obtain rfl : ps = [] := h
      exact .done old
    | some new =>
      obtain ⟨bs, hbs, rfl⟩ := h
      rw [List.flatten_singleton] at hlen
      have hsteps := hinner m rfl (old.getD m.absent) new bs (length_lt_of_append hlen).2 hbs
      exact .one (oneField_message number old hlen hsteps).fields

/-- A field that is read over an old value is laid over it, however it is written. -/
theorem fields_of_writes {t : FieldType} (ht : t.Numbered) (number depth : Nat)
    (old new : t.Value) {bs : Bytes} (hlen : bs.length < UInt64.size)
    (h : t.Writes number new bs) :
    Fields (fun k v ↦ t.merge k.wire (depth + 1) v) [number] old bs (t.overlay old new) := by
  obtain ⟨ps, hps, rfl⟩ := pieces_of_writes (fun m v bs ↦ bs = m.encode v) (fun _ _ ↦ rfl) h
  refine (chain_of_pieces ?_ number old new hlen hps).fields
  rintro m rfl old new _ hbs rfl
  exact Schema.steps_encode_leaves ht depth old new hbs

end FieldType

namespace Schema

variable {m : Schema FieldType}

/-- The numbers in a message and in the messages in it are apart, and fit in keys. -/
structure WellNumbered (m : Schema FieldType) : Prop where
  numbered : m.Numbered
  nested : ∀ f ∈ m.fields, f.type.Numbered

instance (m : Schema FieldType) : Decidable m.WellNumbered :=
  decidable_of_iff (m.Numbered ∧ ∀ f ∈ m.fields, f.type.Numbered)
    ⟨fun h ↦ ⟨h.1, h.2⟩, fun h ↦ ⟨h.1, h.2⟩⟩

/-- A message that is read over an old one is laid over it, however it is written. -/
theorem steps_of_writes (hm : m.WellNumbered) (depth : Nat) (old new : m.Value) {bs : Bytes}
    (hlen : bs.length < UInt64.size) (h : m.Writes new bs) :
    Steps (m.mergeNext (depth + 1)) old bs (m.overlay old new) := by
  refine (Record.fields_of_writes hm.numbered.nodup ?_ old new hlen h).steps hm.numbered.bounds
  intro f hf v v' bs hbs hwrites
  exact FieldType.fields_of_writes (hm.nested f hf) f.number depth v v' hbs hwrites

/-- However a message is written, it is read back but for the signs of zeros. -/
theorem decode_of_writes (hm : m.WellNumbered) {v : m.Value} {bs : Bytes}
    (hlen : bs.length < UInt64.size) (h : m.Writes v bs) :
    m.decode bs = .ok (m.positiveZero v) := by
  have hread := (steps_of_writes hm 99 m.absent v hlen h).elements
  rw [m.absent_overlay] at hread
  show (Reader.elements 0 (m.mergeNext maxDepth) m.absent bs).map (·.1) = _
  rw [show maxDepth = 99 + 1 from rfl, hread]
  rfl

end Schema

end CentroidRpc.Wire
