import CentroidRpc.Proofs.NewerService
import CentroidRpc.Proofs.Outcome
import CentroidRpc.Proofs.Wire.Packed
import CentroidRpc.Session

/-!
# Answers about centroids that were joined

Whoever has several centroids joined is told of each whether there was something to do. These flags
may come packed or unpacked, in any mixture, with other fields among them: what the caller is told
are all flags in order (`JoinAnswer.flags_read`).
-/

namespace CentroidRpc

open Wire Reader

namespace JoinAnswer

/-- The message that tells of the centroids that were joined. -/
abbrev schema : Schema FieldType := ResponseType.multiJoinCentroids.schema

/-- Bytes that stand for a flag: a number in any spelling, and zero only if the flag is not set. -/
def SpellsFlag (flag : Bool) (bs : Bytes) : Prop := ∃ n, Spells n bs ∧ flag = (n != 0)

/-- Bytes of the field with the flags: any number of them packed, or a single one. -/
inductive FlagField : List Bool → Bytes → Prop where
  | packed {flags : List Bool} {ps : List Bytes} {key length : Bytes}
      (hkey : SpellsKey ⟨3, .lengthDelimited⟩ key) (hlength : Spells ps.flatten.length length)
      (hflags : List.Forall₂ SpellsFlag flags ps) : FlagField flags (key ++ (length ++ ps.flatten))
  | unpacked {flag : Bool} {key bs : Bytes} (hkey : SpellsKey ⟨3, .varint⟩ key)
      (hflag : SpellsFlag flag bs) : FlagField [flag] (key ++ bs)

/-- Bytes of another field: a status that can be read behind any other, an id, or a field that is
not declared. -/
inductive OtherField : Bytes → Prop where
  | status {key length body : Bytes} (hkey : SpellsKey ⟨1, .lengthDelimited⟩ key)
      (hlength : Spells body.length length)
      (hbody : ∀ old, ∃ new, Steps (Message.statusSchema.mergeNext 99) old body new) :
      OtherField (key ++ (length ++ body))
  | id {id : String} {key length : Bytes} (hkey : SpellsKey ⟨2, .lengthDelimited⟩ key)
      (hlength : Spells id.utf8ByteSize length) :
      OtherField (key ++ (length ++ id.toUTF8.data.toList))
  | undeclared {bs : Bytes} (h : schema.Undeclared 99 bs) : OtherField bs

/-- Bytes of a message with some flags, which fall into pieces in any way, and with some other
fields among these. -/
inductive Mixed : List Bool → List Bytes → Bytes → Prop where
  | nil : Mixed [] [] []
  | flags {front flags : List Bool} {others : List Bytes} {p bs : Bytes} (h : FlagField front p)
      (more : Mixed flags others bs) : Mixed (front ++ flags) others (p ++ bs)
  | other {flags : List Bool} {others : List Bytes} {e bs : Bytes} (h : OtherField e)
      (more : Mixed flags others bs) : Mixed flags (e :: others) (e ++ bs)

/-- Bytes of the field with the flags, packed in a part that ends inside of the last one: in the
part are only bytes of it that do not finish it. -/
inductive UnfinishedField : (inside : Bytes) → Bytes → Prop where
  | packed {flags : List Bool} {ps : List Bytes} {key length inside : Bytes}
      (hkey : SpellsKey ⟨3, .lengthDelimited⟩ key)
      (hlength : Spells (ps.flatten ++ inside).length length)
      (hflags : List.Forall₂ SpellsFlag flags ps) (hne : inside ≠ [])
      (hinside : ∀ b ∈ inside, 128 ≤ b) :
      UnfinishedField inside (key ++ (length ++ (ps.flatten ++ inside)))

/-- The fault that is found in such a field: the last flag ends behind the part, or it does not end
behind it either. -/
def overrun (inside rest : Bytes) : Fault :=
  ⟨[(schema.name, "recalculated")],
    if (readVarint? (inside ++ rest)).isSome then .overrun else .badVarint⟩

/-- Whoever has centroids joined over an open connection and is answered with some bytes is told an
outcome, and the client stays as it is. -/
def Tells (bs : Bytes) (o : Except CallError (List Bool)) : Prop :=
  ∀ {σ ω : Type} (s : Session σ ω) (stub : σ) (x : Exchange σ ω) (centroids : List String),
    let r : Request := .multiJoinCentroids centroids
    let (passage, world) := x stub r s.world
    s.client.connection = .opened stub → passage.reply = .ok bs →
    s.call x r = (⟨r, passage.delivered, o⟩, ⟨s.client, world⟩)

variable {status : Option Message.statusSchema.Value} {ids : List String} {bs : Bytes}

/-- A flag is read however it is spelt. -/
theorem SpellsFlag.takes {flag : Bool} (h : SpellsFlag flag bs) :
    Takes Scalar.bool.read bs flag := by
  obtain ⟨n, hspells, rfl⟩ := h
  exact hspells.takes.map fun n ↦ n != 0

private theorem merge_status (w : WireType) (status : Option Message.statusSchema.Value)
    (ids : List String) (flags : List Bool) :
    Record.mergeField schema.name ⟨1, w⟩ Schema.maxDepth schema.fields (status, ids, flags, ()) =
      (do return (← ((FieldType.message Message.statusSchema).merge w Schema.maxDepth status).within
        schema.name "status", ids, flags, ())) := rfl

private theorem merge_ids (w : WireType) (status : Option Message.statusSchema.Value)
    (ids : List String) (flags : List Bool) :
    Record.mergeField schema.name ⟨2, w⟩ Schema.maxDepth schema.fields (status, ids, flags, ()) =
      (do return (status, ← ((FieldType.repeated .text).merge w Schema.maxDepth ids).within
        schema.name "ids", flags, ())) := by
  show ((((FieldType.repeated .text).merge w Schema.maxDepth ids).within schema.name "ids" >>=
    fun ids ↦ pure (ids, flags, ())) >>= fun r ↦ pure (status, r)) = _
  simp only [bind_assoc, pure_bind]
  rfl

private theorem merge_flags (w : WireType) (status : Option Message.statusSchema.Value)
    (ids : List String) (flags : List Bool) :
    Record.mergeField schema.name ⟨3, w⟩ Schema.maxDepth schema.fields (status, ids, flags, ()) =
      (do return (status, ids, ← ((FieldType.repeated .bool).merge w Schema.maxDepth flags).within
        schema.name "recalculated", ())) := by
  show (((((FieldType.repeated .bool).merge w Schema.maxDepth flags).within schema.name
    "recalculated" >>= fun flags ↦ pure (flags, ())) >>= fun r ↦ pure (ids, r)) >>=
    fun r ↦ pure (status, r)) = _
  simp only [bind_assoc, pure_bind]
  rfl

/-- Flags are appended to those before them, and nothing else changes. -/
theorem FlagField.takes {flags : List Bool} (h : FlagField flags bs)
    (status : Option Message.statusSchema.Value) (ids : List String) (old : List Bool) :
    Takes (schema.mergeNext Schema.maxDepth (status, ids, old, ())) bs
      (status, ids, old ++ flags, ()) := by
  have hfield {w : WireType} {key payload : Bytes} (hkey : SpellsKey ⟨3, w⟩ key)
      (hmerge : Takes ((FieldType.repeated .bool).merge w Schema.maxDepth old) payload
        (old ++ flags)) :
      Takes (schema.mergeNext Schema.maxDepth (status, ids, old, ())) (key ++ payload)
        (status, ids, old ++ flags, ()) := by
    refine (takes_key_of_spells hkey).bind ?_
    rw [merge_flags]
    exact (hmerge.within schema.name "recalculated").map fun flags ↦ (status, ids, flags, ())
  cases h with
  | packed hkey hlength hflags =>
    have hvalues := hflags.imp fun _ _ hflag ↦ hflag.takes
    exact hfield hkey (FieldType.takes_packed (s := .bool) nofun hvalues hlength.takes _ old)
  | unpacked hkey hflag =>
    exact hfield hkey (FieldType.takes_unpacked (s := .bool) hflag.takes _ old)

/-- Another field is read whatever has been read before it, and the flags stay as they are. -/
theorem OtherField.takes (h : OtherField bs) (status : Option Message.statusSchema.Value)
    (ids : List String) :
    ∃ status' ids', ∀ flags, Takes (schema.mergeNext Schema.maxDepth (status, ids, flags, ())) bs
      (status', ids', flags, ()) := by
  cases h with
  | @status key length body hkey hlength hbody =>
    obtain ⟨new, hsteps⟩ := hbody (status.getD Message.statusSchema.absent)
    have hmerge : Takes ((FieldType.message Message.statusSchema).merge .lengthDelimited
        Schema.maxDepth status) (length ++ body) (some new) :=
      (takes_expect .lengthDelimited).bind ((hsteps.delimited_of_takes hlength.takes).map some)
    refine ⟨some new, ids, fun flags ↦ (takes_key_of_spells hkey).bind ?_⟩
    rw [merge_status]
    exact (hmerge.within schema.name "status").map fun status ↦ (status, ids, flags, ())
  | @id id key length hkey hlength =>
    have hmerge : Takes ((FieldType.repeated .text).merge .lengthDelimited Schema.maxDepth ids)
        (length ++ id.toUTF8.data.toList) (ids ++ [id]) :=
      FieldType.takes_unpacked (s := .text) (Scalar.takes_text hlength) _ ids
    refine ⟨status, ids ++ [id], fun flags ↦ (takes_key_of_spells hkey).bind ?_⟩
    rw [merge_ids]
    exact (hmerge.within schema.name "ids").map fun ids ↦ (status, ids, flags, ())
  | undeclared h => exact ⟨status, ids, fun flags ↦ h.takes (Nat.le_refl 99) _⟩

/-- All pieces are read in order: the flags are appended, and the other fields make of the rest what
they would make of it alone. -/
theorem Mixed.steps {flags : List Bool} {others : List Bytes} (h : Mixed flags others bs)
    (status : Option Message.statusSchema.Value) (ids : List String) :
    ∃ status' ids', ∀ old : List Bool,
      Steps (schema.mergeNext Schema.maxDepth) (status, ids, old, ()) others.flatten
        (status', ids', old, ()) ∧
      Steps (schema.mergeNext Schema.maxDepth) (status, ids, old, ()) bs
        (status', ids', old ++ flags, ()) := by
  have hne {p : Bytes} {r r' : schema.Value}
      (h : Takes (schema.mergeNext Schema.maxDepth r) p r') : p ≠ [] :=
    (schema.needy_mergeNext Schema.maxDepth r).ne_nil h
  induction h generalizing status ids with
  | nil =>
    refine ⟨status, ids, fun old ↦ ⟨.done _, ?_⟩⟩
    rw [List.append_nil]
    exact .done _
  | flags h more ih =>
    obtain ⟨status', ids', hmore⟩ := ih status ids
    refine ⟨status', ids', fun old ↦ ⟨(hmore old).1, ?_⟩⟩
    have htakes := h.takes status ids old
    rw [← List.append_assoc]
    exact .next (hne htakes) htakes (hmore _).2
  | other h more ih =>
    obtain ⟨status₁, ids₁, htakes⟩ := h.takes status ids
    obtain ⟨status', ids', hmore⟩ := ih status₁ ids₁
    refine ⟨status', ids', fun old ↦ ⟨?_, ?_⟩⟩
    · exact .next (hne (htakes old)) (htakes old) (hmore old).1
    · exact .next (hne (htakes old)) (htakes old) (hmore old).2

private theorem UnfinishedField.ne_nil {inside : Bytes} (h : UnfinishedField inside bs) :
    bs ≠ [] := by
  cases h with
  | packed hkey =>
    have hfront := needy_key.ne_nil (takes_key_of_spells hkey)
    exact List.append_ne_nil_of_left_ne_nil hfront _

/-- A field whose part ends inside of the last flag is refused, whatever has been read before. -/
theorem UnfinishedField.fails {inside : Bytes} (h : UnfinishedField inside bs)
    (status : Option Message.statusSchema.Value) (ids : List String) (old : List Bool)
    (rest : Bytes) :
    schema.mergeNext Schema.maxDepth (status, ids, old, ()) (bs ++ rest) =
      .error (overrun inside rest) := by
  cases h with
  | @packed flags ps key length inside hkey hlength hflags hne hinside =>
    have hvalues := hflags.imp fun _ _ hflag ↦ hflag.takes
    have hpast (v : Bool) (left : Bytes)
        (hread : Scalar.bool.read (inside ++ rest) = .ok (v, left)) :
        left.length < rest.length := by
      obtain ⟨n, left', hn, hpure⟩ := bind_eq_ok.1 hread
      cases hpure
      exact varint_unfinished hinside hn
    have hmerge := FieldType.packed_unfinished (s := .bool) nofun hvalues hlength.takes hne hpast
      Schema.maxDepth old
    have hwithin : ((FieldType.repeated .bool).merge .lengthDelimited Schema.maxDepth old).within
        schema.name "recalculated" (length ++ (ps.flatten ++ (inside ++ rest))) =
        .error (overrun inside rest) := by
      rw [within, hmerge, overrun, Scalar.read, bind_apply, varint]
      cases readVarint? (inside ++ rest) <;> rfl
    have hfield : Record.mergeField schema.name ⟨3, .lengthDelimited⟩ Schema.maxDepth schema.fields
        (status, ids, old, ()) (length ++ (ps.flatten ++ (inside ++ rest))) =
        .error (overrun inside rest) := by
      rw [merge_flags, bind_apply, hwithin]
      rfl
    simp only [List.append_assoc]
    show (Reader.key >>= fun k ↦
      Record.mergeField schema.name k Schema.maxDepth schema.fields (status, ids, old, ())) _ = _
    rw [bind_apply, takes_key_of_spells hkey]
    exact hfield

/-- What a message says that is read is told, unless its status tells of a failure. -/
theorem tells_of_decode {flags : List Bool} (h : schema.decode bs = .ok (status, ids, flags, ()))
    (hstatus : ∀ r, status = some r → (Status.ofRecord r).code = 0) : Tells bs (.ok flags) := by
  intro σ ω s stub x centroids r hopen hreply
  have hresponse : r.response (.ok bs) = .ok (.ofRecord (status, ids, flags, ())) := by
    have hdecode : r.operation.response.schema.decode bs = _ := h
    simp only [Request.response, hdecode]
  have hconclude : r.conclude (.ok (.ofRecord (status, ids, flags, ()))) = .ok flags := by
    refine Request.conclude_of_none fun _ ↦ ?_
    show (status.map Status.ofRecord).bind (·.error? r.subjects) = none
    cases status with
    | none => rfl
    | some status => exact (Status.error?_eq_none_iff _ _).2 (hstatus status rfl)
  rw [Session.call_of_open hopen, hreply, hresponse, hconclude]
  rfl

/-- What cannot be read is an internal error of the call. -/
theorem tells_of_fault {fault : Fault} (h : schema.decode bs = .error fault) :
    Tells bs (.error (.transport (.plain .internal fault.text))) := by
  intro σ ω s stub x centroids r hopen hreply
  have hresponse : r.response (.ok bs) = .error (.plain .internal fault.text) := by
    have hdecode : r.operation.response.schema.decode bs = _ := h
    simp only [Request.response, hdecode]
  rw [Session.call_of_open hopen, hreply, hresponse]
  rfl

/-- However flags are cut into packed parts and single ones, with other fields among them, all are
read in order, and the other fields are read as if there were no flags; the flags are told if the
status tells of no failure. A part that ends inside of its last flag is refused, behind whatever can
be read and before whatever comes. -/
theorem flags_read :
    (∀ flags others bs, Mixed flags others bs →
      ∃ status ids, schema.decode others.flatten = .ok (status, ids, [], ()) ∧
        schema.decode bs = .ok (status, ids, flags, ()) ∧
        ((∀ r, status = some r → (Status.ofRecord r).code = 0) → Tells bs (.ok flags))) ∧
    ∀ front r inside bs rest, schema.decode front = .ok r → UnfinishedField inside bs →
      schema.decode (front ++ (bs ++ rest)) = .error (overrun inside rest) ∧
      Tells (front ++ (bs ++ rest))
        (.error (.transport (.plain .internal (overrun inside rest).text))) := by
  constructor
  · intro flags others bs hmixed
    obtain ⟨status, ids, hsteps⟩ := hmixed.steps none []
    have hothers : schema.decode others.flatten = .ok (status, ids, [], ()) :=
      Schema.decode_eq_ok_iff.2 (hsteps []).1
    have hall : schema.decode bs = .ok (status, ids, flags, ()) :=
      Schema.decode_eq_ok_iff.2 (hsteps []).2
    exact ⟨status, ids, hothers, hall, tells_of_decode hall⟩
  · intro front r inside bs rest hfront hunfinished
    obtain ⟨status, ids, old, ⟨⟩⟩ := r
    have hsteps := Schema.decode_eq_ok_iff.1 hfront
    have hfault := hunfinished.fails status ids old rest
    have hne : bs ++ rest ≠ [] := List.append_ne_nil_of_left_ne_nil hunfinished.ne_nil rest
    have hdecode : schema.decode (front ++ (bs ++ rest)) = .error (overrun inside rest) := by
      rw [Schema.decode, Schema.reader, hsteps.elements_error hne hfault]
      rfl
    exact ⟨hdecode, tells_of_fault hdecode⟩

/-- Two flags are packed, the second one in two bytes. An id follows, a single flag, a status of
success and a part without flags. With a byte less in the part the second flag is not finished in
it. -/
theorem flags_read_mixed :
    schema.decode [26, 3, 1, 128, 0, 18, 1, 97, 24, 129, 0, 10, 2, 8, 0, 26, 0] =
      .ok (some (Status.record .ok), ["a"], [true, false, true], ()) ∧
    Tells [26, 3, 1, 128, 0, 18, 1, 97, 24, 129, 0, 10, 2, 8, 0, 26, 0]
      (.ok [true, false, true]) ∧
    schema.decode [18, 1, 97, 26, 2, 1, 128, 0] =
      .error ⟨[("MultiJoinCentroidsResponse", "recalculated")], .overrun⟩ := by
  have hone : SpellsFlag true [1] := ⟨1, spells_byte (b := 1) (by decide), rfl⟩
  have hzero : SpellsFlag false [128, 0] :=
    ⟨0, ⟨by decide, by decide, by decide, [128], 0, rfl, List.forall_mem_singleton.2 (by decide),
      by decide⟩, rfl⟩
  have hlong : SpellsFlag true [129, 0] :=
    ⟨1, ⟨by decide, by decide, by decide, [129], 0, rfl, List.forall_mem_singleton.2 (by decide),
      by decide⟩, rfl⟩
  have hpacked : FlagField [true, false] ([26] ++ ([3] ++ [[1], [128, 0]].flatten)) :=
    (FlagField.packed (spellsKey_byte (by decide)) (spells_byte (b := 3) (by decide))
      (.cons hone (.cons hzero .nil)))
  have hempty : FlagField [] ([26] ++ ([0] ++ [].flatten)) :=
    .packed (spellsKey_byte (by decide)) (spells_byte (b := 0) (by decide)) .nil
  have hsingle : FlagField [true] ([24] ++ [129, 0]) :=
    .unpacked (spellsKey_byte (by decide)) hlong
  have hid : OtherField ([18] ++ ([1] ++ "a".toUTF8.data.toList)) :=
    .id (spellsKey_byte (by decide)) (spells_byte (b := 1) (by decide))
  have hstatus : OtherField ([10] ++ ([2] ++ [8, 0])) :=
    .status (spellsKey_byte (by decide)) (spells_byte (b := 2) (by decide)) fun old ↦
      ⟨((0 : Int32), old.2), .next (List.cons_ne_nil 8 [0]) (fun rest ↦ rfl) (.done _)⟩
  have hmixed : Mixed [true, false, true] [[18, 1, 97], [10, 2, 8, 0]]
      [26, 3, 1, 128, 0, 18, 1, 97, 24, 129, 0, 10, 2, 8, 0, 26, 0] :=
    .flags hpacked (.other hid (.flags hsingle (.other hstatus (.flags hempty .nil))))
  obtain ⟨hread, hrefused⟩ := flags_read
  obtain ⟨status, ids, hothers, hall, htells⟩ := hread _ _ _ hmixed
  have hvalues : schema.decode [18, 1, 97, 10, 2, 8, 0] =
      .ok (some (Status.record .ok), ["a"], [], ()) := rfl
  cases hothers.symm.trans hvalues
  have hunfinished : UnfinishedField [128] ([26] ++ ([2] ++ ([[1]].flatten ++ [128]))) :=
    .packed (spellsKey_byte (by decide)) (spells_byte (b := 2) (by decide)) (.cons hone .nil)
      (List.cons_ne_nil 128 []) (List.forall_mem_singleton.2 (by decide))
  have hfront : schema.decode [18, 1, 97] = .ok (none, ["a"], [], ()) := rfl
  refine ⟨hall, htells ?_, (hrefused _ _ _ _ [0] hfront hunfinished).1⟩
  rintro r ⟨⟩
  rfl

end JoinAnswer

end CentroidRpc
