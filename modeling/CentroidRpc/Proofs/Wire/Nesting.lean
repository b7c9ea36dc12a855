import CentroidRpc.Message.Catalog
import CentroidRpc.Proofs.Wire.Packed

/-!
# How deep groups may lie in each other

A reader that passes over a field goes one level deeper for each group in it, and where no level is
left it refuses what it meets. So groups in each other are passed over exactly if there is a level
for each of them, and one more for a field in the innermost one (`Nested.contents`). A message has a
hundred levels, of which its status takes one (`Message.nesting_bounded`).
-/

namespace CentroidRpc

namespace Wire

/-- Groups with given numbers, the outermost one first: each of them holds nothing but the next one,
and the innermost one holds given bytes. -/
inductive Nested (inside : Bytes) : (numbers : List Nat) → Bytes → Prop where
  | inside : Nested inside [] inside
  | group {number : Nat} {numbers : List Nat} {front bs back : Bytes}
      (hstart : SpellsKey ⟨number, .startGroup⟩ front) (more : Nested inside numbers bs)
      (hend : SpellsKey ⟨number, .endGroup⟩ back) :
      Nested inside (number :: numbers) (front ++ (bs ++ back))

/-- Bytes of a field that is no group. -/
def ScalarField (number : Nat) (bs : Bytes) : Prop :=
  ∃ w front payload, bs = front ++ payload ∧ SpellsKey ⟨number, w⟩ front ∧
    Payload 0 ⟨number, w⟩ payload

namespace Schema

variable {τ : Type}

/-- Bytes of some number of groups in each other, the innermost of which is empty. The message does
not declare the outermost one. -/
def NestsNothing (m : Schema τ) (groups : Nat) (bs : Bytes) : Prop :=
  ∃ numbers, numbers.length = groups ∧ Nested [] numbers bs ∧
    ∀ n ∈ numbers.head?, n ∉ m.fields.map (·.number)

/-- Bytes of some number of groups in each other, the innermost of which holds a field that is no
group. The message does not declare the outermost one, or the field if there is no group. -/
def NestsScalar (m : Schema τ) (groups : Nat) (bs : Bytes) : Prop :=
  ∃ numbers number inside, numbers.length = groups ∧ ScalarField number inside ∧
    Nested inside numbers bs ∧ ∀ n ∈ numbers.head?.or (some number), n ∉ m.fields.map (·.number)

end Schema

open Reader

/-- What follows a key is passed over by the readers that may go some levels deep, and all others
find that it lies too deep. -/
structure Reaches (levels : Nat) (k : Key) (bs : Bytes) : Prop where
  takes : ∀ depth, levels ≤ depth → Takes (skipField depth k) bs ()
  fails : ∀ depth, depth < levels → ∀ rest,
    skipField depth k (bs ++ rest) = .error (.ofCause .tooDeep)

/-- Nothing, or a field that is passed over by the readers that may go some levels deep. -/
inductive Contents : (levels : Nat) → (number? : Option Nat) → Bytes → Prop where
  | nothing : Contents 0 none []
  | field {levels : Nat} {k : Key} {front payload : Bytes} (hkey : SpellsKey k front)
      (hwire : k.wire ≠ .endGroup) (hpayload : Reaches levels k payload) :
      Contents levels (some k.number) (front ++ payload)

/-- A field that is no group takes one level. -/
theorem ScalarField.contents {number : Nat} {bs : Bytes} (h : ScalarField number bs) :
    Contents 1 (some number) bs := by
  obtain ⟨w, front, payload, rfl, hkey, hpayload⟩ := h
  refine .field hkey hpayload.wire_ne ⟨fun depth hdepth ↦ ?_, fun depth hdepth rest ↦ ?_⟩
  · cases depth with
    | zero => exact absurd hdepth (Nat.not_succ_le_zero 0)
    | succ depth => exact hpayload.takes (Nat.zero_le depth)
  · obtain rfl := Nat.lt_one_iff.1 hdepth
    rfl

section Group

variable {levels number : Nat} {number? : Option Nat} {bs back : Bytes}

private theorem Contents.takes_group (h : Contents levels number? bs)
    (hend : SpellsKey ⟨number, .endGroup⟩ back) {depth : Nat} (hdepth : levels ≤ depth) :
    Takes (group (skipField depth) number) (bs ++ back) () := by
  cases h with
  | nothing => exact takes_group_end hend
  | field hkey hwire hpayload =>
    rw [List.append_assoc]
    exact takes_group_field (exact_skipField depth) hkey hwire (hpayload.takes depth hdepth)
      (takes_group_end hend)

private theorem Contents.group_fails (h : Contents levels number? bs) {depth : Nat}
    (hdepth : depth < levels) (rest : Bytes) :
    group (skipField depth) number (bs ++ rest) = .error (.ofCause .tooDeep) := by
  cases h with
  | nothing => exact absurd hdepth (Nat.not_lt_zero depth)
  | field hkey hwire hpayload =>
    rw [List.append_assoc, group, remaining_bind, groupIn, bind_apply, takes_key_of_spells hkey]
    simp only [Except.bind]
    rw [if_neg hwire, bind_apply, hpayload.fails depth hdepth]
    rfl

/-- A group takes one more level than what is in it. -/
theorem Contents.group (h : Contents levels number? bs) {front : Bytes}
    (hstart : SpellsKey ⟨number, .startGroup⟩ front) (hend : SpellsKey ⟨number, .endGroup⟩ back) :
    Contents (levels + 1) (some number) (front ++ (bs ++ back)) := by
  refine .field hstart nofun ⟨fun depth hdepth ↦ ?_, fun depth hdepth rest ↦ ?_⟩
  · cases depth with
    | zero => exact absurd hdepth (Nat.not_succ_le_zero levels)
    | succ depth => exact h.takes_group hend (Nat.le_of_succ_le_succ hdepth)
  · cases depth with
    | zero => rfl
    | succ depth =>
      rw [List.append_assoc]
      exact h.group_fails (Nat.lt_of_succ_lt_succ hdepth) _

/-- Groups in each other take a level each beside those of what is in the innermost one. -/
theorem Nested.contents {inside : Bytes} {numbers : List Nat} (h : Nested inside numbers bs)
    (hinside : Contents levels number? inside) :
    Contents (levels + numbers.length) (numbers.head?.or number?) bs := by
  induction h with
  | inside => exact hinside
  | group hstart more hend ih => exact ih.group hstart hend

end Group

section Declared

variable {τ : Type} {m : Schema τ} {groups : Nat} {bs : Bytes}

/-- Groups with nothing in them take a level each. -/
theorem Schema.NestsNothing.contents (h : m.NestsNothing groups bs) :
    ∃ number?, Contents groups number? bs ∧ ∀ n ∈ number?, n ∉ m.fields.map (·.number) := by
  obtain ⟨numbers, rfl, hnested, hnew⟩ := h
  have hcontents := hnested.contents .nothing
  rw [Nat.zero_add, Option.or_none] at hcontents
  exact ⟨_, hcontents, hnew⟩

/-- A field that is no group takes one more. -/
theorem Schema.NestsScalar.contents (h : m.NestsScalar groups bs) :
    ∃ number?, Contents (groups + 1) number? bs ∧ ∀ n ∈ number?, n ∉ m.fields.map (·.number) := by
  obtain ⟨numbers, number, inside, rfl, hfield, hnested, hnew⟩ := h
  have hcontents := hnested.contents hfield.contents
  rw [Nat.add_comm] at hcontents
  exact ⟨_, hcontents, hnew⟩

end Declared

section Message

variable {τ : Type} [FieldSort τ] {m : Schema τ} {levels : Nat} {number? : Option Nat} {bs : Bytes}

private theorem Record.mergeField_error (message : String) {k : Key} {depth : Nat}
    {fs : List (FieldDecl τ)} (hk : k.number ∉ fs.map (·.number)) {fault : Fault}
    (h : skipField depth k bs = .error fault) (r : Record fs) :
    mergeField message k depth fs r bs = .error fault := by
  induction fs with
  | nil =>
    rw [mergeField, bind_apply, h]
    rfl
  | cons f fs ih =>
    obtain ⟨v, r⟩ := r
    rw [List.map_cons, List.mem_cons, not_or] at hk
    rw [mergeField, if_neg (Ne.symm hk.1), bind_apply, ih hk.2]
    rfl

/-- What a message does not declare leaves it as it is, if there are levels enough. -/
theorem Contents.steps (h : Contents levels number? bs)
    (hnew : ∀ n ∈ number?, n ∉ m.fields.map (·.number)) {depth : Nat} (hdepth : levels ≤ depth)
    (r : m.Value) : Steps (m.mergeNext depth) r bs r := by
  cases h with
  | nothing => exact .done r
  | @field _ k front payload hkey hwire hpayload =>
    have htake : Takes (m.mergeNext depth r) (front ++ payload) r :=
      (takes_key_of_spells hkey).bind
        (Record.takes_mergeField m.name (hnew _ rfl) (hpayload.takes depth hdepth) r)
    have hsteps := Steps.next ((m.needy_mergeNext depth r).ne_nil htake) htake (.done r)
    rwa [List.append_nil] at hsteps

/-- It is refused if there are not. -/
theorem Contents.fails (h : Contents levels number? bs)
    (hnew : ∀ n ∈ number?, n ∉ m.fields.map (·.number)) {depth : Nat} (hdepth : depth < levels)
    (r : m.Value) : bs ≠ [] ∧
      ∀ rest, m.mergeNext depth r (bs ++ rest) = .error (.ofCause .tooDeep) := by
  cases h with
  | nothing => exact absurd hdepth (Nat.not_lt_zero depth)
  | @field _ k front payload hkey hwire hpayload =>
    have hne : front ≠ [] := needy_key.ne_nil (takes_key_of_spells hkey)
    refine ⟨List.append_ne_nil_of_left_ne_nil hne payload, fun rest ↦ ?_⟩
    rw [List.append_assoc, Schema.mergeNext, bind_apply, takes_key_of_spells hkey]
    exact Record.mergeField_error m.name (hnew _ rfl) (hpayload.fails depth hdepth rest) r

private theorem Schema.decode_of_steps {v : m.Value}
    (h : Steps (m.mergeNext Schema.maxDepth) m.absent bs v) : m.decode bs = .ok v := by
  rw [Schema.decode, Schema.reader, h.elements]
  rfl

private theorem Schema.decode_of_error (hne : bs ≠ []) {fault : Fault}
    (h : m.mergeNext Schema.maxDepth m.absent bs = .error fault) : m.decode bs = .error fault := by
  have hread := (Steps.done m.absent).elements_error hne h
  rw [List.nil_append] at hread
  rw [Schema.decode, Schema.reader, hread]
  rfl

/-- A message of nothing but what it does not declare is read as an absent one, or it is refused. -/
theorem Contents.decode (h : Contents levels number? bs)
    (hnew : ∀ n ∈ number?, n ∉ m.fields.map (·.number)) :
    m.decode bs =
      if levels ≤ Schema.maxDepth then .ok m.absent else .error (.ofCause .tooDeep) := by
  split
  · next hdepth => exact Schema.decode_of_steps (h.steps hnew hdepth m.absent)
  · next hdepth =>
    obtain ⟨hne, hfail⟩ := h.fails hnew (Nat.lt_of_not_le hdepth) m.absent
    have hall := hfail []
    rw [List.append_nil] at hall
    exact Schema.decode_of_error hne hall

end Message

section Status

variable {m : Schema LeafType} {levels : Nat} {number? : Option Nat} {bs length : Bytes}

private theorem Contents.merge_message (h : Contents levels number? bs)
    (hnew : ∀ n ∈ number?, n ∉ m.fields.map (·.number)) (hlength : Takes varint length bs.length)
    (depth : Nat) (rest : Bytes) :
    (FieldType.message m).merge .lengthDelimited (depth + 1) none (length ++ (bs ++ rest)) =
      if levels ≤ depth then .ok (some m.absent, rest) else .error (.ofCause .tooDeep) := by
  have hmerge : (FieldType.message m).merge .lengthDelimited (depth + 1) none =
      (do return some (← Reader.delimited (m.mergeNext depth) m.absent)) := rfl
  rw [hmerge]
  split
  · next hdepth =>
    have htake := ((h.steps hnew hdepth m.absent).delimited_of_takes hlength).map some
    rw [← List.append_assoc]
    exact htake rest
  · next hdepth =>
    obtain ⟨hne, hfail⟩ := h.fails hnew (Nat.lt_of_not_le hdepth) m.absent
    -- Nothing stands before what is refused, so it is what the part ends inside of.
    have hread : delimited (m.mergeNext depth) m.absent (length ++ ([] ++ (bs ++ rest))) = _ :=
      delimited_unfinished (.done m.absent) hlength hne fun _ _ hok ↦
        nomatch (hfail rest).symm.trans hok
    rw [List.nil_append, hfail rest] at hread
    rw [bind_apply, hread]
    rfl

end Status

/-- Writes groups with given numbers in each other, the outermost one first, around given bytes. -/
def writeGroups (inside : Bytes) : (numbers : List Nat) → Bytes
  | [] => inside
  | number :: numbers =>
    writeKey number .startGroup ++ (writeGroups inside numbers ++ writeKey number .endGroup)

/-- Any numbers that have room in a key can be those of groups. -/
theorem nested_writeGroups (inside : Bytes) {numbers : List Nat}
    (hnumbers : ∀ n ∈ numbers, 0 < n ∧ n * 8 < UInt32.size) :
    Nested inside numbers (writeGroups inside numbers) := by
  induction numbers with
  | nil => exact .inside
  | cons number numbers ih =>
    obtain ⟨⟨h0, h⟩, hmore⟩ := List.forall_mem_cons.1 hnumbers
    exact .group (spellsKey_writeKey h0 h .startGroup) (ih hmore)
      (spellsKey_writeKey h0 h .endGroup)

end Wire

namespace Message

open Wire Reader

private theorem decode_status (name : String) (fs : List (FieldDecl FieldType)) {levels : Nat}
    {number? : Option Nat} {key length bs : Bytes} (hkey : SpellsKey ⟨1, .lengthDelimited⟩ key)
    (hlength : Spells bs.length length) (h : Contents levels number? bs)
    (hnew : ∀ n ∈ number?, n ∉ statusSchema.fields.map (·.number)) :
    (⟨name, status :: fs⟩ : Schema FieldType).decode (key ++ (length ++ bs)) =
      if levels ≤ 99 then .ok (some Status.ok.record, Record.absent fs)
      else .error ⟨[(name, "status")], .tooDeep⟩ := by
  have hfield (rest : Bytes) :
      (⟨name, status :: fs⟩ : Schema FieldType).mergeNext Schema.maxDepth (none, Record.absent fs)
        (key ++ (length ++ (bs ++ rest))) =
      if levels ≤ 99 then .ok ((some Status.ok.record, Record.absent fs), rest)
      else .error ⟨[(name, "status")], .tooDeep⟩ := by
    have hmerge := h.merge_message hnew hlength.takes 99 rest
    show (Reader.key >>= fun k ↦ Record.mergeField name k Schema.maxDepth (status :: fs)
      (none, Record.absent fs)) _ = _
    rw [bind_apply, takes_key_of_spells hkey]
    show ((((FieldType.message statusSchema).merge .lengthDelimited 100 none).within name
      "status" >>= fun v ↦ pure (v, Record.absent fs)) : Reader _) _ = _
    rw [bind_apply, within, hmerge]
    split <;> rfl
  have hne : key ++ (length ++ bs) ≠ [] :=
    List.append_ne_nil_of_left_ne_nil (needy_key.ne_nil (takes_key_of_spells hkey)) _
  split
  · next hdepth =>
    have htake : Takes ((⟨name, status :: fs⟩ : Schema FieldType).mergeNext Schema.maxDepth
        (none, Record.absent fs)) (key ++ (length ++ bs))
        (some Status.ok.record, Record.absent fs) := by
      intro rest
      rw [List.append_assoc, List.append_assoc, hfield rest, if_pos hdepth]
    have hsteps := Steps.next hne htake (.done _)
    rw [List.append_nil] at hsteps
    exact Schema.decode_of_steps hsteps
  · next hdepth =>
    have hfail := hfield []
    rw [List.append_nil, if_neg hdepth] at hfail
    exact Schema.decode_of_error hne hfail

private theorem decode_response {t : ResponseType} (ht : t.bare = false) {levels : Nat}
    {number? : Option Nat} {key length bs : Bytes} (hkey : SpellsKey ⟨1, .lengthDelimited⟩ key)
    (hlength : Spells bs.length length) (h : Contents levels number? bs)
    (hnew : ∀ n ∈ number?, n ∉ statusSchema.fields.map (·.number)) :
    t.schema.decode (key ++ (length ++ bs)) =
      if levels ≤ 99 then .ok (Response.record ⟨some .ok, Record.absent t.payload⟩)
      else .error ⟨[(t.name, "status")], .tooDeep⟩ := by
  have hdecode := decode_status t.name t.payload hkey hlength h hnew
  cases t
  case empty | serverMetadata | listCentroids | listDocuments => cases ht
  all_goals exact hdecode

/-- Groups that a message does not declare may lie a hundred deep in each other, and ninety-nine
deep around a field that is no group; in the status of a response it is one less of each. Nothing is
read of them, and where they lie deeper, this is the fault. -/
theorem nesting_bounded :
    (∀ (m : Schema FieldType) n bs,
      (m.NestsNothing n bs → m.decode bs =
        if n ≤ 100 then .ok m.absent else .error (.ofCause .tooDeep)) ∧
      (m.NestsScalar n bs → m.decode bs =
        if n ≤ 99 then .ok m.absent else .error (.ofCause .tooDeep))) ∧
    (∀ t : ResponseType, t.bare = false → ∀ n key length bs,
      SpellsKey ⟨1, .lengthDelimited⟩ key → Spells bs.length length →
      (statusSchema.NestsNothing n bs → t.schema.decode (key ++ (length ++ bs)) =
        if n ≤ 99 then .ok (Response.record ⟨some .ok, Record.absent t.payload⟩)
        else .error ⟨[(t.name, "status")], .tooDeep⟩) ∧
      (statusSchema.NestsScalar n bs → t.schema.decode (key ++ (length ++ bs)) =
        if n ≤ 98 then .ok (Response.record ⟨some .ok, Record.absent t.payload⟩)
        else .error ⟨[(t.name, "status")], .tooDeep⟩)) ∧
    Cause.tooDeep.text = "recursion limit reached" := by
  have hone {n k : Nat} : n + 1 ≤ k + 1 ↔ n ≤ k := Nat.succ_le_succ_iff
  refine ⟨fun m n bs ↦ ⟨fun h ↦ ?_, fun h ↦ ?_⟩, fun t hbare n key length bs hkey hlength ↦
    ⟨fun h ↦ ?_, fun h ↦ ?_⟩, rfl⟩
  · obtain ⟨number?, hcontents, hnew⟩ := h.contents
    exact hcontents.decode hnew
  · obtain ⟨number?, hcontents, hnew⟩ := h.contents
    simpa only [Schema.maxDepth, hone] using hcontents.decode hnew
  · obtain ⟨number?, hcontents, hnew⟩ := h.contents
    exact decode_response hbare hkey hlength hcontents hnew
  · obtain ⟨number?, hcontents, hnew⟩ := h.contents
    simpa only [hone] using decode_response hbare hkey hlength hcontents hnew

/-- Groups with a number that no message declares, around given bytes. -/
def fifteens (groups : Nat) (inside : Bytes) : Bytes :=
  writeGroups inside (List.replicate groups 15)

/-- The last groups that are passed over and the first that are refused, empty and around a flag, in
a response and in its status. -/
theorem nesting_bounded_atLimits :
    let schema := ResponseType.createDocument.schema
    let inStatus (bs : Bytes) : Bytes := [10] ++ (writeVarint bs.length ++ bs)
    schema.decode (fifteens 100 []) = .ok schema.absent ∧
    schema.decode (fifteens 101 []) = .error (.ofCause .tooDeep) ∧
    schema.decode (fifteens 99 [120, 1]) = .ok schema.absent ∧
    schema.decode (fifteens 100 [120, 1]) = .error (.ofCause .tooDeep) ∧
    schema.decode (inStatus (fifteens 99 [])) = .ok (some Status.ok.record, "", ()) ∧
    schema.decode (inStatus (fifteens 100 [])) =
      .error ⟨[("CreateDocumentResponse", "status")], .tooDeep⟩ ∧
    schema.decode (inStatus (fifteens 98 [120, 1])) = .ok (some Status.ok.record, "", ()) ∧
    schema.decode (inStatus (fifteens 99 [120, 1])) =
      .error ⟨[("CreateDocumentResponse", "status")], .tooDeep⟩ := by
  intro schema inStatus
  have hnested (n : Nat) (inside : Bytes) :
      Nested inside (List.replicate n 15) (fifteens n inside) := by
    refine nested_writeGroups inside fun k hk ↦ ?_
    rw [List.eq_of_mem_replicate hk]
    decide
  have hhead {n k : Nat} (hk : k ∈ (List.replicate n 15).head?) : k = 15 :=
    List.eq_of_mem_replicate (List.mem_of_mem_head? hk)
  have hscalar : ScalarField 15 [120, 1] :=
    ⟨.varint, [120], [1], rfl, spellsKey_byte (by decide),
      .varint (spells_byte (b := 1) (by decide))⟩
  have hnothing {τ : Type} {m : Schema τ} (hnew : 15 ∉ m.fields.map (·.number)) (n : Nat) :
      m.NestsNothing n (fifteens n []) :=
    ⟨_, List.length_replicate, hnested n [], fun k hk ↦ hhead hk ▸ hnew⟩
  have hflag {τ : Type} {m : Schema τ} (hnew : 15 ∉ m.fields.map (·.number)) (n : Nat) :
      m.NestsScalar n (fifteens n [120, 1]) := by
    refine ⟨_, 15, [120, 1], List.length_replicate, hscalar, hnested n _, fun k hk ↦ ?_⟩
    rcases Option.or_eq_some_iff.1 hk with hk | ⟨-, hk⟩
    · exact hhead hk ▸ hnew
    · exact Option.some.inj hk ▸ hnew
  have hresponse : 15 ∉ schema.fields.map (·.number) := by decide
  have hstatus : 15 ∉ statusSchema.fields.map (·.number) := by decide
  have hkey : SpellsKey ⟨1, .lengthDelimited⟩ [10] := spellsKey_byte (by decide)
  obtain ⟨hall, hin, -⟩ := nesting_bounded
  have hin (n : Nat) (inside : Bytes) (hlen : (fifteens n inside).length < UInt64.size) :=
    hin .createDocument rfl n [10] _ (fifteens n inside) hkey (spells_writeVarint hlen)
  exact ⟨(hall schema 100 _).1 (hnothing hresponse 100),
    (hall schema 101 _).1 (hnothing hresponse 101),
    (hall schema 99 _).2 (hflag hresponse 99), (hall schema 100 _).2 (hflag hresponse 100),
    (hin 99 [] (by decide +kernel)).1 (hnothing hstatus 99),
    (hin 100 [] (by decide +kernel)).1 (hnothing hstatus 100),
    (hin 98 [120, 1] (by decide +kernel)).2 (hflag hstatus 98),
    (hin 99 [120, 1] (by decide +kernel)).2 (hflag hstatus 99)⟩

end Message

end CentroidRpc
