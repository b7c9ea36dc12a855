import CentroidRpc.Proofs.Store.Integrity

/-!
# Ids that are made up

A document that comes without an id gets the next one of a row of numbered ids. Nothing keeps
clients from choosing such an id themselves, and then the document of theirs is overwritten
(`Store.not_storedBeside`). So a new document leaves the others alone exactly if the next id is not
taken, and it is taken only if a client chose it (`Store.createDocument_after_run`).
-/

namespace CentroidRpc

namespace Store

variable {α : Type}

/-- The id with a number. -/
def numberedId (n : UInt64) : String := "doc-" ++ toString n

/-- Numbered ids tell their numbers apart. -/
theorem numberedId_injective {m n : UInt64} (h : numberedId m = numberedId n) : m = n := by
  have hchars : "doc-".toList ++ (toString m.toNat).toList =
      "doc-".toList ++ (toString n.toNat).toList := by
    rw [← String.toList_append, ← String.toList_append]
    exact congrArg String.toList h
  have hdigits : (toString m.toNat).toList = (toString n.toNat).toList :=
    List.append_cancel_left hchars
  rw [Nat.toString_eq_ofList_toDigits, Nat.toString_eq_ofList_toDigits, String.toList_ofList,
    String.toList_ofList] at hdigits
  have hnumbers := congrArg (Nat.ofDigitChars 10 · 0) hdigits
  simp only [Nat.ofDigitChars_ten_toDigits] at hnumbers
  exact UInt64.toNat_inj.1 hnumbers

/-- How many of some requests create a document without an id. -/
def creations (rs : List Request) : Nat := rs.countP (·.operation = .createDocument)

/-- One more request is one more creation or none. -/
theorem creations_concat (rs : List Request) (r : Request) :
    creations (rs ++ [r]) = creations rs + if r.operation = .createDocument then 1 else 0 := by
  simp only [creations, List.countP_append, List.countP_singleton, decide_eq_true_eq]

/-- Where the id of a document comes from: a client chose it, or it was made up. -/
def Origin (rs : List Request) (d : String) : Prop :=
  (∃ text language, .createDocumentWithId d text language ∈ rs) ∨
    ∃ n, 0 < n ∧ n ≤ creations rs ∧ d = numberedId (.ofNat n)

/-- More requests do not take away where an id comes from. -/
theorem Origin.concat {rs : List Request} {d : String} (h : Origin rs d) (r : Request) :
    Origin (rs ++ [r]) d := by
  rcases h with ⟨text, l, hmem⟩ | ⟨n, hpos, hle, hd⟩
  · exact .inl ⟨text, l, List.mem_append_left [r] hmem⟩
  · refine .inr ⟨n, hpos, ?_, hd⟩
    rw [creations_concat]
    exact Nat.le_add_right_of_le hle

/-- What is known of the ids in a store after some requests. -/
structure Numbered (s : Store α) (rs : List Request) : Prop where
  generated : s.generated = .ofNat (creations rs)
  origin : ∀ d, s.hasDocument d = true → Origin rs d

private theorem numbered_empty : (empty : Store α).Numbered [] := ⟨rfl, nofun⟩

/-- The next id is not one of those that were made up before, as long as the numbers last. -/
theorem Numbered.chosen_of_taken {s : Store α} {rs : List Request} (h : s.Numbered rs)
    (hcount : creations rs < UInt64.size) (htaken : s.hasDocument s.nextId = true) :
    ∃ text language, .createDocumentWithId s.nextId text language ∈ rs := by
  rcases h.origin s.nextId htaken with hchosen | ⟨n, hpos, hle, hn⟩
  · exact hchosen
  · exfalso
    -- After the greatest number comes zero, which was not used either.
    have hnumber : s.generated + 1 = .ofNat n := numberedId_injective hn
    have hnat := congrArg UInt64.toNat hnumber
    rw [h.generated, UInt64.toNat_add, UInt64.toNat_ofNat', UInt64.toNat_ofNat',
      UInt64.toNat_one] at hnat
    rw [UInt64.size] at hcount
    omega

variable [Weight α] {s : Store α}

/-- What a request does to the documents of a store. -/
inductive DocumentEffect (s s' : Store α) : Request → Prop where
  /-- A document is stored under an id that is made up, whether or not there is one with it. -/
  | created {text : String} {language : Int32} (generated : s'.generated = s.generated + 1)
      (contents : s'.contents = s.contents.insert s.nextId ⟨language, .ofText text⟩) :
      DocumentEffect s s' (.createDocument text language)
  /-- A document is stored under an id that was chosen and is new. -/
  | stored {id text : String} {language : Int32} (new : s.hasDocument id = false)
      (generated : s'.generated = s.generated)
      (contents : s'.contents = s.contents.insert id ⟨language, .ofText text⟩) :
      DocumentEffect s s' (.createDocumentWithId id text language)
  /-- No document is stored. -/
  | retained {r : Request} (other : r.operation ≠ .createDocument) (retains : s.Retains s') :
      DocumentEffect s s' r

/-- Whatever is asked, a document is stored or none is. -/
theorem documentEffect_answer (s : Store α) (r : Request) :
    s.DocumentEffect (s.answer r).2 r := by
  cases r with
  | createDocument text l => exact .created rfl rfl
  | createDocumentWithId id text l =>
    show s.DocumentEffect (s.createDocumentWithId id text l).2 _
    unfold createDocumentWithId
    split
    · exact .retained nofun (.refl s)
    · next hnew => exact .stored (Bool.eq_false_iff.2 hnew) rfl rfl
  | _ => exact .retained nofun (retains_of_rearranges (rearranges_answer s nofun nofun))

/-- One more request, and the ids come from one more. -/
theorem Numbered.answer {rs : List Request} (h : s.Numbered rs) (r : Request) :
    (s.answer r).2.Numbered (rs ++ [r]) := by
  have hinserted {d id : String} {document : Document α} :
      (s.contents.insert id document).contains d = true → d = id ∨ s.hasDocument d = true := by
    rw [Dict.contains_insert, Bool.or_eq_true, beq_iff_eq]
    exact fun hd ↦ hd
  cases documentEffect_answer s r with
  | @created text l hgenerated hcontents =>
    have hcount : creations (rs ++ [.createDocument text l]) = creations rs + 1 :=
      creations_concat rs _
    have hnext : s.generated + 1 = .ofNat (creations rs + 1) := by
      rw [h.generated, UInt64.ofNat_add]
      rfl
    refine ⟨by rw [hgenerated, hcount, hnext], fun d hd ↦ ?_⟩
    rw [hasDocument, hcontents] at hd
    rcases hinserted hd with rfl | hd
    · refine .inr ⟨creations rs + 1, Nat.succ_pos _, Nat.le_of_eq hcount.symm, ?_⟩
      exact congrArg numberedId hnext
    · exact (h.origin d hd).concat _
  | @stored id text l _ hgenerated hcontents =>
    have hcount : creations (rs ++ [.createDocumentWithId id text l]) = creations rs :=
      creations_concat rs _
    refine ⟨by rw [hgenerated, hcount, h.generated], fun d hd ↦ ?_⟩
    rw [hasDocument, hcontents] at hd
    rcases hinserted hd with rfl | hd
    · exact .inl ⟨text, l, List.mem_append_right rs List.mem_cons_self⟩
    · exact (h.origin d hd).concat _
  | retained hother hretains =>
    have hcount : creations (rs ++ [r]) = creations rs := by
      rw [creations_concat, if_neg hother, Nat.add_zero]
    refine ⟨by rw [hretains.generated, hcount, h.generated], fun d hd ↦ ?_⟩
    exact (h.origin d (hretains.hasDocument hd)).concat r

/-- After some requests, the ids come from these. -/
theorem numbered_run (rs : List Request) : (empty.run rs : Store α).Numbered rs := by
  -- What has been asked already is kept general for the induction on what is still to come.
  suffices hrun : ∀ (s : Store α) (done : List Request), s.Numbered done →
      (s.run rs).Numbered (done ++ rs) from hrun empty [] numbered_empty
  induction rs with
  | nil =>
    intro s done h
    rwa [List.append_nil]
  | cons r rs ih =>
    intro s done h
    have hrest := ih _ _ (h.answer r)
    rwa [List.append_assoc] at hrest

/-- A document has been stored under an id, and what was there before is still there. -/
structure StoredBeside (s : Store α) (id : String) (s' : Store α) : Prop where
  new : s.hasDocument id = false
  kept : ∀ d, s.hasDocument d = true → s'.contents.get? d = s.contents.get? d
  listed_once : (listIn (s'.answer .listAllDocuments).1).count id = 1

private theorem Intact.storedBeside_putDocument (h : s.Intact) {id : String}
    (hnew : s.hasDocument id = false) (text : String) (language : Int32) :
    s.StoredBeside id (s.putDocument id text language) where
  new := hnew
  kept d hd := by
    show (s.contents.insert id _).get? d = _
    rw [Dict.get?_insert, if_neg]
    rintro rfl
    rw [hnew] at hd
    cases hd
  listed_once := by
    have hlisted : id ∉ s.documents := by
      rw [h.mem_documents, hnew]
      exact Bool.false_ne_true
    show (s.documents ++ [id]).count id = 1
    rw [List.count_append, List.count_eq_zero_of_not_mem hlisted, List.count_singleton_self]

/-- A document that comes without an id gets the next one, and all documents with other ids are left
alone. It is stored beside the others exactly if the next id is not taken; and as long as the
numbers last, it is taken only if a client chose it. -/
theorem createDocument_after_run (rs : List Request) (text : String) (language : Int32) :
    let s : Store α := empty.run rs
    let r : Request := .createDocument text language
    (s.answer r).1 = .ok s.nextId ∧
    (∀ d, d ≠ s.nextId → (s.answer r).2.contents.get? d = s.contents.get? d) ∧
    (s.StoredBeside s.nextId (s.answer r).2 ↔ s.hasDocument s.nextId = false) ∧
    (creations rs < UInt64.size → s.hasDocument s.nextId = true →
      ∃ text language, .createDocumentWithId s.nextId text language ∈ rs) := by
  intro s r
  have hintact : s.Intact := Reachable.intact ⟨rs, rfl⟩
  refine ⟨rfl, fun d hd ↦ ?_, ⟨fun h ↦ h.new, fun hnew ↦ ?_⟩, (numbered_run rs).chosen_of_taken⟩
  · show (s.contents.insert s.nextId _).get? d = _
    rw [Dict.get?_insert, if_neg hd]
  · have hbeside := hintact.storedBeside_putDocument hnew text language
    exact ⟨hbeside.new, hbeside.kept, hbeside.listed_once⟩

/-- Of two documents one has an id that was chosen, the other one an id that was made up. A third
one is stored beside them. -/
theorem createDocument_third :
    let s : Store Float :=
      empty.run [.createDocumentWithId "a" "red" 0, .createDocument "green" 0]
    (s.answer .listAllDocuments).1 = .ok ["a", "doc-1"] ∧
    s.StoredBeside "doc-2" (s.answer (.createDocument "blue" 0)).2 := by
  obtain ⟨-, -, hbeside, -⟩ := createDocument_after_run (α := Float)
    [.createDocumentWithId "a" "red" 0, .createDocument "green" 0] "blue" 0
  exact ⟨rfl, hbeside.2 rfl⟩

/-- A client has chosen the id that is made up next, and its document is overwritten and listed
twice. -/
theorem not_storedBeside :
    let s : Store Float := empty.run [.createDocumentWithId "doc-1" "red" 2]
    let s' := (s.answer (.createDocument "blue" 1)).2
    s.Reachable ∧ s.languageOf "doc-1" = some 2 ∧
    (s.answer (.createDocument "blue" 1)).1 = .ok "doc-1" ∧ s'.languageOf "doc-1" = some 1 ∧
    (s'.answer .listAllDocuments).1 = .ok ["doc-1", "doc-1"] ∧ ¬ s.StoredBeside "doc-1" s' := by
  refine ⟨⟨_, rfl⟩, rfl, rfl, rfl, rfl, fun h ↦ ?_⟩
  cases h.new

end Store

end CentroidRpc
