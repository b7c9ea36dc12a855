import CentroidRpc.Proofs.Store.Integrity
import Mathlib.Data.List.Basic

/-!
# Listings in pages

Each listing is given as a whole, by position or from an id on. A page by position is a part of the
whole listing, so that pages that follow each other make it up, and a page from an id on is the one
by its first place. Centroids and members are listed once each: a walk from the last id of each page
to the next one visits them all and comes to its end (`Store.Reachable.paging`).
-/

namespace CentroidRpc

/-- A listing that is given in pages. -/
inductive Listing where
  | centroids
  | documents
  | members (centroid : String)
  deriving DecidableEq, Repr

section Pages

variable {l : List String}

private theorem page_add {offset count more : UInt64}
    (hend : offset.toNat + count.toNat < UInt64.size)
    (hsize : count.toNat + more.toNat < UInt64.size) :
    page offset (count + more) l = page offset count l ++ page (offset + count) more l := by
  unfold page
  rw [UInt64.toNat_add, UInt64.toNat_add, Nat.mod_eq_of_lt hend, Nat.mod_eq_of_lt hsize,
    List.take_add, List.drop_drop]

private theorem page_of_length_le {offset : UInt64} (h : l.length ≤ offset.toNat) (count : UInt64) :
    page offset count l = [] := by
  rw [page, List.drop_of_length_le h, List.take_nil]

private theorem dropWhile_ne (l : List String) (id : String) :
    l.dropWhile (· ≠ id) = l.drop (l.idxOf id) := by
  rw [List.dropWhile_eq_drop_findIdx_not]
  congr 2
  funext x
  by_cases hx : x = id <;> simp [hx]

/-- A page from an id on is the page at the first place of the id. -/
theorem pageFrom_eq_page {id : String} {place : UInt64} (h : place.toNat = l.idxOf id)
    (count : UInt64) : pageFrom id count l = page place count l := by
  rw [pageFrom, page, dropWhile_ne, h]

private theorem pageFrom_of_not_mem {id : String} (h : id ∉ l) (count : UInt64) :
    pageFrom id count l = [] := by
  rw [pageFrom, dropWhile_ne, List.idxOf_eq_length h, List.drop_length, List.take_nil]

private theorem pageFrom_of_nodup {before rest : List String} {id : String}
    (h : (before ++ id :: rest).Nodup) {count : UInt64} (hcount : 0 < count.toNat) :
    pageFrom id count (before ++ id :: rest) = id :: rest.take (count.toNat - 1) := by
  have hnew : id ∉ before := fun hid ↦
    (List.nodup_append.1 h).2.2 id hid id List.mem_cons_self rfl
  rw [pageFrom, dropWhile_ne, List.idxOf_append_of_notMem hnew, List.idxOf_cons_self, Nat.add_zero,
    List.drop_left, List.take_cons hcount]

end Pages

namespace Store

variable {α : Type}

/-- Some members of a centroid are selected from all of them. -/
theorem membersOf_eq_map (s : Store α) (centroid : String) (select : List String → List String) :
    s.membersOf centroid select = (s.membersOf centroid id).map select := by
  unfold membersOf
  cases s.members.get? centroid <;> rfl

variable [Weight α]

/-- A whole listing. -/
def listing (s : Store α) : Listing → Except Failure (List String)
  | .centroids => (s.answer .listAllCentroids).1
  | .documents => (s.answer .listAllDocuments).1
  | .members centroid => (s.answer (.listAllDocumentsForCentroid centroid)).1

/-- A page of a listing, by position. -/
def range (s : Store α) (l : Listing) (offset count : UInt64) : Except Failure (List String) :=
  match l with
  | .centroids => (s.answer (.listCentroidRange offset count)).1
  | .documents => (s.answer (.listDocumentRange offset count)).1
  | .members centroid => (s.answer (.listCentroidDocumentRange centroid offset count)).1

/-- A page of a listing, from an id on. -/
def rangeFrom (s : Store α) (l : Listing) (id : String) (count : UInt64) :
    Except Failure (List String) :=
  match l with
  | .centroids => (s.answer (.listCentroidRangeFromId id count)).1
  | .documents => (s.answer (.listDocumentRangeFromId id count)).1
  | .members centroid => (s.answer (.listCentroidDocumentRangeFromId centroid id count)).1

/-- Some pages of one size that follow each other, from a position on. -/
def pages (s : Store α) (l : Listing) (size : UInt64) : Nat → UInt64 → Except Failure (List String)
  | 0, _ => .ok []
  | n + 1, offset => do
    return (← s.range l offset size) ++ (← s.pages l size n (offset + size))

/-- What is visited behind an id by asking for the page from it on, going on to the last id of that
page, and so on until there is nothing new; `none` if that takes more than some turns. -/
def walk (s : Store α) (l : Listing) (size : UInt64) : Nat → String → Option (List String)
  | 0, _ => none
  | turns + 1, id =>
    match s.rangeFrom l id size with
    | .error _ => none
    | .ok page =>
      match page.tail.getLast? with
      | none => some []
      | some last => (s.walk l size turns last).map (page.tail ++ ·)

variable {s : Store α}

/-- A page by position is a part of the whole listing. -/
theorem range_eq_map (s : Store α) (l : Listing) (offset count : UInt64) :
    s.range l offset count = (s.listing l).map (page offset count) := by
  cases l with
  | centroids => rfl
  | documents => rfl
  | members centroid => exact s.membersOf_eq_map centroid _

/-- A page from an id on is a part of the whole listing. -/
theorem rangeFrom_eq_map (s : Store α) (l : Listing) (id : String) (count : UInt64) :
    s.rangeFrom l id count = (s.listing l).map (pageFrom id count) := by
  cases l with
  | centroids => rfl
  | documents => rfl
  | members centroid => exact s.membersOf_eq_map centroid _

private theorem range_add (s : Store α) (l : Listing) {offset count more : UInt64}
    (hend : offset.toNat + count.toNat < UInt64.size)
    (hsize : count.toNat + more.toNat < UInt64.size) :
    s.range l offset (count + more) =
      do return (← s.range l offset count) ++ (← s.range l (offset + count) more) := by
  rw [range_eq_map, range_eq_map, range_eq_map]
  cases s.listing l with
  | error f => rfl
  | ok ids => exact congrArg Except.ok (page_add hend hsize)

variable {l : Listing} {ids : List String}

private theorem pages_eq_ok (h : s.listing l = .ok ids) (size : UInt64) (n : Nat) {offset : UInt64}
    (hfits : offset.toNat + (n - 1) * size.toNat < UInt64.size) :
    s.pages l size n offset = .ok ((ids.drop offset.toNat).take (n * size.toNat)) := by
  induction n generalizing offset with
  | zero => rw [pages, Nat.zero_mul, List.take_zero]
  | succ n ih =>
    have hrange : s.range l offset size = .ok (page offset size ids) := by
      rw [range_eq_map, h]
      rfl
    have hmore : s.pages l size n (offset + size) =
        .ok ((ids.drop (offset.toNat + size.toNat)).take (n * size.toNat)) := by
      cases n with
      | zero => rw [pages, Nat.zero_mul, List.take_zero]
      | succ n =>
        rw [Nat.add_sub_cancel, Nat.succ_mul] at hfits
        have hend : (offset + size).toNat = offset.toNat + size.toNat := by
          rw [UInt64.toNat_add]
          exact Nat.mod_eq_of_lt (Nat.lt_of_le_of_lt (by omega) hfits)
        rw [← hend]
        apply ih
        rw [hend, Nat.add_sub_cancel]
        omega
    rw [pages, hrange, hmore, Nat.succ_mul, Nat.add_comm (n * _), List.take_add, List.drop_drop]
    rfl

private theorem exists_pages_eq_ok (h : s.listing l = .ok ids) (hlen : ids.length ≤ UInt64.size)
    {size : UInt64} (hsize : 0 < size.toNat) : ∃ n, s.pages l size n 0 = .ok ids := by
  refine ⟨(ids.length + (size.toNat - 1)) / size.toNat, ?_⟩
  have hdiv := Nat.div_add_mod (ids.length + (size.toNat - 1)) size.toNat
  have hmod := Nat.mod_lt (ids.length + (size.toNat - 1)) hsize
  rw [Nat.mul_comm] at hdiv
  rw [pages_eq_ok h]
  · rw [UInt64.toNat_zero, List.drop_zero, List.take_of_length_le (by omega)]
  · rw [UInt64.toNat_zero, Nat.zero_add, Nat.sub_mul]
    have hpos : 0 < UInt64.size := by decide
    omega

private theorem walk_succ {before rest : List String} {first : String} {size : UInt64}
    (h : s.listing l = .ok (before ++ first :: rest)) (hnodup : (before ++ first :: rest).Nodup)
    (hsize : 0 < size.toNat) (turns : Nat) :
    s.walk l size (turns + 1) first =
      match (rest.take (size.toNat - 1)).getLast? with
      | none => some []
      | some last => (s.walk l size turns last).map (rest.take (size.toNat - 1) ++ ·) := by
  have hpage : s.rangeFrom l first size = .ok (first :: rest.take (size.toNat - 1)) := by
    rw [rangeFrom_eq_map, h]
    exact congrArg Except.ok (pageFrom_of_nodup hnodup hsize)
  rw [walk, hpage]
  rfl

/-- A walk from an id on comes to its end, and visits what is listed behind the id. -/
theorem walk_eq_some {before rest : List String} {first : String} {size : UInt64} {turns : Nat}
    (h : s.listing l = .ok (before ++ first :: rest)) (hnodup : (before ++ first :: rest).Nodup)
    (hsize : 1 < size.toNat) (hturns : rest.length ≤ turns * (size.toNat - 1)) :
    s.walk l size (turns + 1) first = some rest := by
  induction turns generalizing before first rest with
  | zero =>
    rw [Nat.zero_mul, Nat.le_zero, List.length_eq_zero_iff] at hturns
    rw [walk_succ h hnodup (Nat.lt_of_succ_lt hsize), hturns, List.take_nil]
    rfl
  | succ turns ih =>
    rw [walk_succ h hnodup (Nat.lt_of_succ_lt hsize)]
    cases hlast : (rest.take (size.toNat - 1)).getLast? with
    | none =>
      rw [List.getLast?_eq_none_iff, List.take_eq_nil_iff] at hlast
      rw [hlast.resolve_left (Nat.sub_ne_zero_of_lt hsize)]
    | some last =>
      -- The walk goes on from the last id of the page, with what lies behind the page ahead.
      obtain ⟨passed, hpassed⟩ := List.getLast?_eq_some_iff.1 hlast
      have hids : before ++ first :: rest =
          (before ++ first :: passed) ++ last :: rest.drop (size.toNat - 1) := by
        rw [List.append_assoc, List.cons_append, List.append_cons passed, ← hpassed,
          List.take_append_drop]
      rw [hids] at h hnodup
      have hmore : s.walk l size (turns + 1) last = some (rest.drop (size.toNat - 1)) := by
        apply ih h hnodup
        rw [Nat.succ_mul] at hturns
        rw [List.length_drop]
        exact Nat.sub_le_of_le_add hturns
      show (s.walk l size (turns + 1) last).map _ = some rest
      rw [hmore]
      exact congrArg some (List.take_append_drop _ rest)

/-- Centroids and members are listed once each. -/
theorem Intact.nodup_of_listing (h : s.Intact) (hl : l ≠ .documents)
    (hids : s.listing l = .ok ids) :
    ids.Nodup := by
  cases l with
  | centroids =>
    obtain rfl := Except.ok.inj hids
    exact h.centroids_nodup
  | documents => exact absurd rfl hl
  | members centroid =>
    change s.membersOf centroid id = .ok ids at hids
    unfold membersOf at hids
    split at hids
    · cases hids
    · next c hc =>
      obtain rfl := Except.ok.inj hids
      exact (h.members centroid c hc).nodup

/-- In every store that requests lead to, two pages of a listing that follow each other are one
page, and pages of any size make up the whole of it; there is nothing on a page behind the end. A
page from an id on is the page at its first place, and there is nothing on it if the id is not
listed. Centroids and members are listed once each, and a walk from the first one on, from the last
id of each page to the next page, comes to its end after visiting all others in their order. -/
theorem Reachable.paging (h : s.Reachable) (l : Listing) :
    (∀ offset count more : UInt64, offset.toNat + count.toNat < UInt64.size →
      count.toNat + more.toNat < UInt64.size →
      s.range l offset (count + more) =
        do return (← s.range l offset count) ++ (← s.range l (offset + count) more)) ∧
    ∀ ids, s.listing l = .ok ids →
      (∀ (size : UInt64) (n : Nat), (n - 1) * size.toNat < UInt64.size →
        s.pages l size n 0 = .ok (ids.take (n * size.toNat))) ∧
      (∀ size : UInt64, 0 < size.toNat → ids.length ≤ UInt64.size →
        ∃ n, s.pages l size n 0 = .ok ids) ∧
      (∀ offset count : UInt64, ids.length ≤ offset.toNat → s.range l offset count = .ok []) ∧
      (∀ id (count place : UInt64), place.toNat = ids.idxOf id →
        s.rangeFrom l id count = s.range l place count) ∧
      (∀ id (count : UInt64), id ∉ ids → s.rangeFrom l id count = .ok []) ∧
      (l ≠ .documents → ids.Nodup ∧
        ∀ first rest, ids = first :: rest → ∀ (size : UInt64) (turns : Nat), 1 < size.toNat →
          rest.length ≤ turns * (size.toNat - 1) →
          s.walk l size (turns + 1) first = some rest) := by
  refine ⟨fun offset count more hend hsize ↦ s.range_add l hend hsize, fun ids hids ↦
    ⟨fun size n hfits ↦ ?_, fun size hsize hlen ↦ exists_pages_eq_ok hids hlen hsize, ?_, ?_, ?_,
      fun hl ↦ ?_⟩⟩
  · rw [pages_eq_ok hids size n (by rwa [UInt64.toNat_zero, Nat.zero_add])]
    rfl
  · intro offset count hlen
    rw [range_eq_map, hids]
    exact congrArg Except.ok (page_of_length_le hlen count)
  · intro id count place hplace
    rw [rangeFrom_eq_map, range_eq_map, hids]
    exact congrArg Except.ok (pageFrom_eq_page hplace count)
  · intro id count hid
    rw [rangeFrom_eq_map, hids]
    exact congrArg Except.ok (pageFrom_of_not_mem hid count)
  · have hnodup := h.intact.nodup_of_listing hl hids
    refine ⟨hnodup, ?_⟩
    rintro first rest rfl size turns hsize hturns
    have hall : s.listing l = .ok ([] ++ first :: rest) := hids
    exact walk_eq_some hall hnodup hsize hturns

/-- Four centroids. -/
def fourCentroids : List Request := [.multiCreateCentroids ["a", "b", "c", "d"] false]

/-- In pages of three, the second of which ends the listing and the third of which repeats its last
id, four centroids are visited once each; and the page at the greatest position is empty. -/
theorem paging_fourCentroids :
    (empty.run fourCentroids : Store Float).Reachable ∧
    (empty.run fourCentroids : Store Float).walk .centroids 3 3 "a" = some ["b", "c", "d"] ∧
    (empty.run fourCentroids : Store Float).range .centroids 18446744073709551615 2 = .ok [] := by
  have hs : (empty.run fourCentroids : Store Float).Reachable := ⟨fourCentroids, rfl⟩
  have hids : (empty.run fourCentroids : Store Float).listing .centroids =
      .ok ["a", "b", "c", "d"] := rfl
  obtain ⟨-, -, hend, -, -, hwalk⟩ := (hs.paging .centroids).2 _ hids
  exact ⟨hs, (hwalk nofun).2 "a" _ rfl 3 2 (by decide) (by decide), hend _ 2 (by decide)⟩

end Store

end CentroidRpc
