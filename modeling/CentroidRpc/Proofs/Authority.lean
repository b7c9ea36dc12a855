import CentroidRpc.Proofs.Environment
import CentroidRpc.Proofs.Lifecycle

/-!
# What is dialled

The host of a configuration is written into the address to dial as it is, and there the authority
ends at the first mark of a path, a query or a fragment. So whatever is dialled is the host and the
port that were configured exactly if the host has no such mark (`Session.dialled_authority`).
-/

namespace CentroidRpc

namespace Config

variable {c : Config}

/-- The host and the port, as they stand in the address to dial. -/
def authority (c : Config) : String := c.host ++ ":" ++ toString c.port

/-- Whether there is no mark in the host that ends an authority. -/
def Unmarked (c : Config) : Prop := ∀ x ∈ c.host.toList, Endpoint.endsAuthority x = false

/-- Whether the host and the port are the authority of an address that is not too long. -/
def Fits (c : Config) : Prop :=
  c.uri.utf8ByteSize ≤ Endpoint.maxBytes ∧ Endpoint.isAuthority c.authority.toList = true

instance : Decidable c.Unmarked := List.decidableBAll _ c.host.toList

instance : Decidable c.Fits := inferInstanceAs (Decidable (_ ∧ _))

private theorem toList_authority (c : Config) :
    c.authority.toList = c.host.toList ++ ':' :: (toString c.port).toList := by
  simp [authority, String.toList_append]

private theorem toList_uri (c : Config) : c.uri.toList = Endpoint.scheme ++ c.authority.toList := by
  have huri : c.uri = "http://" ++ c.authority := by
    simp only [uri, authority, String.append_assoc]
  rw [huri, String.toList_append]
  rfl

private theorem not_endsAuthority_of_isDigit {x : Char} (h : x.isDigit = true) :
    Endpoint.endsAuthority x = false := by
  by_contra hends
  simp only [Endpoint.endsAuthority, Bool.or_eq_true, decide_eq_true_eq, Bool.not_eq_false] at hends
  rcases hends with (rfl | rfl) | rfl <;> exact absurd h (by decide)

private theorem Unmarked.toList_authority (h : c.Unmarked) :
    ∀ x ∈ c.authority.toList, Endpoint.endsAuthority x = false := by
  intro x hx
  simp only [Config.toList_authority, List.mem_append, List.mem_cons] at hx
  rcases hx with hx | rfl | hx
  · exact h x hx
  · rfl
  · exact not_endsAuthority_of_isDigit ((digits_toString c.port).isDigit x hx)

private theorem takeWhile_authority (h : ¬ c.Unmarked) :
    c.authority.toList.takeWhile (!Endpoint.endsAuthority ·) =
      c.host.toList.takeWhile (!Endpoint.endsAuthority ·) := by
  have hshort : ¬ (c.host.toList.takeWhile (!Endpoint.endsAuthority ·)).length =
      c.host.toList.length := by
    intro hlength
    apply h
    have hall := (List.takeWhile_prefix (!Endpoint.endsAuthority ·)).eq_of_length hlength
    simpa [Unmarked, List.takeWhile_eq_self_iff] using hall
  rw [toList_authority, List.takeWhile_append, if_neg hshort]

private theorem ofList_takeWhile_ne_authority (c : Config) (p : Char → Bool) :
    String.ofList (c.host.toList.takeWhile p) ≠ c.authority := by
  intro h
  have hlength := congrArg (·.toList.length) h
  have hle := (List.takeWhile_prefix p (l := c.host.toList)).length_le
  simp only [String.toList_ofList, toList_authority, List.length_append, List.length_cons]
    at hlength
  omega

end Config

namespace Endpoint

/-- The address that a configuration names. -/
theorem parse?_uri (c : Config) : parse? c.uri =
    if maxBytes < c.uri.utf8ByteSize then none
    else
      let authority := c.authority.toList.takeWhile (!endsAuthority ·)
      let target := (c.authority.toList.dropWhile (!endsAuthority ·)).takeWhile (· ≠ '#')
      if isAuthority authority && isTarget target then
        some ⟨String.ofList authority, String.ofList target⟩
      else none := by
  have hscheme : scheme.isPrefixOf c.uri.toList = true := by
    rw [c.toList_uri, List.isPrefixOf_iff_prefix]
    exact List.prefix_append _ _
  have hrest : c.uri.toList.drop scheme.length = c.authority.toList := by
    rw [c.toList_uri, List.drop_left]
  simp only [parse?, hscheme, hrest, Bool.not_true, Bool.false_eq_true, if_false]

/-- Without a mark in the host the address is the host and the port, or it is none. -/
theorem parse?_uri_of_unmarked {c : Config} (h : c.Unmarked) :
    parse? c.uri = if c.Fits then some ⟨c.authority, ""⟩ else none := by
  have hall : c.authority.toList.takeWhile (!endsAuthority ·) = c.authority.toList := by
    rw [List.takeWhile_eq_self_iff]
    simpa using h.toList_authority
  have hnone : c.authority.toList.dropWhile (!endsAuthority ·) = [] := by
    rw [List.dropWhile_eq_nil_iff]
    simpa using h.toList_authority
  rw [parse?_uri]
  by_cases hlong : maxBytes < c.uri.utf8ByteSize
  · simp [Config.Fits, hlong, Nat.not_le.2 hlong]
  · simp [Config.Fits, hall, hnone, hlong, Nat.not_lt.1 hlong, isTarget]

private theorem authority_of_marked {c : Config} (h : ¬ c.Unmarked) {endpoint : Endpoint}
    (hparse : parse? c.uri = some endpoint) :
    endpoint.authority = String.ofList (c.host.toList.takeWhile (!endsAuthority ·)) := by
  rw [parse?_uri] at hparse
  split at hparse
  · cases hparse
  · simp only [c.takeWhile_authority h] at hparse
    split at hparse
    · cases hparse
      rfl
    · cases hparse

/-- The authority is the host and the port exactly if there is no mark in the host. -/
theorem authority_eq_iff {c : Config} {endpoint : Endpoint}
    (hparse : parse? c.uri = some endpoint) :
    endpoint.authority = c.authority ↔ c.Unmarked := by
  constructor
  · intro h
    by_contra hmarked
    rw [authority_of_marked hmarked hparse] at h
    exact c.ofList_takeWhile_ne_authority _ h
  · intro h
    rw [parse?_uri_of_unmarked h] at hparse
    split at hparse
    · cases hparse
      rfl
    · cases hparse

end Endpoint

namespace Session

variable {σ ω : Type}

/-- What is dialled is the host and the port that were configured exactly if there is no mark of a
path, a query or a fragment in the host; if there is one, only what stands before it is dialled, and
the port is lost. Without such a mark the host and the port are dialled with nothing behind them, or
they are told to be no address, and then nothing is dialled and everything stays as it is. -/
theorem dialled_authority (s : Session σ ω) (d : Dialling σ ω) :
    let c := s.client.config
    (∀ endpoint answered, (endpoint, answered) ∈ s.dialled d →
      (endpoint.authority = c.authority ↔ c.Unmarked) ∧
      (¬ c.Unmarked → endpoint.authority =
        String.ofList (c.host.toList.takeWhile (!Endpoint.endsAuthority ·)))) ∧
    (s.client.connection.isOpen = false → c.Unmarked →
      if c.Fits then
        s.dialled d = [(⟨c.authority, ""⟩, (d ⟨c.authority, ""⟩ s.world).1.isSome)]
      else s.dialled d = [] ∧ s.dial d = (.error (.invalidUrl c.uri), s)) := by
  intro c
  constructor
  · intro endpoint answered hmem
    have hparse : Endpoint.parse? c.uri = some endpoint := by
      rw [dialled_eq] at hmem
      split at hmem
      · cases hmem
      · split at hmem
        · cases hmem
        · next hparse =>
          cases List.mem_singleton.1 hmem
          exact hparse
    exact ⟨Endpoint.authority_eq_iff hparse, fun h ↦ Endpoint.authority_of_marked h hparse⟩
  · intro hopen hunmarked
    have hparse := Endpoint.parse?_uri_of_unmarked hunmarked
    by_cases hfits : c.Fits
    · rw [if_pos hfits] at hparse ⊢
      rw [dialled_eq, hopen, hparse]
      rfl
    · rw [if_neg hfits] at hparse ⊢
      constructor
      · rw [dialled_eq, hopen, hparse]
        rfl
      · exact s.dial_of_invalid d hopen hparse

/-- A client that is to be connected to a host and a port, with somebody at every address. -/
def toConnect (host : String) (port : UInt16) : Session Unit Unit :=
  ⟨.ofConfig (.forHost host port), ()⟩

/-- A host with a user before it and an address of version six in brackets is dialled. -/
theorem dialled_authority_bracketed :
    let s := toConnect "me@[::1]" 9000
    s.client.connection.isOpen = false ∧ s.client.config.Unmarked ∧ s.client.config.Fits ∧
    s.dialled (fun _ _ ↦ (some (), ())) = [(⟨"me@[::1]:9000", ""⟩, true)] := by
  intro s
  have hopen : s.client.connection.isOpen = false := rfl
  have hunmarked : s.client.config.Unmarked := by decide
  have hfits : s.client.config.Fits := by decide +kernel
  have hdialled := (s.dialled_authority fun _ _ ↦ (some (), ())).2 hopen hunmarked
  have hauthority : s.client.config.authority = "me@[::1]:9000" := by decide
  rw [if_pos hfits, hauthority] at hdialled
  exact ⟨hopen, hunmarked, hfits, hdialled⟩

/-- Where a path begins in the host, another port is dialled than the one that was configured. -/
theorem not_dialled_as_configured :
    (toConnect "localhost/" 9000).dialled (fun _ _ ↦ (some (), ())) =
      [(⟨"localhost", "/:9000"⟩, true)] ∧
    (toConnect "localhost/" 9000).client.config.authority = "localhost/:9000" ∧
    ¬ ∀ (c : Config) (endpoint : Endpoint), Endpoint.parse? c.uri = some endpoint →
      endpoint.authority = c.authority := by
  refine ⟨?_, rfl, ?_⟩
  · decide +kernel
  · intro h
    have hsame := h (.forHost "localhost/" 9000) ⟨"localhost", "/:9000"⟩ (by decide +kernel)
    exact absurd hsame (by decide)

end Session

end CentroidRpc
