import CentroidRpc.Connection

/-!
# The life of a connection

Only an open connection gives access, and only the end of a call with a status that tells of a loss
changes one. The ends of two calls leave the same connection behind, whichever comes first.
-/

namespace CentroidRpc

/-- A connection is gone if nobody is there to answer, or if something happened on this side. -/
theorem RpcStatus.isLoss_iff (s : RpcStatus) :
    s.isLoss = true ↔ s.code = .unavailable ∨ s.source ≠ none := by
  simp [isLoss, Option.isSome_iff_ne_none]

namespace Connection

variable {σ : Type}

/-- An open connection is one that gives access. -/
theorem isOpen_iff (c : Connection σ) : c.isOpen = true ↔ ∃ stub, c = .opened stub := by
  cases c <;> simp [isOpen]

/-- A connection that is not open gives no access. -/
theorem stub_of_not_open {c : Connection σ} (h : c.isOpen = false) :
    c.stub = .error .notConnected := by
  cases c with
  | opened stub => simp [isOpen] at h
  | unopened => rfl
  | closed => rfl

/-- A closed connection stays closed. -/
theorem after_closed {α : Type} (a : Except RpcStatus α) :
    (closed : Connection σ).after a = closed := by
  cases a with
  | ok _ => rfl
  | error s =>
    simp only [after]
    split <;> rfl

/-- It does not matter which of two calls ends first. -/
theorem after_comm {α β : Type} (c : Connection σ) (a : Except RpcStatus α)
    (b : Except RpcStatus β) : (c.after a).after b = (c.after b).after a := by
  cases a with
  | ok _ => rfl
  | error s =>
    cases b with
    | ok _ => rfl
    | error t =>
      simp only [after]
      split <;> split <;> rfl

end Connection

end CentroidRpc
