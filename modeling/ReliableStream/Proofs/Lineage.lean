import ReliableStream.Proofs.Changes
/-! # What a connection keeps

    Whatever happens to a connection, even an acknowledgment that makes no
    sense, it stays the **same connection**: its identity and its origin are
    those it was opened with, and once it is closed it stays closed. -/

namespace ReliableStream.Connection

/-- The same connection at a later time. -/
structure Follows (c c' : Connection) : Prop where
  identity : c'.identity = c.identity
  origin : c'.origin = c.origin
  closed : c.phase.isClosed = true → c'.phase.isClosed = true

variable {ctx : Context} {c : Connection}

/-- Whatever happens to a connection, it stays the same. -/
theorem follows_of_respond {stimulus : Stimulus} {c' : Connection} {effects : List Effect}
    (h : c.respond ctx stimulus = .ok (c', effects)) : c.Follows c' := by
  have hopened : ∀ {r}, c.phase.openReceiver? = some r → ¬ c.phase.isClosed = true :=
    fun hopen => by rw [Phase.isClosed_of_openReceiver? hopen]; exact Bool.false_ne_true
  cases responds_of_respond h with
  | read => exact ⟨rfl, rfl, fun h => (Phase.isClosed_withReceiver _ _).trans h⟩
  | closing hphase => exact ⟨rfl, rfl, fun h => absurd h (hopened (by rw [hphase]; rfl))⟩
  | opened hphase => exact ⟨rfl, rfl, fun h => by rw [hphase] at h; cases h⟩
  | data hopen => exact ⟨rfl, rfl, fun h => absurd h (hopened hopen)⟩
  | dropped hopen => exact ⟨rfl, rfl, fun h => absurd h (hopened hopen)⟩
  | ended hopen => exact ⟨rfl, rfl, fun h => absurd h (hopened hopen)⟩
  | refused => exact ⟨rfl, rfl, fun _ => rfl⟩
  | finished => exact ⟨rfl, rfl, fun _ => rfl⟩
  | _ => exact ⟨rfl, rfl, fun h => h⟩

end ReliableStream.Connection
