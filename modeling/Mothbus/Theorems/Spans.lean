import Mothbus.Lemmas.Spans

/-!
# The spans of the callers

No response, however it is formed and whatever becomes of it, makes an operation store behind the span of its caller, or anything in it
but received bytes.
-/

namespace Mothbus

/-- How many items the span of the caller has. -/
def Output.size : Output → Nat
  | .none => 0
  | .bytes out => out.length
  | .registers out => out.length

/-- A span keeps its size. -/
theorem Output.WrittenFrom.size_eq {source : List UInt8} {before after : Output} (h : before.WrittenFrom source after) :
    after.size = before.size := by
  cases before <;> cases after
  case none.none => rfl
  case bytes.bytes => exact Overwritten.length_eq h
  case registers.registers =>
    rcases h with rfl | ⟨buffer, -, rfl⟩
    · rfl
    · exact length_makeRegisters _ _
  all_goals exact h.elim

/-- However an operation returns, with success or an error, over either transport, from any state and whatever arrives: the span of the
caller has the size it had, and holds a run of the bytes that arrived, from its start on, and behind them what was there; a span of
registers holds what was there, or registers made of such a buffer. -/
theorem Operation.staysInSpan (op : Operation) (slave : UInt8) :
    (∀ x s ec output s', op.run (Tcp.transport x) slave s = (.ok (ec, output), s') →
      op.output.WrittenFrom s.nextLayer.incoming output ∧ output.size = op.output.size) ∧
    (∀ y s ec output s', op.run (Rtu.transport y) slave s = (.ok (ec, output), s') →
      op.output.WrittenFrom (Rtu.frameBytes s.line) output ∧ output.size = op.output.size) := by
  constructor
  · intro x s ec output s' hrun
    have hwritten := writtenFrom_tcp hrun
    exact ⟨hwritten, hwritten.size_eq⟩
  · intro y s ec output s' hrun
    have hwritten := writtenFrom_rtu hrun
    exact ⟨hwritten, hwritten.size_eq⟩

end Mothbus
