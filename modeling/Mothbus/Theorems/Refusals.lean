import Mothbus.Lemmas.Refusals
import Mothbus.Theorems.SharedRegisters

/-!
# Calls that break the next one

The register server answers broadcasts, and it answers reads of up to 125 registers. The client reads no response to a broadcast, and of
one with more than 123 registers only the header. In either case the next call of the master takes what is left for its header.
-/

namespace Mothbus.Examples

open ErrorLike (ok)

variable {ι : Type} [DecidableEq ι]

/-- Wherever the system gets to, a master that waits for nothing rests. -/
theorem World.rests_of_reachable {native : Endian} {registers : List UInt16} {w : World ι} {i : ι}
    (hreach : (worldSystem ι native registers).Reachable w) (hidle : (w.conversation i).call = none) : (w.conversation i).Rests := by
  obtain ⟨s, -, hs⟩ := (World.simulation native registers).reachable hreach
  have hmatches := hs.conversation i
  have hstatus : s.status i = .idle := by
    by_contra hne
    have hsome := hmatches.call_isSome.mpr hne
    rw [hidle] at hsome
    nomatch hsome
  rwa [hstatus] at hmatches

/-- Wherever the system gets to, once a master that waits for nothing has broadcast, its next call to a slave returns an error and leaves
its span as it was, whatever the other masters do, whenever the registers are written and however the bytes travel; and while it waits it
can return so. The error is that of the transaction id, or, when the ids have come round to that of the first broadcast, of the slave. -/
theorem broadcast_refusesNextCall (native : Endian) (registers : List UInt16) {w w₁ w₂ w₃ : World ι} {i : ι}
    (hreach : (worldSystem ι native registers).Reachable w) (hidle : (w.conversation i).call = none)
    {broadcasts : List (WorldMove ι)} (hbroadcasts : ∀ m ∈ broadcasts, m.BroadcastsOnly i) {events : List (Event ι)}
    (hrun : World.run native broadcasts w = (.ok events, w₁)) {op₀ : Operation} (hmade : .invoke i 0 op₀ ∈ events)
    {slave : UInt8} (hslave : slave ≠ 0) {op : Operation}
    (hcall : World.move native (.call i slave op) w₁ = (.ok [.invoke i slave op], w₂))
    {moves : List (WorldMove ι)} (hmoves : ∀ m ∈ moves, m.NoCall i) {events' : List (Event ι)}
    (hrun' : World.run native moves w₂ = (.ok events', w₃)) :
    let code := if (w₁.conversation i).client.transactionId = (w.conversation i).client.transactionId then
      ModbusExceptionCode.slaveIdInvalid else .transactionIdInvalid
    (∀ ec output, .result i ec output ∈ events' → ec = makeErrorCode code ∧ output = op.output) ∧
      ((w₃.conversation i).call.isSome = true → ∀ indeterminate, ∃ w₄, World.run native
        [.requestArrives i 320, .serve i indeterminate 320, .serve i indeterminate 320, .responseArrives i 320, .complete i indeterminate]
        w₃ = (.ok [.result i (makeErrorCode code) op.output], w₄)) := by
  intro code
  have hrests := World.rests_of_reachable hreach hidle
  have hstart : World.Broadcasting i (w.conversation i).client.transactionId [] (w.conversation i) := by
    refine ⟨fun call hsome => ?_, [], [], hrests.backlog, Or.inl ⟨rfl, rfl, fun slave op hmem => absurd hmem List.not_mem_nil⟩⟩
    rw [hidle] at hsome
    nomatch hsome
  have hbroadcasting := World.run_conversation
    (fun es m c events c' hm h hstep => World.broadcasting_step hm h hstep) hbroadcasts hrun hstart
  obtain ⟨-, hstarts⟩ := World.start_of_move hcall
  obtain ⟨call, served, queued, rfl, hrefuses⟩ := hbroadcasting.refuses hmade hslave hstarts
  exact World.refused_run hmoves hrun' hrefuses

/-- Two broadcasts, the second of which the server has not read when the master reads two registers. -/
def twoBroadcasts : List (WorldMove Unit) :=
  [.call () 0 (.writeSingleRegister 1 7), .requestArrives () 5, .complete () 0, .requestArrives () 320, .serve () 0 320, .serve () 0 320,
    .call () 0 (.readRegisters 0 [0]), .update [1, 2, 3], .complete () 0]

/-- The world after them. -/
def afterBroadcasts : World Unit := (World.run .little twoBroadcasts (World.start [7, 8, 9])).2

/-- What is seen of them. -/
def twoBroadcastsEvents : List (Event Unit) :=
  [.invoke () 0 (.writeSingleRegister 1 7), .result () ok .none, .invoke () 0 (.readRegisters 0 [0]), .update [1, 2, 3],
    .result () ok (.registers [0])]

/-- The master reads two registers. -/
def readAfterBroadcasts : World Unit := (World.move .little (.call () 1 (.readRegisters 1 [0, 0])) afterBroadcasts).2

/-- The response to the first broadcast arrives, and the call returns. -/
def lateResponse : List (WorldMove Unit) := [.responseArrives () 320, .complete () 0]

theorem broadcast_refusesNextCall_twoBroadcasts :
    let code := if (afterBroadcasts.conversation ()).client.transactionId = 0 then ModbusExceptionCode.slaveIdInvalid
      else .transactionIdInvalid
    let w₃ := (World.run .little lateResponse readAfterBroadcasts).2
    (∀ ec output, .result () ec output ∈ [Event.result () (makeErrorCode .transactionIdInvalid) (.registers [0, 0])] →
      ec = makeErrorCode code ∧ output = .registers [0, 0]) ∧
    ((w₃.conversation ()).call.isSome = true → ∀ indeterminate, ∃ w₄, World.run .little
        [.requestArrives () 320, .serve () indeterminate 320, .serve () indeterminate 320, .responseArrives () 320,
          .complete () indeterminate]
        w₃ = (.ok [.result () (makeErrorCode code) (.registers [0, 0])], w₄)) := by
  intro code w₃
  have hreach : (worldSystem Unit .little [7, 8, 9]).Reachable (World.start [7, 8, 9]) := ⟨_, [], rfl, .refl _⟩
  have hbroadcasts : ∀ m ∈ twoBroadcasts, m.BroadcastsOnly () := by
    intro m hm
    simp only [twoBroadcasts, List.mem_cons, List.not_mem_nil, or_false] at hm
    rcases hm with rfl | rfl | rfl | rfl | rfl | rfl | rfl | rfl | rfl
    case inl => exact fun _ => rfl
    case inr.inr.inr.inr.inr.inr.inl => exact fun _ => rfl
    all_goals trivial
  have hrun : World.run .little twoBroadcasts (World.start [7, 8, 9]) = (.ok twoBroadcastsEvents, afterBroadcasts) := Prod.ext rfl rfl
  have hcall : World.move .little (.call () 1 (.readRegisters 1 [0, 0])) afterBroadcasts =
      (.ok [.invoke () 1 (.readRegisters 1 [0, 0])], readAfterBroadcasts) := Prod.ext rfl rfl
  have hmoves : ∀ m ∈ lateResponse, m.NoCall () := by
    intro m hm
    simp only [lateResponse, List.mem_cons, List.not_mem_nil, or_false] at hm
    rcases hm with rfl | rfl
    all_goals trivial
  have hrun' : World.run .little lateResponse readAfterBroadcasts =
      (.ok [.result () (makeErrorCode .transactionIdInvalid) (.registers [0, 0])], w₃) := Prod.ext rfl rfl
  exact broadcast_refusesNextCall .little [7, 8, 9] hreach rfl hbroadcasts hrun List.mem_cons_self (by decide) hcall hmoves hrun'

end Mothbus.Examples
