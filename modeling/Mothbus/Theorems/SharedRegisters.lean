import Mothbus.Lemmas.History
import Mothbus.Lemmas.World

/-!
# The masters share the registers

Masters, connections, coroutines and the updating thread in any interleaving show nothing but what registers that are read at once show:
no move faults, every call that waits can return, and a result is the effect of the latest call of its master on the registers as they
were at one moment of the call.
-/

namespace Mothbus.Examples

open ErrorLike (ok)

variable {ι : Type} [DecidableEq ι]

/-- What can be seen of the masters and the server can be seen of registers that are read at once. -/
theorem system_linearizable (native : Endian) (registers : List UInt16) {events : List (Event ι)}
    (h : (worldSystem ι native registers).Trace events) : (atomicSystem ι registers).Trace events :=
  (World.simulation native registers).trace h

/-- A master reads two registers while they are written, before its request is answered and after. -/
def readWhileWritten : List (WorldMove Unit) :=
  [.call () 1 (.readRegisters 1 [0, 0]), .requestArrives () 5, .serve () 0 9, .requestArrives () 320, .serve () 0 320,
    .update [1, 2, 3], .serve () 7 320, .update [4, 5, 6], .responseArrives () 8, .complete () 0, .responseArrives () 320, .complete () 1]

/-- What is seen of it. -/
def readWhileWrittenEvents : List (Event Unit) :=
  [.invoke () 1 (.readRegisters 1 [0, 0]), .update [1, 2, 3], .update [4, 5, 6], .result () ok (.registers [2, 3])]

/-- The call is one that masters make. -/
theorem readWhileWritten_answerable : ∀ m ∈ readWhileWritten, m.Answerable := by
  have hcall : Answerable 1 (.readRegisters 1 [0, 0]) :=
    ⟨by decide, ⟨_, rfl, rfl, rfl, by decide⟩, fun q hq => by obtain rfl := Option.some.inj hq; decide⟩
  intro m hm
  simp only [readWhileWritten, List.mem_cons, List.not_mem_nil, or_false] at hm
  rcases hm with rfl | rfl | rfl | rfl | rfl | rfl | rfl | rfl | rfl | rfl | rfl | rfl
  · exact hcall
  all_goals trivial

/-- It is a run from the start, and that is what is seen of it. -/
theorem readWhileWritten_trace : (worldSystem Unit .little [7, 8, 9]).Trace readWhileWrittenEvents :=
  ⟨World.start [7, 8, 9], (World.run .little readWhileWritten (World.start [7, 8, 9])).2, rfl,
    World.systemRun_of_run readWhileWritten_answerable (Prod.ext rfl rfl)⟩

/-- The state in which the server has read the header of the request. -/
def readingBody : World Unit := (World.run .little (readWhileWritten.take 4) (World.start [7, 8, 9])).2

/-- It is reached by the first four of these moves. -/
theorem readingBody_reachable : (worldSystem Unit .little [7, 8, 9]).Reachable readingBody :=
  ⟨World.start [7, 8, 9], [.invoke () 1 (.readRegisters 1 [0, 0])], rfl,
    World.systemRun_of_run (fun m hm => readWhileWritten_answerable m (List.mem_of_mem_take hm)) (Prod.ext rfl rfl)⟩

/-- The read takes effect between the two updates. -/
theorem system_linearizable_readWhileWritten : (atomicSystem Unit [7, 8, 9]).Trace readWhileWrittenEvents :=
  system_linearizable .little [7, 8, 9] readWhileWritten_trace

/-- Every result that is seen is explained by what is seen before it: however the bytes travel and whenever the registers are written, the
master gets the effect of its latest call on the registers as they were at one moment of the call. -/
theorem results_explained (native : Endian) (registers : List UInt16) {trace before after : List (Event ι)} {i : ι} {ec : ErrorCode}
    {output : Output} (h : (worldSystem ι native registers).Trace trace) (htrace : trace = before ++ .result i ec output :: after) :
    Explained registers before i (ec, output) :=
  explained_of_trace ((World.simulation native registers).trace h) htrace

theorem results_explained_readWhileWritten :
    Explained [7, 8, 9] [.invoke () 1 (.readRegisters 1 [0, 0]), .update [1, 2, 3], .update [4, 5, 6]] () (ok, .registers [2, 3]) := by
  have htrace : readWhileWrittenEvents = [.invoke () 1 (.readRegisters 1 [0, 0]), .update [1, 2, 3], .update [4, 5, 6]] ++
      .result () ok (.registers [2, 3]) :: [] := rfl
  exact results_explained .little [7, 8, 9] readWhileWritten_trace htrace

/-- Wherever the system gets to, no move stops with a fault: neither a handler nor a master stores outside its array or fails an
assertion. -/
theorem system_neverFaults (native : Endian) (registers : List UInt16) {w : World ι} (h : (worldSystem ι native registers).Reachable w)
    {m : WorldMove ι} (hm : m.Answerable) : ∃ events w', World.move native m w = (.ok events, w') := by
  obtain ⟨s, -, hs⟩ := (World.simulation native registers).reachable h
  obtain ⟨events, w', s', hmove, -⟩ := hs.move_ok native m hm registers
  exact ⟨events, w', hmove⟩

theorem system_neverFaults_readingBody : ∃ events w', World.move .little (.serve () 0 320) readingBody = (.ok events, w') :=
  system_neverFaults .little [7, 8, 9] readingBody_reachable trivial

/-- Wherever the system gets to, a call that waits returns by five moves of its own conversation: its request and its response have not
been lost, and no other master is needed or touched. -/
theorem waiting_call_returns (native : Endian) (registers : List UInt16) {w : World ι}
    (h : (worldSystem ι native registers).Reachable w) {i : ι} (hcall : (w.conversation i).call.isSome = true) (indeterminate : UInt8) :
    ∃ ec output w', World.run native
        [.requestArrives i 320, .serve i indeterminate 320, .serve i indeterminate 320, .responseArrives i 320, .complete i indeterminate]
        w = (.ok [.result i ec output], w') ∧
      w'.registers = w.registers ∧ (w'.conversation i).call = none ∧ ∀ j, j ≠ i → w'.conversation j = w.conversation j := by
  obtain ⟨s, -, hs⟩ := (World.simulation native registers).reachable h
  obtain ⟨ec, output, c', hrun, hrests⟩ := hs.finish native indeterminate ((hs.conversation i).call_isSome.mp hcall)
  refine ⟨ec, output, _, hrun, rfl, ?_, fun j hj => ?_⟩
  · simp only [World.setConversation, Function.update_self]
    exact hrests.call_eq
  · simp only [World.setConversation, Function.update_of_ne hj]

theorem waiting_call_returns_readingBody :
    ∃ ec output w', World.run .little
        [.requestArrives () 320, .serve () 0 320, .serve () 0 320, .responseArrives () 320, .complete () 0] readingBody =
          (.ok [.result () ec output], w') ∧
      w'.registers = readingBody.registers ∧ (w'.conversation ()).call = none ∧
        ∀ j, j ≠ () → w'.conversation j = readingBody.conversation j :=
  waiting_call_returns .little [7, 8, 9] readingBody_reachable rfl 0

end Mothbus.Examples
