import Mothbus.Lemmas.TcpViews

/-!
# No stale bytes

What a stream received or sent before is still in its array when the next message is received into it. None of it gets into a
decoded message: two runs that start with different arrays tell their callers the same and send the same.
-/

namespace Mothbus.Tcp

/-- Two moves that differ at most in what an uninitialised local holds. -/
inductive Move.Alike : Move → Move → Prop
  | same (m : Move) : Alike m m
  | complete (x x' : UInt8) : Alike (.complete x) (.complete x')

/-- Without the array, moves that are alike do the same. -/
theorem ServerView.move_congr {m m' : Move} (h : m.Alike m') : move m = move m' := by
  cases h with
  | same => rfl
  | complete x x' => rfl

/-- So do runs of moves that are alike. -/
theorem ServerView.run_congr {moves moves' : List Move} (h : List.Forall₂ Move.Alike moves moves') : run moves = run moves' := by
  induction h with
  | nil => rfl
  | cons hm _ ih =>
    show (move _ >>= fun _ => run _) = (move _ >>= fun _ => run _)
    rw [move_congr hm, ih]

/-- Whatever the array holds at the start:
1. `read_response` returns the same error or throws the same, leaves the same in the caller's object, and has read and sent the same
   on its connection.
2. Any run of a server, of calls of `async_read_request`, bytes that arrive, reads that complete and answers, invokes the callback with
   the same arguments, leaves the same in the request variable, and has read and sent the same. -/
theorem no_stale_bytes :
    (∀ {α : Type} [PduRead α] (x x' : UInt8) (expectedTransactionId : UInt16) (expectedSlave : UInt8) (out : α) (s : Stream)
      (m : Vector UInt8 320),
      let r := Stream.readResponse x expectedTransactionId expectedSlave out s
      let r' := Stream.readResponse x' expectedTransactionId expectedSlave out { s with messageBuffer := m }
      r.1 = r'.1 ∧ r.2.nextLayer = r'.2.nextLayer ∧ r.2.transactionId = r'.2.transactionId) ∧
    ∀ (moves moves' : List Move) (s : Server) (m : Vector UInt8 320), List.Forall₂ Move.Alike moves moves' → s.pending = none →
      let r := Server.run moves s
      let r' := Server.run moves' { s with stream.messageBuffer := m }
      r.1 = r'.1 ∧ r.2.calls = r'.2.calls ∧ r.2.request = r'.2.request ∧ r.2.stream.nextLayer = r'.2.stream.nextLayer := by
  constructor
  · intro α _ x x' expectedTransactionId expectedSlave out s m
    obtain ⟨hresult, hview⟩ := (Stream.readResponse_refines x expectedTransactionId expectedSlave out).agree
      (Stream.readResponse_refines x' expectedTransactionId expectedSlave out) (s := s) (t := { s with messageBuffer := m })
      trivial trivial rfl
    exact ⟨hresult, congrArg StreamView.nextLayer hview, congrArg StreamView.transactionId hview⟩
  · intro moves moves' s m hmoves hpending
    have h := Server.run_refines moves
    rw [ServerView.run_congr hmoves] at h
    obtain ⟨hresult, hview⟩ := h.agree (Server.run_refines moves') (s := s) (t := { s with stream.messageBuffer := m })
      (Server.ready_of_none hpending) (Server.ready_of_none hpending) rfl
    exact ⟨hresult, congrArg ServerView.calls hview, congrArg ServerView.request hview,
      congrArg (fun v => v.stream.nextLayer) hview⟩

/-- A request that ends inside the values it announces, over an array full of `0xFF` and over one full of zeros. -/
theorem no_stale_bytes_cutValues :
    let s : Server := { stream := {
      messageBuffer := Vector.replicate 320 0xFF, nextLayer := { incoming := [0, 1, 0, 0, 0, 8, 1, 0x10, 0, 0, 0, 1, 2, 9] } } }
    let moves : List Move := [.call, .complete 0, .complete 0]
    (Server.run moves s).2.request = (Server.run moves { s with stream.messageBuffer := Vector.replicate 320 0 }).2.request := by
  intro s moves
  have halike : List.Forall₂ Move.Alike moves moves := .cons (.same .call) (.cons (.complete 0 0) (.cons (.complete 0 0) .nil))
  exact (no_stale_bytes.2 moves moves s (Vector.replicate 320 0) halike rfl).2.2.1

end Mothbus.Tcp
