import Mothbus.Lemmas.Cursors

/-!
# The cursors stay within what has been received

`prepare`, `commit` and the access to the array check nothing. That they stay within the array follows from the checks of the length
field, which the client and the server make differently.
-/

namespace Mothbus.Tcp

/-- Whatever arrives on the connection:
1. `read_response`, for every slave, transaction id and response type, does nothing to its buffer that is out of bounds, and does not
   store outside the array.
2. Nor does a server in any run of calls of `async_read_request`, bytes that arrive, reads that complete and answers; and in every state
   it reaches, the outstanding read completes without a fault. -/
theorem receive_inBounds :
    (∀ {α : Type} [PduRead α] (indeterminate : UInt8) (expectedTransactionId : UInt16) (expectedSlave : UInt8) (out : α)
      (s : Stream), ∃ events,
      let r := Stream.readResponse indeterminate expectedTransactionId expectedSlave out s
      Observed.readResponse indeterminate expectedTransactionId expectedSlave out (s, []) = (r.1, (r.2, events)) ∧
        (∀ e ∈ events, e.InBounds) ∧ ∀ i, r.1 ≠ .error (.outOfBounds i)) ∧
    ∀ (moves : List Move) (s : Server), s.pending = none → ∃ events,
      let r := Server.run moves s
      Observed.run moves (s, []) = (r.1, (r.2, events)) ∧
        (∀ e ∈ events, e.InBounds) ∧ ∀ indeterminate, (Server.complete indeterminate r.2).1 = .ok () := by
  constructor
  · intro α _ indeterminate expectedTransactionId expectedSlave out s
    have herases := Observed.erases_readResponse indeterminate expectedTransactionId expectedSlave out
    obtain ⟨hnotes, -⟩ := Observed.notes_readResponse indeterminate expectedTransactionId expectedSlave out s [] trivial
      (fun e he => by cases he)
    exact ⟨_, herases.exists_notes s, hnotes, readResponse_inArray indeterminate expectedTransactionId expectedSlave out s⟩
  · intro moves s hpending
    have hready := Server.ready_of_none hpending
    obtain ⟨hnotes, -⟩ := Observed.notes_run moves s [] hready (fun e he => by cases he)
    refine ⟨_, (Observed.erases_run moves).exists_notes s, hnotes, ?_⟩
    intro indeterminate
    have hreached := (Server.run_refines moves s hready).2.2
    exact (Server.complete_refines indeterminate _ hreached).1

/-- The longest request the length field may announce. -/
theorem receive_inBounds_longest :
    let s : Server := { stream := {
      nextLayer := { incoming := [0, 1, 0, 0, 0, 254, 1] ++ List.replicate 253 0x10 } } }
    let moves : List Move := [.call, .complete 0, .complete 0]
    ∃ events,
      let r := Server.run moves s
      Observed.run moves (s, []) = (r.1, (r.2, events)) ∧
        (∀ e ∈ events, e.InBounds) ∧ ∀ indeterminate, (Server.complete indeterminate r.2).1 = .ok () := by
  intro s moves
  exact receive_inBounds.2 moves s rfl

end Mothbus.Tcp
