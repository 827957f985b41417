import Mothbus.Adu.Link

/-!
# A server at work

What can happen to a server, in any order: its caller starts to read a request, bytes arrive, the outstanding read completes, its
caller answers. One request is read at a time, and an answer may be written while a read is outstanding; both use the one array.
-/

namespace Mothbus.Tcp

/-- What can happen to a server. -/
inductive Move where
  | call
  | arrive (bytes : List UInt8)
  | complete (indeterminate : UInt8)
  | answer (transactionId : UInt16) (slave : UInt8) (response : Answer)

namespace Server

/-- What a move does. A call while a read is outstanding is not made. -/
def move : Move → Exec Fault Server Unit
  | .call => do
    let s ← Exec.state
    if s.pending.isSome then return
    asyncReadRequest
  | .arrive bytes =>
    Exec.update (fun s => { s with stream.nextLayer.incoming := s.stream.nextLayer.incoming ++ bytes })
  | .complete indeterminate => complete indeterminate
  | .answer transactionId slave response =>
    Exec.within (·.stream) (fun stream s => { s with stream }) (Stream.writeResponse transactionId slave response)

/-- A run of a server. -/
def run (moves : List Move) : Exec Fault Server Unit := moves.forM move

/-- A call starts a read where none is outstanding. -/
theorem move_call {s : Server} (h : s.pending = none) : move .call s = asyncReadRequest s := by
  show (if s.pending.isSome = true then pure () else asyncReadRequest : Exec Fault Server Unit) s = _
  rw [h]
  rfl

/-- Where one is, it is not made. -/
theorem move_call_outstanding {s : Server} {p : PendingRead} (h : s.pending = some p) : move .call s = (.ok (), s) := by
  show (if s.pending.isSome = true then pure () else asyncReadRequest : Exec Fault Server Unit) s = _
  rw [h]
  rfl

/-- One call of `async_read_request` is a run of three moves. -/
theorem run_readRequest (indeterminate : UInt8) {s : Server} (h : s.pending = none) :
    run [.call, .complete indeterminate, .complete indeterminate] s = readRequest indeterminate s := by
  show (move .call >>= fun _ => complete indeterminate >>= fun _ => complete indeterminate >>= fun _ => pure PUnit.unit) s = _
  unfold readRequest
  rw [bind_pure_unit, Exec.bind_ok (move_call h)]
  rfl

end Server

end Mothbus.Tcp
