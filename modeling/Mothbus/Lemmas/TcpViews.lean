import Mothbus.Adu.Serving
import Mothbus.Library.Refinement
import Mothbus.Lemmas.TcpClient
import Mothbus.Lemmas.TcpServer

/-!
# What the TCP calls do, without the array

A stream receives into an array and decodes from there. What it does to its connection and tells its caller can be said without
the array and without cursors, on lists of bytes; the calls of the client and the moves of the server refine that.
-/

namespace Mothbus.Tcp

open ErrorLike (ok failed)
open ReadProgram Decoder

/-! ## The client -/

/-- A stream without its array. -/
structure StreamView where
  nextLayer : NextLayer
  transactionId : UInt16

def Stream.view (s : Stream) : StreamView := { nextLayer := s.nextLayer, transactionId := s.transactionId }

/-- The header that some bytes are. -/
def MbapHeader.ofBytes (l : List UInt8) : MbapHeader := ((Stream.readMbap {}).run Buffer.input l).1.2

@[simp] theorem MbapHeader.ofBytes_bytes (h : MbapHeader) : ofBytes h.bytes = h := by
  have hrun : (Stream.readMbap {}).run Buffer.input h.bytes = ((ok, h), []) := (decodes_mbap {} h).run_eq
  rw [ofBytes, hrun]

namespace StreamView

/-- Wait for `size` bytes. -/
def receive (size : Nat) : Exec Fault StreamView (List UInt8) := do
  let v ← Exec.state
  let bytes := v.nextLayer.incoming.take size
  Exec.update (fun v => { v with nextLayer.incoming := v.nextLayer.incoming.drop size })
  if bytes.length < size then Exec.stop (.systemError endOfFile)
  else return bytes

/-- Bytes that are there are received, and what follows is left. -/
theorem receive_ok {v : StreamView} {bytes rest : List UInt8} (h : v.nextLayer.incoming = bytes ++ rest) :
    receive bytes.length v = (.ok bytes, { v with nextLayer.incoming := rest }) := by
  unfold receive
  rw [Exec.bind_state, h, List.take_left' rfl, Exec.bind_update, h, List.drop_left' rfl, if_neg (Nat.lt_irrefl _)]
  rfl

/-- Where there are fewer, the connection ends and nothing is left. -/
theorem receive_short {v : StreamView} {size : Nat} (h : v.nextLayer.incoming.length < size) :
    receive size v = (.error (.systemError endOfFile), { v with nextLayer.incoming := [] }) := by
  unfold receive
  rw [Exec.bind_state, List.take_of_length_le (by omega), Exec.bind_update, List.drop_of_length_le (by omega), if_pos h]
  rfl

/-- Read a response: a header and, unless it is refused, the rest of its frame. -/
def readResponse {α : Type} [PduRead α] (expectedTransactionId : UInt16) (expectedSlave : UInt8) (out : α) :
    Exec Fault StreamView (ErrorCode × α) := do
  if expectedSlave = 0 then return (makeErrorCode .success, out)
  let bytes ← receive MbapHeader.headerSize
  let h := MbapHeader.ofBytes bytes
  match h.refusal expectedTransactionId expectedSlave with
  | some c => return (makeErrorCode c, out)
  | none => do
    let body ← receive (h.length.toNat - 1)
    return Stream.verdict 0 out body

/-- A response without a whole header ends in the end of the connection. -/
theorem readResponse_noHeader {α : Type} [PduRead α] (expectedTransactionId : UInt16) {expectedSlave : UInt8} (out : α)
    (hslave : expectedSlave ≠ 0) {v : StreamView} (hshort : v.nextLayer.incoming.length < MbapHeader.headerSize) :
    readResponse expectedTransactionId expectedSlave out v =
      (.error (.systemError endOfFile), { v with nextLayer.incoming := [] }) := by
  unfold readResponse
  rw [if_neg hslave]
  exact Exec.bind_error (receive_short hshort)

/-- By its header a response is refused, or its body is received and read. -/
theorem readResponse_header {α : Type} [PduRead α] (expectedTransactionId : UInt16) {expectedSlave : UInt8} (out : α)
    (hslave : expectedSlave ≠ 0) {v : StreamView} {h : MbapHeader} {tail : List UInt8} (hin : v.nextLayer.incoming = h.bytes ++ tail) :
    readResponse expectedTransactionId expectedSlave out v =
      (match h.refusal expectedTransactionId expectedSlave with
        | some c => pure (makeErrorCode c, out)
        | none => receive (h.length.toNat - 1) >>= fun body => pure (Stream.verdict 0 out body) :
          Exec Fault StreamView (ErrorCode × α)) { v with nextLayer.incoming := tail } := by
  have hrecv : receive MbapHeader.headerSize v = (.ok h.bytes, { v with nextLayer.incoming := tail }) := receive_ok hin
  unfold readResponse
  rw [if_neg hslave, Exec.bind_ok hrecv, MbapHeader.ofBytes_bytes]

/-- Send an answer, if its PDU is not too long for the array. -/
def writeResponse (transactionId : UInt16) (slave : UInt8) (response : Answer) : Exec Fault StreamView Unit := do
  let pdu := PduWrite.write response
  if 313 < pdu.length then Exec.stop (.outOfBounds 320)
  else Exec.update (fun v => { v with
    nextLayer.outgoing := v.nextLayer.outgoing ++ ((frameHeader transactionId slave pdu).bytes ++ pdu) })

end StreamView

/-- What a client makes of a body does not depend on what its uninitialised local held. -/
theorem Stream.verdict_congr {α : Type} [PduRead α] (x x' : UInt8) (out : α) (body : List UInt8) :
    verdict x out body = verdict x' out body := by
  unfold verdict
  rw [readPduResp_congr Buffer.input_eof_failed x x']

/-- Reading a response, without the array. -/
theorem Stream.readResponse_refines {α : Type} [PduRead α] (indeterminate : UInt8) (expectedTransactionId : UInt16)
    (expectedSlave : UInt8) (out : α) :
    Exec.Refines (fun _ => True) view (readResponse indeterminate expectedTransactionId expectedSlave out)
      (StreamView.readResponse expectedTransactionId expectedSlave out) := by
  rintro s -
  by_cases hslave : expectedSlave = 0
  · unfold readResponse StreamView.readResponse
    rw [if_pos hslave, if_pos hslave]
    exact ⟨rfl, rfl, trivial⟩
  rcases incoming_cases expectedTransactionId expectedSlave s.nextLayer.incoming with
    hshort | ⟨h, tail, c, hin, hc⟩ | ⟨h, tail, hin, hexp, hlong⟩ | ⟨h, body, rest, hin, hexp, hlen⟩
  · obtain ⟨m, hrun⟩ := readResponse_noHeader indeterminate expectedTransactionId out hslave hshort
    rw [hrun, StreamView.readResponse_noHeader (v := s.view) _ out hslave hshort]
    exact ⟨rfl, rfl, trivial⟩
  · obtain ⟨m, hrun⟩ := readResponse_refused indeterminate out hslave hin hc
    rw [hrun, StreamView.readResponse_header (v := s.view) _ out hslave hin, hc]
    exact ⟨rfl, rfl, trivial⟩
  · obtain ⟨m, hrun⟩ := readResponse_short indeterminate out hslave hin hlong hexp
    have htail : tail.length < h.length.toNat - 1 := by omega
    have hrecv := StreamView.receive_short (v := { s.view with nextLayer.incoming := tail }) htail
    rw [hrun, StreamView.readResponse_header (v := s.view) _ out hslave hin, (h.refusal_eq_none_iff _ _).mpr hexp]
    dsimp only
    rw [Exec.bind_error hrecv]
    exact ⟨rfl, rfl, trivial⟩
  · obtain ⟨m, hrun⟩ := readResponse_accepted indeterminate out hslave hin hlen hexp
    have hrecv := StreamView.receive_ok (v := { s.view with nextLayer.incoming := body ++ rest }) rfl
    have hsize : h.length.toNat - 1 = body.length := by omega
    rw [hrun, StreamView.readResponse_header (v := s.view) _ out hslave hin, (h.refusal_eq_none_iff _ _).mpr hexp, hsize,
      verdict_congr indeterminate 0]
    dsimp only
    rw [Exec.bind_ok hrecv]
    exact ⟨rfl, rfl, trivial⟩

/-- Sending an answer, without the array. -/
theorem Stream.writeResponse_refines (transactionId : UInt16) (slave : UInt8) (response : Answer) :
    Exec.Refines (fun _ => True) view (writeResponse transactionId slave response)
      (StreamView.writeResponse transactionId slave response) := by
  rintro s -
  unfold StreamView.writeResponse
  by_cases hlong : 313 < (PduWrite.write response).length
  · rw [writeResponse_full transactionId slave s (asserts_answer response) hlong]
    simp only [if_pos hlong]
    exact ⟨rfl, rfl, trivial⟩
  · obtain ⟨m, hrun⟩ := writeResponse_ok transactionId slave s (asserts_answer response) (Nat.not_lt.mp hlong)
    rw [hrun]
    simp only [if_neg hlong]
    exact ⟨rfl, rfl, trivial⟩

/-! ## The server -/

/-- What a server waits for: a header, or the rest of the frame with a given header. -/
inductive Awaited where
  | header
  | body (h : MbapHeader)

namespace Awaited

/-- How many bytes are waited for. -/
def size : Awaited → Nat
  | header => MbapHeader.headerSize
  | body h => h.length.toNat - 1

/-- How many bytes of the frame have been received before. -/
def offset : Awaited → Nat
  | header => 0
  | body _ => MbapHeader.headerSize

end Awaited

/-- A server without its array. -/
structure ServerView where
  stream : StreamView
  request : PduReq
  awaited : Option Awaited
  calls : List Callback

def PendingRead.awaited (p : PendingRead) : Awaited :=
  match p.handler with
  | .parseHeader _ => .header
  | .parseBody op =>
    .body { transactionId := op.transactionId, protocol := op.protocol, length := op.length, unitId := op.slave }

def Server.view (s : Server) : ServerView :=
  { stream := s.stream.view, request := s.request, awaited := s.pending.map PendingRead.awaited, calls := s.calls }

theorem Server.view_awaited {s : Server} {pending : Option PendingRead} (h : s.pending = pending) :
    s.view.awaited = pending.map PendingRead.awaited :=
  congrArg (Option.map PendingRead.awaited) h

/-- An outstanding read that is as it should be: it waits for what its handler expects, into a buffer with everything before that
received and read, and the two are no longer than a frame may be. -/
structure PendingRead.Ready (p : PendingRead) : Prop where
  size_eq : p.size = p.awaited.size
  drained : p.handler.op.source.Drained p.awaited.offset
  fits : p.awaited.offset + p.size ≤ MbapHeader.maxAduSize

def Server.Ready (s : Server) : Prop := ∀ p, s.pending = some p → p.Ready

/-- The read of a header is as it should be. -/
theorem PendingRead.ready_header (m : Vector UInt8 320) :
    PendingRead.Ready ⟨MbapHeader.headerSize, .parseHeader { source := { messageBuffer := m } }⟩ :=
  ⟨rfl, Buffer.drained_empty m, Nat.le_of_ble_eq_true rfl⟩

/-- The read of the rest of a frame is as it should be, if the length of its header is valid. -/
theorem PendingRead.ready_body {h : MbapHeader} {source : Buffer 320} (hvalid : h.isValidLength = true)
    (hdrained : source.Drained MbapHeader.headerSize) :
    PendingRead.Ready ⟨h.length.toNat - 1, .parseBody {
      source, transactionId := h.transactionId, protocol := h.protocol, length := h.length, slave := h.unitId }⟩ := by
  obtain ⟨hmin, hmax⟩ := h.isValidLength_iff.mp hvalid
  refine ⟨rfl, hdrained, ?_⟩
  show 7 + (h.length.toNat - 1) ≤ 260
  omega

/-- A server without an outstanding read is as it should be. -/
theorem Server.ready_of_none {s : Server} (h : s.pending = none) : s.Ready := by
  intro p hp
  rw [h] at hp
  cases hp

namespace ServerView

/-- Invoke the callback. -/
def callback (transactionId : UInt16) (slave : UInt8) (ec : ErrorCode) (v : ServerView) : ServerView :=
  { v with calls := v.calls ++ [⟨transactionId, slave, ec⟩] }

/-- What is waited for is there, or the connection has ended. -/
def complete (v : ServerView) : ServerView :=
  match v.awaited with
  | none => v
  | some awaited =>
    let bytes := v.stream.nextLayer.incoming.take awaited.size
    let v := { v with awaited := none, stream.nextLayer.incoming := v.stream.nextLayer.incoming.drop awaited.size }
    if bytes.length < awaited.size then v.callback 0 0 endOfFile
    else
      match awaited with
      | .header =>
        let h := MbapHeader.ofBytes bytes
        if h.isValidLength = false then v.callback 0 0 (makeErrorCode .requestTooBig)
        else { v with awaited := some (.body h) }
      | .body h =>
        let (ec, request) := Server.outcome 0 v.request bytes
        { v with request }.callback h.transactionId h.unitId ec

/-- Where less is there than is waited for, the callback is invoked with the end of the connection. -/
theorem complete_short {v : ServerView} {awaited : Awaited} (ha : v.awaited = some awaited)
    (hshort : v.stream.nextLayer.incoming.length < awaited.size) :
    v.complete = { v with
      awaited := none, stream.nextLayer.incoming := [], calls := v.calls ++ [⟨0, 0, endOfFile⟩] } := by
  have htake : v.stream.nextLayer.incoming.take awaited.size = v.stream.nextLayer.incoming := List.take_of_length_le (by omega)
  have hdrop : v.stream.nextLayer.incoming.drop awaited.size = [] := List.drop_of_length_le (by omega)
  unfold complete
  simp only [ha, htake, hdrop, if_pos hshort]
  rfl

/-- A header whose length is not valid ends the read, and by one whose length is valid the body is waited for. -/
theorem complete_header {v : ServerView} {h : MbapHeader} {tail : List UInt8} (ha : v.awaited = some .header)
    (hin : v.stream.nextLayer.incoming = h.bytes ++ tail) :
    v.complete =
      if h.isValidLength = false then { v with
        awaited := none, stream.nextLayer.incoming := tail, calls := v.calls ++ [⟨0, 0, makeErrorCode .requestTooBig⟩] }
      else { v with awaited := some (.body h), stream.nextLayer.incoming := tail } := by
  have htake : (h.bytes ++ tail).take Awaited.header.size = h.bytes := List.take_left' h.length_bytes
  have hdrop : (h.bytes ++ tail).drop Awaited.header.size = tail := List.drop_left' h.length_bytes
  have hlen : ¬h.bytes.length < Awaited.header.size := Nat.lt_irrefl _
  unfold complete
  simp only [ha, hin, htake, hdrop, if_neg hlen, MbapHeader.ofBytes_bytes]
  rfl

/-- By the body the callback is invoked, with the outcome of reading it and the ids of the header. -/
theorem complete_body {v : ServerView} {h : MbapHeader} {pdu tail : List UInt8} (ha : v.awaited = some (.body h))
    (hsize : pdu.length = (Awaited.body h).size) (hin : v.stream.nextLayer.incoming = pdu ++ tail) :
    v.complete = { v with
      awaited := none, stream.nextLayer.incoming := tail, request := (Server.outcome 0 v.request pdu).2,
      calls := v.calls ++ [⟨h.transactionId, h.unitId, (Server.outcome 0 v.request pdu).1⟩] } := by
  have htake : (pdu ++ tail).take (Awaited.body h).size = pdu := List.take_left' hsize
  have hdrop : (pdu ++ tail).drop (Awaited.body h).size = tail := List.drop_left' hsize
  have hlen : ¬pdu.length < (Awaited.body h).size := by omega
  unfold complete
  simp only [ha, hin, htake, hdrop, if_neg hlen]
  rfl

/-- What happens to a server, without the array. -/
def move : Move → Exec Fault ServerView Unit
  | .call => Exec.update (fun v => { v with awaited := v.awaited.or (some .header) })
  | .arrive bytes => Exec.update (fun v => { v with stream.nextLayer.incoming := v.stream.nextLayer.incoming ++ bytes })
  | .complete _ => Exec.update complete
  | .answer transactionId slave response =>
    Exec.within (·.stream) (fun stream v => { v with stream }) (StreamView.writeResponse transactionId slave response)

def run (moves : List Move) : Exec Fault ServerView Unit := moves.forM move

end ServerView

namespace Server

/-- What a server makes of a PDU does not depend on what its uninitialised local held. -/
theorem outcome_congr (x x' : UInt8) (request : PduReq) (pdu : List UInt8) : outcome x request pdu = outcome x' request pdu := by
  unfold outcome
  cases pdu with
  | nil => rfl
  | cons b pdu => rfl

/-- The completion of the read of a header, without the array. -/
theorem complete_header_view (indeterminate : UInt8) {s : Server} {op : RequestReadOp}
    (hp : s.pending = some ⟨MbapHeader.headerSize, .parseHeader op⟩) (hdrained : op.source.Drained 0)
    (hthere : MbapHeader.headerSize ≤ s.stream.nextLayer.incoming.length) :
    (complete indeterminate s).1 = .ok () ∧ (complete indeterminate s).2.view = s.view.complete ∧
      (complete indeterminate s).2.Ready := by
  obtain ⟨h, tail, hin⟩ := MbapHeader.exists_bytes hthere
  rw [ServerView.complete_header (v := s.view) (view_awaited hp) hin]
  cases hvalid : h.isValidLength with
  | false =>
    obtain ⟨m, hrun⟩ := complete_invalid indeterminate hp hdrained hin hvalid
    rw [hrun]
    exact ⟨rfl, rfl, ready_of_none rfl⟩
  | true =>
    obtain ⟨source, hsource, hrun⟩ := complete_header indeterminate hp hdrained hin hvalid
    rw [hrun]
    refine ⟨rfl, rfl, ?_⟩
    rintro _ ⟨⟩
    exact PendingRead.ready_body hvalid hsource

/-- The completion of the read of a body, without the array. -/
theorem complete_body_view (indeterminate : UInt8) {s : Server} {size k : Nat} {op : RequestReadOp}
    (hp : s.pending = some ⟨size, .parseBody op⟩) (hsize : size = op.length.toNat - 1) (hdrained : op.source.Drained k)
    (hthere : size ≤ s.stream.nextLayer.incoming.length) (hfit : k + size ≤ 320) :
    (complete indeterminate s).1 = .ok () ∧ (complete indeterminate s).2.view = s.view.complete ∧
      (complete indeterminate s).2.Ready := by
  have hin : s.stream.nextLayer.incoming = s.stream.nextLayer.incoming.take size ++ s.stream.nextLayer.incoming.drop size :=
    (List.take_append_drop _ _).symm
  have hlen : (s.stream.nextLayer.incoming.take size).length = size := by
    rw [List.length_take]
    omega
  generalize s.stream.nextLayer.incoming.take size = pdu at hin hlen
  generalize s.stream.nextLayer.incoming.drop size = tail at hin
  subst hlen
  obtain ⟨m, hrun⟩ := complete_body indeterminate hp hdrained hin hfit
  rw [hrun, outcome_congr indeterminate 0]
  refine ⟨rfl, ?_, ready_of_none rfl⟩
  exact (ServerView.complete_body (v := s.view) (view_awaited hp) hsize hin).symm

/-- The completion of an outstanding read, without the array. -/
theorem complete_refines (indeterminate : UInt8) :
    Exec.Refines Ready view (complete indeterminate) (Exec.update ServerView.complete) := by
  intro s hs
  rcases hp : s.pending with _ | ⟨size, handler⟩
  · have hview : s.view.complete = s.view := by
      unfold ServerView.complete
      rw [view_awaited hp]
      rfl
    rw [complete_none indeterminate hp]
    exact ⟨rfl, hview.symm, hs⟩
  obtain ⟨hsize, hdrained, hfits⟩ := hs _ hp
  have hfit : (PendingRead.mk size handler).awaited.offset + size ≤ 320 := Nat.le_trans hfits (by decide)
  by_cases hshort : s.stream.nextLayer.incoming.length < size
  · obtain ⟨m, hrun⟩ := complete_short indeterminate hp hdrained hshort hfit
    have hview := ServerView.complete_short (v := s.view) (view_awaited hp) (Nat.lt_of_lt_of_eq hshort hsize)
    rw [hrun]
    exact ⟨rfl, hview.symm, ready_of_none rfl⟩
  cases handler with
  | parseHeader op =>
    obtain rfl : size = MbapHeader.headerSize := hsize
    exact complete_header_view indeterminate hp hdrained (Nat.not_lt.mp hshort)
  | parseBody op => exact complete_body_view indeterminate hp hsize hdrained (Nat.not_lt.mp hshort) hfit

/-- The moves of a server, without the array. -/
theorem move_refines (m : Move) : Exec.Refines Ready view (move m) (ServerView.move m) := by
  cases m with
  | call =>
    intro s hs
    have hmove : ServerView.move .call s.view = (.ok (), { s.view with awaited := s.view.awaited.or (some .header) }) := rfl
    rw [hmove]
    cases hp : s.pending with
    | none =>
      rw [move_call hp, view_awaited hp]
      refine ⟨rfl, rfl, ?_⟩
      rintro _ ⟨⟩
      exact PendingRead.ready_header _
    | some p =>
      rw [move_call_outstanding hp, view_awaited hp]
      refine ⟨rfl, ?_, hs⟩
      exact congrArg (fun a => { s.view with awaited := a }) (view_awaited hp)
  | arrive bytes => exact .update (fun _ _ => rfl) (fun _ hs => hs)
  | complete indeterminate => exact complete_refines indeterminate
  | answer transactionId slave response =>
    exact .within (Stream.writeResponse_refines transactionId slave response) (fun _ => rfl) (fun _ _ => rfl) (fun _ _ hs => hs)

/-- The runs of a server, without the array. -/
theorem run_refines (moves : List Move) : Exec.Refines Ready view (run moves) (ServerView.run moves) :=
  .forM move_refines moves

end Server

end Mothbus.Tcp
