import Mothbus.Adu.Link
import Mothbus.Lemmas.ResponseCodec
import Mothbus.Lemmas.TcpFrame

/-!
# What the TCP server reads

A call of `async_read_request` leaves a read of seven bytes outstanding; its completion leaves a read of the rest of the frame
outstanding; the completion of that one decodes the request and invokes the callback. Each completion is one lemma, and together
they read one unit (`Server.readRequest_ok`).
-/

namespace Mothbus.Tcp

open ErrorLike (ok failed)
open ReadProgram Decoder

/-! ## Decoding does not depend on what was there -/

/-- What the request decoder makes of a PDU, whatever the request variable and the uninitialised function code held: the error
code and what is left of the bytes are the same, and on a success so is the request. -/
theorem readPduReq_congr (x x' : UInt8) (req req' : PduReq) (l : List UInt8) :
    ((readPduReq x req).run Buffer.input l).1.1 = ((readPduReq x' req').run Buffer.input l).1.1 ∧
    (failed ((readPduReq x req).run Buffer.input l).1.1 = false →
      ((readPduReq x req).run Buffer.input l).1.2 = ((readPduReq x' req').run Buffer.input l).1.2) := by
  have hvariant : ∀ (fc : FunctionCode) (kinds : List RequestKind) (l : List UInt8),
      ((readPduVariant fc kinds req).run Buffer.input l).1.1 = ((readPduVariant fc kinds req').run Buffer.input l).1.1 ∧
      (failed ((readPduVariant fc kinds req).run Buffer.input l).1.1 = false →
        ((readPduVariant fc kinds req).run Buffer.input l).1.2 = ((readPduVariant fc kinds req').run Buffer.input l).1.2) := by
    intro fc kinds l
    induction kinds with
    | nil => exact ⟨rfl, fun _ => rfl⟩
    | cons head tail ih =>
      unfold readPduVariant
      by_cases hfc : PduRead.fc head.Pdu = fc
      · rw [if_pos hfc, if_pos hfc, run_bind, run_bind]
        cases hok : failed ((PduRead.read head.fresh).run Buffer.input l).1.1 with
        | true =>
          simp only [hok, if_true, run_pure]
          exact ⟨trivial, fun h => Bool.noConfusion h⟩
        | false =>
          simp only [hok, Bool.false_eq_true, if_false, run_pure]
          exact ⟨trivial, fun _ => trivial⟩
      · rw [if_neg hfc, if_neg hfc]
        exact ih
  rcases l with _ | ⟨b, l⟩
  · have hnil : ∀ y r, (readPduReq y r).run Buffer.input [] = ((makeErrorCode .tooManyBytesReceived, r), []) := fun _ _ => rfl
    rw [hnil, hnil]
    exact ⟨rfl, fun h => absurd (h.symm.trans Buffer.input_eof_failed) (by decide)⟩
  · have hcons : ∀ y r, (readPduReq y r).run Buffer.input (b :: l) =
        (readPduVariant ⟨b⟩ RequestKind.all r).run Buffer.input l := fun _ _ => rfl
    rw [hcons, hcons]
    exact hvariant _ _ _

namespace Server

/-! ## The completions -/

/-- An outstanding read whose bytes are there completes: the handler is called with them in its buffer. -/
theorem complete_ok (indeterminate : UInt8) {s : Server} {size k : Nat} {handler : Handler}
    (hpending : s.pending = some ⟨size, handler⟩) (hdrained : handler.op.source.Drained k)
    (hsize : size ≤ s.stream.nextLayer.incoming.length) (hfit : k + size ≤ 320) :
    ∃ m, complete indeterminate s = handle indeterminate (handler.withSource { handler.op.source with messageBuffer := m }) ok size
        { s with
          pending := none, stream.messageBuffer := m,
          stream.nextLayer.incoming := s.stream.nextLayer.incoming.drop size } ∧
      (({ handler.op.source with messageBuffer := m } : Buffer 320).commit size).Receiving ∧
      (({ handler.op.source with messageBuffer := m } : Buffer 320).commit size).data = s.stream.nextLayer.incoming.take size := by
  have hlen : (s.stream.nextLayer.incoming.take size).length = size := by
    rw [List.length_take]
    omega
  have hsource := hdrained.withArray s.stream.messageBuffer
  obtain ⟨m, hm, hr', -, hd⟩ := Buffer.exists_receive (hsource.receiving (by omega)) (l := s.stream.nextLayer.incoming.take size)
    (by rw [hlen, hsource.inputEnd_eq]; exact hfit)
  rw [hlen] at hr' hd
  rw [hsource.data_eq (by omega), List.nil_append] at hd
  refine ⟨m, ?_, hr', hd⟩
  unfold complete
  rw [Exec.bind_state, hpending]
  simp only [hm, hlen, Nat.lt_irrefl, if_false]
  rfl

/-- Where nothing is outstanding, nothing completes. -/
theorem complete_none (indeterminate : UInt8) {s : Server} (hpending : s.pending = none) : complete indeterminate s = (.ok (), s) := by
  unfold complete
  rw [Exec.bind_state, hpending]
  rfl

/-- The connection ends before the bytes of an outstanding read are there: the callback is invoked with the error, and nothing is
outstanding. -/
theorem complete_short (indeterminate : UInt8) {s : Server} {size k : Nat} {handler : Handler}
    (hpending : s.pending = some ⟨size, handler⟩) (hdrained : handler.op.source.Drained k)
    (hsize : s.stream.nextLayer.incoming.length < size) (hfit : k + size ≤ 320) :
    ∃ m, complete indeterminate s = (.ok (), { s with
      pending := none, stream.messageBuffer := m, stream.nextLayer.incoming := [], calls := s.calls ++ [⟨0, 0, endOfFile⟩] }) := by
  have htake : s.stream.nextLayer.incoming.take size = s.stream.nextLayer.incoming := List.take_of_length_le (by omega)
  have hdrop : s.stream.nextLayer.incoming.drop size = [] := List.drop_of_length_le (by omega)
  have hsource := hdrained.withArray s.stream.messageBuffer
  obtain ⟨m, hm, -⟩ := Buffer.exists_receive (hsource.receiving (by omega)) (l := s.stream.nextLayer.incoming)
    (by rw [hsource.inputEnd_eq]; omega)
  refine ⟨m, ?_⟩
  unfold complete
  rw [Exec.bind_state, hpending, ← hdrop]
  simp only [htake, hm, hsize, if_true]
  rfl

/-- What `parse_header` is called with once the header read completes on a connection that starts with a header. -/
theorem complete_parseHeader (indeterminate : UInt8) {s : Server} {op : RequestReadOp} {h : MbapHeader} {tail : List UInt8}
    (hpending : s.pending = some ⟨MbapHeader.headerSize, .parseHeader op⟩) (hdrained : op.source.Drained 0)
    (hin : s.stream.nextLayer.incoming = h.bytes ++ tail) :
    ∃ op' source, source.Drained MbapHeader.headerSize ∧ Tcp.parseHeader op'.source MbapHeader.headerSize = (h, source) ∧
      complete indeterminate s = opParseHeader op' MbapHeader.headerSize
        { s with pending := none, stream.messageBuffer := source.messageBuffer, stream.nextLayer.incoming := tail } := by
  obtain ⟨m, hrun, hr, hd⟩ := complete_ok indeterminate hpending hdrained
    (by rw [hin, List.length_append, h.length_bytes]; omega) (by show 0 + 7 ≤ 320; decide)
  rw [hin, List.take_left' h.length_bytes] at hd
  rw [hin, List.drop_left' h.length_bytes] at hrun
  have hsource := hr.drained
  have hend : op.source.inputEnd + MbapHeader.headerSize = MbapHeader.headerSize := by
    rw [hdrained.inputEnd_eq, Nat.zero_add]
  rw [← hend]
  refine ⟨{ op with source := { op.source with messageBuffer := m } }, _, hsource, ?_, ?_⟩
  · rw [hend]
    exact parseHeader_eq h hr.wellFormed hd
  · rw [hend, hrun]
    rfl

/-- The completion of the header read, on a connection that starts with a header of a valid length: a read of the rest of the
frame is outstanding, into the buffer behind the header. -/
theorem complete_header (indeterminate : UInt8) {s : Server} {op : RequestReadOp} {h : MbapHeader} {tail : List UInt8}
    (hpending : s.pending = some ⟨MbapHeader.headerSize, .parseHeader op⟩) (hdrained : op.source.Drained 0)
    (hin : s.stream.nextLayer.incoming = h.bytes ++ tail) (hvalid : h.isValidLength = true) :
    ∃ source : Buffer 320, source.Drained MbapHeader.headerSize ∧
      complete indeterminate s = (.ok (), { s with
        stream.messageBuffer := source.messageBuffer, stream.nextLayer.incoming := tail,
        pending := some ⟨h.length.toNat - 1, .parseBody {
          source, transactionId := h.transactionId, protocol := h.protocol, length := h.length, slave := h.unitId }⟩ }) := by
  obtain ⟨op', source, hsource, hparse, hrun⟩ := complete_parseHeader indeterminate hpending hdrained hin
  refine ⟨source, hsource, ?_⟩
  rw [hrun]
  unfold opParseHeader
  simp only [hparse, hvalid, Bool.true_eq_false, if_false]
  rfl

/-- The completion of the header read, on a connection that starts with a header of another length: the callback is invoked with an
error, and nothing is outstanding. -/
theorem complete_invalid (indeterminate : UInt8) {s : Server} {op : RequestReadOp} {h : MbapHeader} {tail : List UInt8}
    (hpending : s.pending = some ⟨MbapHeader.headerSize, .parseHeader op⟩) (hdrained : op.source.Drained 0)
    (hin : s.stream.nextLayer.incoming = h.bytes ++ tail) (hvalid : h.isValidLength = false) :
    ∃ m, complete indeterminate s = (.ok (), { s with
      pending := none, stream.messageBuffer := m, stream.nextLayer.incoming := tail,
      calls := s.calls ++ [⟨0, 0, makeErrorCode .requestTooBig⟩] }) := by
  obtain ⟨op', source, -, hparse, hrun⟩ := complete_parseHeader indeterminate hpending hdrained hin
  refine ⟨source.messageBuffer, ?_⟩
  rw [hrun]
  unfold opParseHeader
  simp only [hparse, hvalid, if_true]
  rfl

/-- What the server makes of a PDU. -/
def outcome (indeterminate : UInt8) (request : PduReq) (pdu : List UInt8) : ErrorCode × PduReq :=
  ((readPduReq indeterminate request).run Buffer.input pdu).1

/-- `parse_body` decodes the bytes it is called for and invokes the callback. -/
theorem opParseBody_eq (indeterminate : UInt8) (op : RequestReadOp) (size : Nat) (s : Server) {pdu : List UInt8}
    (hwf : (op.source.commit size).WellFormed) (hd : (op.source.commit size).data = pdu) :
    opParseBody indeterminate op size s = (.ok (), { s with
      request := (outcome indeterminate s.request pdu).2,
      calls := s.calls ++ [⟨op.transactionId, op.slave, (outcome indeterminate s.request pdu).1⟩] }) := by
  unfold opParseBody Tcp.parseBody
  rw [Exec.bind_state, Buffer.run_source _ hwf, hd]
  rfl

/-- The completion of the read of a body: the callback is invoked with what the decoder makes of it, and nothing is
outstanding. -/
theorem complete_body (indeterminate : UInt8) {s : Server} {k : Nat} {op : RequestReadOp} {pdu tail : List UInt8}
    (hpending : s.pending = some ⟨pdu.length, .parseBody op⟩) (hdrained : op.source.Drained k)
    (hin : s.stream.nextLayer.incoming = pdu ++ tail) (hfit : k + pdu.length ≤ 320) :
    ∃ m, complete indeterminate s = (.ok (), { s with
      pending := none, stream.messageBuffer := m, stream.nextLayer.incoming := tail,
      request := (outcome indeterminate s.request pdu).2,
      calls := s.calls ++ [⟨op.transactionId, op.slave, (outcome indeterminate s.request pdu).1⟩] }) := by
  obtain ⟨m, hrun, hr, hd⟩ := complete_ok indeterminate hpending hdrained (by rw [hin, List.length_append]; omega) hfit
  rw [hin, List.take_left' rfl] at hd
  refine ⟨m, ?_⟩
  rw [hrun, hin, List.drop_left' rfl]
  exact opParseBody_eq indeterminate { op with source := { op.source with messageBuffer := m } } pdu.length _ hr.wellFormed hd

/-- A call of `async_read_request`, on a connection that starts with a unit: the unit is read, the callback is invoked once, with
the transaction id and the unit id of the unit and what the decoder makes of its PDU, and nothing is outstanding. -/
theorem readRequest_ok (indeterminate : UInt8) {s : Server} {a : Adu} {tail : List UInt8}
    (hin : s.stream.nextLayer.incoming = a.bytes ++ tail) :
    ∃ m, readRequest indeterminate s = (.ok (),
      { s with
        pending := none, stream.messageBuffer := m, stream.nextLayer.incoming := tail,
        request := (outcome indeterminate s.request a.pdu).2,
        calls := s.calls ++ [⟨a.transactionId, a.unitId, (outcome indeterminate s.request a.pdu).1⟩] }) := by
  have hpdu := a.pdu_length
  have hlen : a.header.length.toNat - 1 = a.pdu.length := by
    rw [a.header_length]
    omega
  rw [Adu.bytes, List.append_assoc] at hin
  obtain ⟨source, hdrained, hheader⟩ := complete_header indeterminate
    (s := { s with pending := some ⟨MbapHeader.headerSize, .parseHeader { source := { messageBuffer := s.stream.messageBuffer } }⟩ })
    rfl (Buffer.drained_empty _) hin a.isValidLength_header
  rw [hlen] at hheader
  have hfit : MbapHeader.headerSize + a.pdu.length ≤ 320 := by
    show 7 + a.pdu.length ≤ 320
    omega
  obtain ⟨m, hbody⟩ := complete_body indeterminate
    (s := { s with
      stream.messageBuffer := source.messageBuffer, stream.nextLayer.incoming := a.pdu ++ tail,
      pending := some ⟨a.pdu.length, .parseBody {
        source, transactionId := a.transactionId, protocol := a.protocol, length := a.header.length, slave := a.unitId }⟩ })
    rfl hdrained rfl hfit
  refine ⟨m, ?_⟩
  unfold readRequest asyncReadRequest
  rw [Exec.bind_update, Exec.bind_ok hheader]
  exact hbody

end Server

/-! ## Answers -/

/-- Every answer has a function code. -/
theorem length_write_answer (a : Answer) : 1 ≤ (PduWrite.write a).length := by
  cases a with
  | exception r =>
    show 1 ≤ (writeUint8 _ ++ writeModbusExceptionCode _).length
    rw [List.length_append, length_writeUint8]
    omega
  | response k r =>
    show 1 ≤ (PduWrite.write r).length
    rw [k.write_eq, List.length_append, length_writeFunctionCode]
    omega

/-- No assertion is in the way of an answer. -/
theorem asserts_answer (a : Answer) : PduWrite.asserts a = true := by
  cases a with
  | exception r => rfl
  | response k r => exact k.asserts_eq r

end Mothbus.Tcp
