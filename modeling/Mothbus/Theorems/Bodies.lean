import Mothbus.Lemmas.TcpClient
import Mothbus.Lemmas.TcpServer

/-!
# The bodies of accepted frames

What a decoder accepts is the front of a body: the bytes that the writer puts for what was decoded. The byte count of a request
says how many values there are, and its quantity says nothing to the decoder. What stands behind the front is left in the buffer,
and neither side looks whether anything is.
-/

namespace Mothbus

open ErrorLike (ok failed)
open ReadProgram Decoder Tcp

/-! ## Buffers -/

/-- A buffer whose array is a body. -/
def bodySource (body : List UInt8) : Buffer body.length := { messageBuffer := ⟨body.toArray, rfl⟩ }

/-- The input of the buffer lies within it. -/
theorem bodySource_wellFormed (body : List UInt8) : ((bodySource body).commit body.length).WellFormed :=
  ⟨Nat.zero_le _, Nat.le_of_eq (Nat.zero_add _)⟩

/-- It is the body. -/
theorem bodySource_data (body : List UInt8) : ((bodySource body).commit body.length).data = body := by
  show (body.take (0 + body.length)).drop 0 = body
  rw [Nat.zero_add, List.take_length, List.drop_zero]

/-- A program that consumes some bytes takes them off the front of a buffer and leaves the rest. -/
theorem run_source_of_consumes {α : Type} {p : ReadProgram ErrorCode UInt8 α} {used : List UInt8} {a : α}
    (h : Consumes (makeErrorCode .tooManyBytesReceived) p used a) {n : Nat} {b : Buffer n} (hwf : b.WellFormed) {rest : List UInt8}
    (hd : b.data = used ++ rest) : p.run Buffer.source b = (a, b.leaving rest) := by
  rw [Buffer.run_source p hwf, hd, h rest]

/-- The decoder reads some bytes off the front of a body and ends with `a`, whatever follows them; what follows them is what the
cursor of the buffer leaves. -/
def LeavesRest {α : Type} (p : ReadProgram ErrorCode UInt8 α) (used : List UInt8) (a : α) : Prop :=
  ∀ {n : Nat} (b : Buffer n) (rest : List UInt8), b.WellFormed → b.data = used ++ rest →
    (p.run Buffer.source b).1 = a ∧ (p.run Buffer.source b).2.inputStart + rest.length = (p.run Buffer.source b).2.inputEnd

/-- A reader that consumes some bytes leaves what follows them. -/
theorem LeavesRest.of_consumes {α : Type} {p : ReadProgram ErrorCode UInt8 α} {used : List UInt8} {a : α}
    (h : Consumes (makeErrorCode .tooManyBytesReceived) p used a) : LeavesRest p used a := by
  intro n b rest hwf hd
  have hlen := Buffer.length_data hwf
  rw [hd, List.length_append] at hlen
  rw [run_source_of_consumes h hwf hd]
  refine ⟨rfl, ?_⟩
  show b.inputEnd - rest.length + rest.length = b.inputEnd
  omega

/-! ## Counts -/

namespace RequestKind

/-- A request with its counts and its value as `master_base` builds it. -/
def AsBuilt : (k : RequestKind) → k.Pdu → Prop
  | .writeMultipleRegisters, (r : WriteMultipleRegistersPduReq) =>
    r.byteCount.toNat = 2 * r.quantityOfRegisters.toNat ∧ r.byteCount.toNat = 2 * r.values.length
  | .readWriteMultipleRegisters, (r : ReadWriteMultipleRegistersPduReq) =>
    r.writeByteCount.toNat = 2 * r.writeQuantityOfRegisters.toNat ∧ r.writeByteCount.toNat = 2 * r.values.length
  | .writeMultipleCoils, (r : WriteMultipleCoilsPduReq) =>
    r.byteCount.toNat = r.values.length ∧ r.byteCount.toNat = (r.quantityOfCoils.toNat + 7) / 8
  | .writeSingleCoil, (r : WriteSingleCoilPduReq) => isCoilValue r.value = true
  | _, _ => True

end RequestKind

/-- `parse_body` and the counts of a request.
1. A body that is accepted starts with what the writer puts for the request that is handed over, and the request has as many
   values as its byte count says: a byte each for coils, two for a register. So any other body is an error.
2. Of every type but `write_single_coil_pdu_req`, each such request is accepted, whatever its quantity, and what follows it is
   left. -/
theorem parseBody_counted {n : Nat} (indeterminate : UInt8) (source : Buffer n) (readSize : Nat) (request : PduReq)
    (hwf : (source.commit readSize).WellFormed) :
    (failed (parseBody indeterminate source readSize request).1.1 = false →
      ∃ (k : RequestKind) (q : k.Pdu), (parseBody indeterminate source readSize request).1.2 = .request k q ∧ k.Counted q ∧
        (source.commit readSize).data = PduWrite.write q ++ (parseBody indeterminate source readSize request).2.data) ∧
    (∀ (k : RequestKind) (q : k.Pdu) (rest : List UInt8), k ≠ .writeSingleCoil → k.Counted q →
      (source.commit readSize).data = PduWrite.write q ++ rest →
        (parseBody indeterminate source readSize request).1 = (ok, .request k q) ∧
          (parseBody indeterminate source readSize request).2.data = rest) := by
  unfold parseBody
  constructor
  · intro hok
    rw [Buffer.run_source _ hwf] at hok ⊢
    obtain ⟨k, q, rest, hcounted, hl, hrun⟩ := request_accepted Buffer.input_eof_failed hok
    rw [hrun]
    refine ⟨k, q, rfl, hcounted, ?_⟩
    rw [Buffer.data_leaving hwf hl]
    exact hl
  · intro k q rest _ hcounted hd
    rw [run_source_of_consumes (decodes_request indeterminate request hcounted) hwf hd]
    exact ⟨rfl, Buffer.data_leaving hwf hd⟩

/-- A write of five registers that says it has three bytes and carries one register. -/
def threeBytesForFive : List UInt8 := [0x10, 0x00, 0x00, 0x00, 0x05, 0x03, 0x00, 0x07, 0x09]

/-- A write of five registers with one value and a byte count of three is accepted. -/
theorem threeBytesForFive_accepted :
    ¬∀ (body : List UInt8) (k : RequestKind) (q : k.Pdu),
      failed (parseBody 0 (bodySource body) body.length (.notImplemented {})).1.1 = false →
      (parseBody 0 (bodySource body) body.length (.notImplemented {})).1.2 = .request k q → k.AsBuilt q := by
  intro h
  have hbuilt := h threeBytesForFive .writeMultipleRegisters ⟨0, 5, 3, [7]⟩ (by decide) (by rfl)
  exact absurd hbuilt.1 (by decide)

theorem parseBody_counted_threeBytesForFive :
    (parseBody 0 (bodySource threeBytesForFive) 9 (.notImplemented {})).1 =
        (ok, .request .writeMultipleRegisters ⟨0, 5, 3, [7]⟩) ∧
      (parseBody 0 (bodySource threeBytesForFive) 9 (.notImplemented {})).2.data = [9] :=
  (parseBody_counted 0 (bodySource threeBytesForFive) 9 (.notImplemented {}) (bodySource_wellFormed _)).2
    .writeMultipleRegisters ⟨0, 5, 3, [7]⟩ [9] (by decide) rfl (bodySource_data _)

/-! ## Lengths -/

/-- The PDUs a client takes for an answer of a type: a response as its writer puts it, or an exception with the code zero, which
leaves the caller's object as it was. -/
def TakenFor (k : ResponseKind) (out r : k.Pdu) (pdu : List UInt8) : Prop :=
  pdu = PduWrite.write r ∨ (r = out ∧ ∃ fC : UInt8, fC &&& 0x80 ≠ 0 ∧ pdu = [fC, 0])

/-- A body that the client accepts starts with a PDU that its decoder reads, and what follows is left. -/
theorem response_accepted {x : UInt8} {k : ResponseKind} {out : k.Pdu} {body : List UInt8}
    (hok : failed (Stream.verdict x out body).1 = false) :
    ∃ (pdu rest : List UInt8) (ec : ErrorCode), body = pdu ++ rest ∧ TakenFor k out (Stream.verdict x out body).2 pdu ∧
      LeavesRest (readPduResp x out) pdu (ec, (Stream.verdict x out body).2) := by
  rcases verdict_cases x hok with hz | ⟨r, rest, hr, hfit, -, hl, hverdict⟩
  · have hverdict := verdict_zeroException x out hz
    obtain ⟨fC, rest, hbit, hl⟩ := hz
    have hx := consumes_exception (makeErrorCode .tooManyBytesReceived) x out hbit 0
    rw [hverdict]
    exact ⟨[fC, 0], rest, _, hl, Or.inr ⟨rfl, fC, hbit, rfl⟩, LeavesRest.of_consumes hx⟩
  · obtain ⟨r', -, hd⟩ := decodes_response (makeErrorCode .tooManyBytesReceived) x hr hfit
    have hrun : Stream.verdict x out body = (makeErrorCode .success, r') := by
      unfold Stream.verdict
      rw [hl, hd rest]
      rfl
    obtain rfl : r' = r := congrArg Prod.snd (hrun.symm.trans hverdict)
    rw [hverdict]
    exact ⟨PduWrite.write r', rest, ok, hl, Or.inl rfl, LeavesRest.of_consumes hd⟩

/-- The unit is the frame that `write_request` sends for its transaction id, its unit id and a request. -/
def Tcp.Adu.IsFrameOf (a : Adu) {k : RequestKind} (q : k.Pdu) : Prop :=
  ∀ s : Stream, s.transactionId = a.transactionId →
    ∃ s', Stream.writeRequest a.unitId q s = (.ok a.transactionId, s') ∧
      s'.nextLayer.outgoing = s.nextLayer.outgoing ++ a.bytes

/-- A unit of the protocol that is a request and nothing else is what is sent for it. -/
theorem Tcp.Adu.isFrameOf {a : Adu} {k : RequestKind} {q : k.Pdu} (hprotocol : a.protocol = Tcp.protocol)
    (hpdu : a.pdu = PduWrite.write q) (hassert : PduWrite.asserts q = true) : a.IsFrameOf q := by
  intro s hid
  have hlen := a.pdu_length
  rw [hpdu] at hlen
  obtain ⟨m, hwrite⟩ := Stream.writeRequest_ok a.unitId s hassert (by omega)
  rw [hid] at hwrite
  refine ⟨_, hwrite, ?_⟩
  simp only [bytes, header, frameHeader, hprotocol, hpdu]

/-- The server: what it makes of a unit, and what is known of the PDU if that is a success. -/
theorem readRequest_accepted (indeterminate : UInt8) {s : Server} {a : Adu} {tail : List UInt8}
    (hin : s.stream.nextLayer.incoming = a.bytes ++ tail) :
    ∃ ec s', Server.readRequest indeterminate s = (.ok (), s') ∧ s'.calls = s.calls ++ [⟨a.transactionId, a.unitId, ec⟩] ∧
      (failed ec = false → ∃ (k : RequestKind) (q : k.Pdu) (rest : List UInt8), s'.request = .request k q ∧
        a.pdu = PduWrite.write q ++ rest ∧
        LeavesRest (readPduReq indeterminate s.request) (PduWrite.write q) (ok, .request k q)) := by
  obtain ⟨m, hrun⟩ := Server.readRequest_ok indeterminate hin
  refine ⟨_, _, hrun, rfl, fun hok => ?_⟩
  obtain ⟨k, q, rest, hcounted, hl, hdecoded⟩ := request_accepted Buffer.input_eof_failed hok
  refine ⟨k, q, rest, ?_, hl, LeavesRest.of_consumes (decodes_request indeterminate s.request hcounted)⟩
  exact congrArg (fun r => r.1.2) hdecoded

/-- The client: what is known of the body of the frame that a successful call has read. -/
theorem readResponse_accepted_body {k : ResponseKind} {indeterminate : UInt8} {expectedTransactionId : UInt16}
    {expectedSlave : UInt8} {out r : k.Pdu} {s s' : Stream} {ec : ErrorCode} (hslave : expectedSlave ≠ 0)
    (hrun : Stream.readResponse indeterminate expectedTransactionId expectedSlave out s = (.ok (ec, r), s'))
    (hok : failed ec = false) :
    ∃ (h : MbapHeader) (pdu rest : List UInt8) (ec' : ErrorCode), h.Expected expectedTransactionId expectedSlave ∧
      StartsWithFrame s.nextLayer.incoming h (pdu ++ rest) ∧ TakenFor k out r pdu ∧
      LeavesRest (readPduResp indeterminate out) pdu (ec', r) := by
  rcases readResponse_cases indeterminate expectedTransactionId out hslave s with
    ⟨s₁, hcall⟩ | ⟨c, s₁, hbad, hcall⟩ | ⟨h, body, tail, m, hlen, hin, hexp, hcall⟩
  · rw [hrun] at hcall
    cases hcall
  · rw [hrun] at hcall
    cases hcall
    exact absurd (hok.symm.trans hbad) (by decide)
  · rw [hrun] at hcall
    have hverdict : (ec, r) = Stream.verdict indeterminate out body := Except.ok.inj (congrArg Prod.fst hcall)
    have hec : failed (Stream.verdict indeterminate out body).1 = false := by
      rw [← hverdict]
      exact hok
    obtain ⟨pdu, rest, ec', rfl, htaken, hleaves⟩ := response_accepted hec
    rw [← hverdict] at htaken hleaves
    exact ⟨h, pdu, rest, ec', hexp, ⟨hlen, tail, hin⟩, htaken, hleaves⟩

/-- The length a header announces and the length of what is decoded.
1. The server: a unit is accepted when its PDU starts with what the writer puts for the request that is handed over; the decoder
   reads this much and leaves the rest. A unit of the protocol with no rest is the frame that is sent for the request, if the
   writer takes it.
2. The client: a call that succeeds has read a frame whose body starts with the PDU that was decoded; the decoder reads this much
   and leaves the rest. -/
theorem accepted_bodies :
    (∀ (indeterminate : UInt8) (s : Server) (a : Adu) (tail : List UInt8), s.stream.nextLayer.incoming = a.bytes ++ tail →
      ∃ ec s', Server.readRequest indeterminate s = (.ok (), s') ∧
        s'.calls = s.calls ++ [⟨a.transactionId, a.unitId, ec⟩] ∧
        (failed ec = false → ∃ (k : RequestKind) (q : k.Pdu) (rest : List UInt8), s'.request = .request k q ∧
          a.pdu = PduWrite.write q ++ rest ∧
          LeavesRest (readPduReq indeterminate s.request) (PduWrite.write q) (ok, .request k q) ∧
          (a.protocol = Tcp.protocol → rest = [] → PduWrite.asserts q = true → a.IsFrameOf q))) ∧
    (∀ (k : ResponseKind) (indeterminate : UInt8) (expectedTransactionId : UInt16) (expectedSlave : UInt8) (out r : k.Pdu)
      (s s' : Stream) (ec : ErrorCode), expectedSlave ≠ 0 →
      Stream.readResponse indeterminate expectedTransactionId expectedSlave out s = (.ok (ec, r), s') → failed ec = false →
      ∃ (h : MbapHeader) (pdu rest : List UInt8) (ec' : ErrorCode), h.Expected expectedTransactionId expectedSlave ∧
        StartsWithFrame s.nextLayer.incoming h (pdu ++ rest) ∧ TakenFor k out r pdu ∧
        LeavesRest (readPduResp indeterminate out) pdu (ec', r)) := by
  constructor
  · intro indeterminate s a tail hin
    obtain ⟨ec, s', hrun, hcalls, haccepted⟩ := readRequest_accepted indeterminate hin
    refine ⟨ec, s', hrun, hcalls, fun hok => ?_⟩
    obtain ⟨k, q, rest, hrequest, hl, hleaves⟩ := haccepted hok
    refine ⟨k, q, rest, hrequest, hl, hleaves, ?_⟩
    rintro hprotocol rfl hassert
    exact Adu.isFrameOf hprotocol (hl.trans (List.append_nil _)) hassert
  · intro k indeterminate expectedTransactionId expectedSlave out r s s' ec hslave hrun hok
    exact readResponse_accepted_body hslave hrun hok

/-- A write of a register with one byte more than it takes. -/
def oneByteMore : List UInt8 := [0x06, 0x00, 0x00, 0x00, 0x07, 0x00]

/-- A write of a register with a byte after it is accepted, and the byte is left in the buffer. -/
theorem oneByteMore_accepted :
    ¬∀ body : List UInt8, failed (parseBody 0 (bodySource body) body.length (.notImplemented {})).1.1 = false →
      (parseBody 0 (bodySource body) body.length (.notImplemented {})).2.inputStart =
        (parseBody 0 (bodySource body) body.length (.notImplemented {})).2.inputEnd := by
  intro h
  exact absurd (h oneByteMore (by decide)) (by decide)

end Mothbus
