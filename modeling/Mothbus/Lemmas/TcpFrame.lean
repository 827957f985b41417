import Mothbus.Adu.Tcp
import Mothbus.Lemmas.ResponseCodec

/-!
# Frames on a TCP connection

A frame is a header of seven bytes and as many PDU bytes as its length field announces. What the two writers send is one frame,
the length field right although it is written last; what the two readers wait for is a header and then the rest of its frame.
-/

namespace Mothbus.Tcp

open ErrorLike (ok failed)
open ReadProgram Decoder

/-! ## The header -/

/-- The header on the wire. -/
def MbapHeader.bytes (h : MbapHeader) : List UInt8 :=
  writeUint16 h.transactionId ++ (writeUint16 h.protocol ++ (writeUint16 h.length ++ writeUint8 h.unitId))

/-- A header is seven bytes. -/
@[simp] theorem MbapHeader.length_bytes (h : MbapHeader) : h.bytes.length = MbapHeader.headerSize := rfl

/-- A length is valid if there is a PDU and the whole is no longer than an ADU may be. -/
theorem MbapHeader.isValidLength_iff (h : MbapHeader) :
    h.isValidLength = true ↔ 2 ≤ h.length.toNat ∧ h.length.toNat + 6 ≤ 260 := by
  unfold MbapHeader.isValidLength
  rw [Bool.and_eq_true, decide_eq_true_iff, decide_eq_true_iff]
  exact Iff.rfl

/-- Any seven bytes are a header. -/
theorem MbapHeader.exists_bytes {l : List UInt8} (h : MbapHeader.headerSize ≤ l.length) :
    ∃ (hdr : MbapHeader) (tail : List UInt8), l = hdr.bytes ++ tail := by
  match l, h with
  | a :: b :: c :: d :: e :: f :: g :: tail, _ =>
    refine ⟨⟨a.toUInt16 <<< 8 ||| b.toUInt16, c.toUInt16 <<< 8 ||| d.toUInt16, e.toUInt16 <<< 8 ||| f.toUInt16, g⟩, tail, ?_⟩
    simp only [MbapHeader.bytes, writeUint16_join, writeUint8, List.cons_append, List.nil_append]

variable {eof : ErrorCode}

/-- A header is read back from its bytes. -/
theorem decodes_mbap (h₀ h : MbapHeader) : Decodes eof Stream.readMbap h₀ h.bytes h := by
  have hd : Decodes eof Stream.readMbap h₀ (writeUint16 h.transactionId ++ (writeUint16 h.protocol ++
      (writeUint16 h.length ++ (writeUint8 h.unitId ++ [])))) h :=
    (Decodes.focus (decodes_uint16 _ _)).checked <| (Decodes.focus (decodes_uint16 _ _)).checked <|
      (Decodes.focus (decodes_uint16 _ _)).checked <| (Decodes.focus (decodes_uint8 _ _)).checked (decodes_succeed _)
  rwa [List.append_nil] at hd

/-- The header that `parse_header` returns for the seven bytes of a header. -/
theorem parseHeader_eq {n : Nat} {source : Buffer n} {readSize : Nat} (h : MbapHeader)
    (hwf : (source.commit readSize).WellFormed) (hd : (source.commit readSize).data = h.bytes) :
    parseHeader source readSize = (h, (source.commit readSize).leaving []) := by
  have h16 : ∀ (v : UInt16) (rest : List UInt8), (readUint16 0).run Buffer.input (writeUint16 v ++ rest) = ((ok, v), rest) :=
    fun v => decodes_uint16 0 v
  have h8 : (readUint8 0).run Buffer.input (writeUint8 h.unitId) = ((ok, h.unitId), []) := rfl
  unfold parseHeader
  rw [Buffer.run_source _ hwf, hd]
  simp only [MbapHeader.bytes, run_bind, h16, h8, run_pure]

/-! ## Frames that are sent -/

/-- The header of a frame with a given PDU. -/
def frameHeader (transactionId : UInt16) (slave : UInt8) (pdu : List UInt8) : MbapHeader :=
  { transactionId, protocol, length := UInt16.ofNat (pdu.length + 1), unitId := slave }

/-- The length field is the number of the bytes after it, if that is a number of 16 bits. -/
theorem frameHeader_length (transactionId : UInt16) (slave : UInt8) {pdu : List UInt8} (h : pdu.length < 65535) :
    (frameHeader transactionId slave pdu).length.toNat = pdu.length + 1 := by
  show (UInt16.ofNat (pdu.length + 1)).toNat = pdu.length + 1
  rw [UInt16.toNat_ofNat', Nat.mod_eq_of_lt (by omega)]

/-- The lengths that `is_valid_length` accepts are those of the PDUs of 1 to 253 bytes. -/
theorem isValidLength_frameHeader (transactionId : UInt16) (slave : UInt8) {pdu : List UInt8} (h : pdu.length < 65535) :
    (frameHeader transactionId slave pdu).isValidLength = true ↔ 1 ≤ pdu.length ∧ pdu.length ≤ 253 := by
  rw [MbapHeader.isValidLength_iff, frameHeader_length _ _ h]
  omega

/-- An application data unit: a header and a PDU of the length it announces, which is one the protocol allows. -/
structure Adu where
  transactionId : UInt16
  protocol : UInt16
  unitId : UInt8
  pdu : List UInt8
  pdu_length : 1 ≤ pdu.length ∧ pdu.length ≤ 253

namespace Adu

def header (a : Adu) : MbapHeader :=
  { transactionId := a.transactionId, protocol := a.protocol, length := UInt16.ofNat (a.pdu.length + 1), unitId := a.unitId }

/-- The unit on the wire: six bytes and as many as its length field says. -/
def bytes (a : Adu) : List UInt8 := a.header.bytes ++ a.pdu

/-- The length field of a unit counts the unit id and the PDU. -/
theorem header_length (a : Adu) : a.header.length.toNat = a.pdu.length + 1 := by
  have h := a.pdu_length
  show (UInt16.ofNat (a.pdu.length + 1)).toNat = a.pdu.length + 1
  rw [UInt16.toNat_ofNat', Nat.mod_eq_of_lt (by omega)]

/-- The unit itself is six bytes longer. -/
theorem length_bytes (a : Adu) : a.bytes.length = 6 + a.header.length.toNat := by
  rw [bytes, List.length_append, a.header.length_bytes, header_length]
  show 7 + a.pdu.length = _
  omega

/-- The length of a unit is valid. -/
theorem isValidLength_header (a : Adu) : a.header.isValidLength = true := by
  have h := a.pdu_length
  rw [MbapHeader.isValidLength_iff, header_length]
  omega

/-- The unit that one of the two writers sends. -/
def sent (transactionId : UInt16) (slave : UInt8) (pdu : List UInt8) (h : 1 ≤ pdu.length ∧ pdu.length ≤ 253) : Adu :=
  { transactionId, protocol := Tcp.protocol, unitId := slave, pdu, pdu_length := h }

end Adu

/-- A PDU that is put and fits the array becomes the frame with that PDU. -/
theorem writeAdu_ok {α : Type} [PduWrite α] (transactionId : UInt16) (slave : UInt8) {pdu : α} (m : Vector UInt8 320)
    (hassert : PduWrite.asserts pdu = true) (hlen : (PduWrite.write pdu).length ≤ 313) :
    ∃ b, writeAdu transactionId slave pdu m = .ok b ∧
      b.data = (frameHeader transactionId slave (PduWrite.write pdu)).bytes ++ PduWrite.write pdu := by
  have hput : writeAdu transactionId slave pdu m = do
      let sink ← ({ messageBuffer := m } : Buffer 320).putAll
        (writeUint16 transactionId ++ (writeUint16 protocol ++ (writeUint16 0 ++ (writeUint8 slave ++ PduWrite.write pdu))))
      let length ← ({ sink with outputStart := 4 } : Buffer 320).putAll (writeUint16 (UInt16.ofNat (sink.outputStart - 6)))
      return ({ length with outputStart := sink.outputStart } : Buffer 320).commit sink.outputStart := by
    unfold writeAdu
    simp only [hassert, Bool.true_eq_false, if_false, Buffer.putAll_append, bind_assoc]
  generalize PduWrite.write pdu = body at hput hlen ⊢
  have hall : 0 + (writeUint16 transactionId ++ (writeUint16 protocol ++ (writeUint16 0 ++ (writeUint8 slave ++ body)))).length =
      body.length + 7 := by
    simp only [List.length_append, length_writeUint16, length_writeUint8]
    omega
  obtain ⟨m1, h1, t1⟩ := Buffer.putAll_ok m 0
    (l := writeUint16 transactionId ++ (writeUint16 protocol ++ (writeUint16 0 ++ (writeUint8 slave ++ body)))) (by omega)
  obtain ⟨m2, h2, t2⟩ := Buffer.putAll_ok m1 4
    (l := writeUint16 (UInt16.ofNat (body.length + 7 - 6))) (by rw [length_writeUint16]; omega)
  rw [hall] at h1
  refine ⟨{ messageBuffer := m2, inputEnd := body.length + 7, outputStart := body.length + 7 + (body.length + 7) }, ?_, ?_⟩
  · rw [hput]
    simp only [h1, h2, Bind.bind, Except.bind, Pure.pure, Except.pure, Buffer.commit, Nat.zero_add]
  · show (m2.toList.take (body.length + 7)).drop 0 = _
    rw [t2, t1]
    simp only [List.take_zero, List.nil_append, writeUint16, writeUint8, MbapHeader.bytes, frameHeader, List.cons_append,
      List.take_succ_cons, List.drop_succ_cons, List.drop_zero, List.length_cons, List.length_nil, Nat.zero_add,
      List.take_left]
    rfl

/-- A PDU whose assertion fails, or that does not fit the array, becomes no frame; in the second case the first byte that does not fit
is stored outside. -/
theorem writeAdu_error {α : Type} [PduWrite α] (transactionId : UInt16) (slave : UInt8) {pdu : α} (m : Vector UInt8 320)
    (h : PduWrite.asserts pdu = false ∨ 313 < (PduWrite.write pdu).length) :
    ∃ f, writeAdu transactionId slave pdu m = .error f ∧ (PduWrite.asserts pdu = true → f = .outOfBounds 320) := by
  have hput : writeAdu transactionId slave pdu m = do
      let sink ← ({ messageBuffer := m } : Buffer 320).putAll
        (writeUint16 transactionId ++ (writeUint16 protocol ++ (writeUint16 0 ++ writeUint8 slave)))
      if PduWrite.asserts pdu = false then throw .assertion
      let sink ← sink.putAll (PduWrite.write pdu)
      let index := sink.outputStart
      let sink ← ({ sink with outputStart := 4 } : Buffer 320).putAll (writeUint16 (UInt16.ofNat (index - 6)))
      return ({ sink with outputStart := index } : Buffer 320).commit index := by
    unfold writeAdu
    simp only [Buffer.putAll_append, bind_assoc]
  obtain ⟨m1, h1', -⟩ := Buffer.putAll_ok m 0
    (l := writeUint16 transactionId ++ (writeUint16 protocol ++ (writeUint16 0 ++ writeUint8 slave)))
    (by show 7 ≤ 320; decide)
  have h1 : Buffer.putAll (writeUint16 transactionId ++ (writeUint16 protocol ++ (writeUint16 0 ++ writeUint8 slave)))
      { messageBuffer := m } = .ok { messageBuffer := m1, outputStart := 7 } := h1'
  rw [hput]
  cases ha : PduWrite.asserts pdu with
  | false => exact ⟨.assertion, by rw [h1]; rfl, fun hassert => by cases hassert⟩
  | true =>
    have hlong := h.resolve_left (by rw [ha]; decide)
    have h2 := Buffer.putAll_error m1 7 (l := PduWrite.write pdu) (by decide) (by omega)
    refine ⟨.outOfBounds 320, ?_, fun _ => rfl⟩
    simp only [h1, h2, Bool.true_eq_false, if_false, Bind.bind, Except.bind]

namespace Stream

/-- A request that can be sent: one frame goes out, under the stream's transaction id, and the id moves on. -/
theorem writeRequest_ok {α : Type} [PduWrite α] (slave : UInt8) {request : α} (s : Stream)
    (hassert : PduWrite.asserts request = true) (hlen : (PduWrite.write request).length ≤ 313) :
    ∃ m, writeRequest slave request s = (.ok s.transactionId,
      { s with
        messageBuffer := m, transactionId := s.transactionId + 1,
        nextLayer.outgoing := s.nextLayer.outgoing ++
          ((frameHeader s.transactionId slave (PduWrite.write request)).bytes ++ PduWrite.write request) }) := by
  obtain ⟨b, hb, hd⟩ := writeAdu_ok s.transactionId slave s.messageBuffer hassert hlen
  refine ⟨b.messageBuffer, ?_⟩
  rw [← hd]
  unfold writeRequest
  rw [Exec.bind_state, hb]
  rfl

/-- A request that cannot be sent stops the call, and nothing is sent or read. -/
theorem writeRequest_error {α : Type} [PduWrite α] (slave : UInt8) {request : α} (s : Stream)
    (h : PduWrite.asserts request = false ∨ 313 < (PduWrite.write request).length) :
    ∃ f, writeRequest slave request s = (.error f, s) ∧ (PduWrite.asserts request = true → f = .outOfBounds 320) := by
  obtain ⟨f, hf, hfull⟩ := writeAdu_error s.transactionId slave s.messageBuffer h
  refine ⟨f, ?_, hfull⟩
  unfold writeRequest
  rw [Exec.bind_state, hf]
  rfl

/-- A response that fits the array is sent as a frame under the ids that it is given. -/
theorem writeResponse_ok {α : Type} [PduWrite α] (transactionId : UInt16) (slave : UInt8) {response : α} (s : Stream)
    (hassert : PduWrite.asserts response = true) (hlen : (PduWrite.write response).length ≤ 313) :
    ∃ m, writeResponse transactionId slave response s = (.ok (),
      { s with
        messageBuffer := m,
        nextLayer.outgoing := s.nextLayer.outgoing ++
          ((frameHeader transactionId slave (PduWrite.write response)).bytes ++ PduWrite.write response) }) := by
  obtain ⟨b, hb, hd⟩ := writeAdu_ok transactionId slave s.messageBuffer hassert hlen
  refine ⟨b.messageBuffer, ?_⟩
  rw [← hd]
  unfold writeResponse
  rw [Exec.bind_state, hb]
  rfl

/-- A response that does not fit the array stops the call, and nothing is sent. -/
theorem writeResponse_full {α : Type} [PduWrite α] (transactionId : UInt16) (slave : UInt8) {response : α} (s : Stream)
    (hassert : PduWrite.asserts response = true) (hlong : 313 < (PduWrite.write response).length) :
    writeResponse transactionId slave response s = (.error (.outOfBounds 320), s) := by
  obtain ⟨f, hf, hfull⟩ := writeAdu_error transactionId slave s.messageBuffer (Or.inr hlong)
  obtain rfl := hfull hassert
  unfold writeResponse
  rw [Exec.bind_state, hf]
  rfl

/-! ## Bytes that are received -/

/-- Waiting for bytes does not touch the transaction counter. -/
theorem receive_keeps (source : Buffer 320) (size : Nat) : (receive source size).Keeps (·.transactionId) := by
  unfold receive
  refine .bind .state fun s => .bind (.ofExcept _) fun source => .bind (.update fun _ => rfl) fun _ => ?_
  exact .ite (.stop _) (.pure _)

/-- The bytes waited for are there and fit the array. -/
theorem receive_ok {source : Buffer 320} (h : source.Receiving) (s : Stream) (size : Nat)
    (hsize : size ≤ s.nextLayer.incoming.length) (hfit : source.inputEnd + size ≤ 320) :
    ∃ m, receive source size s = (.ok (size, { source with messageBuffer := m }),
        { s with messageBuffer := m, nextLayer.incoming := s.nextLayer.incoming.drop size }) ∧
      (({ source with messageBuffer := m } : Buffer 320).commit size).Receiving ∧
      (({ source with messageBuffer := m } : Buffer 320).commit size).data = source.data ++ s.nextLayer.incoming.take size := by
  have hlen : (s.nextLayer.incoming.take size).length = size := by
    rw [List.length_take]
    omega
  obtain ⟨m, hm, hr, -, hd⟩ := Buffer.exists_receive h (l := s.nextLayer.incoming.take size) (by omega)
  rw [hlen] at hr hd
  refine ⟨m, ?_, hr, hd⟩
  unfold receive
  rw [Exec.bind_state, hm]
  show (if (s.nextLayer.incoming.take size).length < size then _ else _ : Exec Fault Stream (Nat × Buffer 320)) _ = _
  rw [hlen, if_neg (Nat.lt_irrefl size)]
  rfl

/-- The connection ends before the bytes waited for are there. -/
theorem receive_short {source : Buffer 320} (h : source.Receiving) (s : Stream) (size : Nat)
    (hsize : s.nextLayer.incoming.length < size) (hfit : source.inputEnd + size ≤ 320) :
    ∃ m, receive source size s = (.error (.systemError endOfFile),
      { s with messageBuffer := m, nextLayer.incoming := [] }) := by
  have htake : s.nextLayer.incoming.take size = s.nextLayer.incoming := List.take_of_length_le (by omega)
  have hdrop : s.nextLayer.incoming.drop size = [] := List.drop_of_length_le (by omega)
  obtain ⟨m, hm, -⟩ := Buffer.exists_receive h (l := s.nextLayer.incoming) (by omega)
  refine ⟨m, ?_⟩
  unfold receive
  rw [Exec.bind_state, htake, hm, ← hdrop]
  show (if s.nextLayer.incoming.length < size then _ else _ : Exec Fault Stream (Nat × Buffer 320)) _ = _
  rw [if_pos hsize]
  rfl

end Stream

end Mothbus.Tcp
