import Mothbus.Adu.Rtu
import Mothbus.Lemmas.Fields

/-!
# Frames on a serial line

A frame that is sent is the slave id, the PDU and the checksum of both. A frame that is received is what arrives until the line
falls silent: the loop that gathers it takes bytes off the line up to the first timer that expires (`receiveRest_ok`), as long as
the array has room for them.
-/

namespace Mothbus.Rtu

open ErrorLike (ok failed)
open ReadProgram

/-! ## Frames that are sent -/

/-- The two bytes of the checksum of some bytes, as they stand on the line. -/
def crcBytes (msg : List UInt8) : List UInt8 := [(crc16 msg &&& 0xff).toUInt8, ((crc16 msg >>> 8) &&& 0xff).toUInt8]

/-- The frame of a PDU. -/
def frame (slave : UInt8) (pdu : List UInt8) : List UInt8 := slave :: pdu ++ crcBytes (slave :: pdu)

/-- The frame of a PDU whose assertion holds, put in two parts. -/
theorem writeAdu_eq {α : Type} [PduWrite α] (slave : UInt8) {request : α} (m : Vector UInt8 320)
    (hassert : PduWrite.asserts request = true) :
    writeAdu slave request m = do
      let sink ← ({ messageBuffer := m } : Buffer 320).putAll (slave :: PduWrite.write request)
      let sink ← sink.putAll (crcBytes (sink.messageBuffer.toList.take sink.outputStart))
      return sink.commit sink.outputStart := by
  have hsplit : slave :: PduWrite.write request = writeUint8 slave ++ PduWrite.write request := rfl
  have hcrc : ∀ msg : List UInt8, crcBytes msg =
      writeUint8 (crc16 msg &&& 0xff).toUInt8 ++ writeUint8 ((crc16 msg >>> 8) &&& 0xff).toUInt8 := fun _ => rfl
  rw [hsplit]
  unfold writeAdu
  simp only [hassert, Bool.true_eq_false, if_false, hcrc, Buffer.putAll_append, bind_assoc]

/-- A PDU that is put and fits the array becomes its frame. -/
theorem writeAdu_ok {α : Type} [PduWrite α] (slave : UInt8) {request : α} (m : Vector UInt8 320)
    (hassert : PduWrite.asserts request = true) (hlen : (PduWrite.write request).length ≤ 317) :
    ∃ b, writeAdu slave request m = .ok b ∧ b.data = frame slave (PduWrite.write request) := by
  have hput := writeAdu_eq slave m hassert
  unfold frame
  generalize PduWrite.write request = body at hput hlen ⊢
  obtain ⟨m1, h1', t1⟩ := Buffer.putAll_ok m 0 (l := slave :: body) (by rw [List.length_cons]; omega)
  have h1 : Buffer.putAll (slave :: body) { messageBuffer := m } =
      .ok { messageBuffer := m1, outputStart := body.length + 1 } := by
    rw [h1', Nat.zero_add, List.length_cons]
  rw [List.take_zero, List.nil_append, Nat.zero_add] at t1
  have ht1 : m1.toList.take (body.length + 1) = slave :: body := by
    rw [t1]
    exact List.take_left' rfl
  obtain ⟨m2, h2, t2⟩ := Buffer.putAll_ok m1 (body.length + 1) (l := crcBytes (slave :: body))
    (by show body.length + 1 + 2 ≤ 320; omega)
  have hcrc : (crcBytes (slave :: body)).length = 2 := rfl
  rw [ht1] at t2
  refine ⟨{ messageBuffer := m2, inputEnd := body.length + 1 + 2, outputStart := body.length + 1 + 2 + (body.length + 1 + 2) },
    ?_, ?_⟩
  · rw [hput]
    simp only [h1, ht1, h2, hcrc, Bind.bind, Except.bind, Pure.pure, Except.pure, Buffer.commit, Nat.zero_add]
  · show (m2.toList.take (body.length + 1 + 2)).drop 0 = _
    rw [t2, List.drop_zero, List.take_left' (by rw [List.length_append, List.length_cons, hcrc])]

/-- A PDU whose assertion fails, or that does not fit the array with the three other bytes of the frame, becomes no frame; in the
second case the first byte that does not fit is stored outside. -/
theorem writeAdu_error {α : Type} [PduWrite α] (slave : UInt8) {request : α} (m : Vector UInt8 320)
    (h : PduWrite.asserts request = false ∨ 317 < (PduWrite.write request).length) :
    ∃ f, writeAdu slave request m = .error f ∧ (PduWrite.asserts request = true → f = .outOfBounds 320) := by
  cases ha : PduWrite.asserts request with
  | false =>
    obtain ⟨m1, h1, -⟩ := Buffer.putAll_ok m 0 (l := writeUint8 slave) (by rw [length_writeUint8]; decide)
    refine ⟨.assertion, ?_, fun hassert => by cases hassert⟩
    unfold writeAdu
    simp only [h1, ha, if_true, Bind.bind, Except.bind]
    rfl
  | true =>
    have hlong := h.resolve_left (by rw [ha]; decide)
    have hput := writeAdu_eq slave m ha
    generalize PduWrite.write request = body at hput hlong
    refine ⟨.outOfBounds 320, ?_, fun _ => rfl⟩
    rw [hput]
    by_cases hfit : body.length + 1 ≤ 320
    · obtain ⟨m1, h1, -⟩ := Buffer.putAll_ok m 0 (l := slave :: body) (by rw [List.length_cons]; omega)
      have h2 := Buffer.putAll_error m1 (0 + (slave :: body).length)
        (l := crcBytes (m1.toList.take (0 + (slave :: body).length))) (by rw [List.length_cons]; omega)
        (by show 320 < 0 + (body.length + 1) + 2; omega)
      simp only [h1, h2, Bind.bind, Except.bind]
    · have h1 := Buffer.putAll_error m 0 (l := slave :: body) (by decide) (by rw [List.length_cons]; omega)
      simp only [h1, Bind.bind, Except.bind]

namespace Stream

/-- A request that can be sent: its frame goes out, and the line is as it was. -/
theorem writeRequest_ok {α : Type} [PduWrite α] (slave : UInt8) {request : α} (s : Stream)
    (hassert : PduWrite.asserts request = true) (hlen : (PduWrite.write request).length ≤ 317) :
    ∃ m, writeRequest slave request s = (.ok s.transactionId,
      { s with
        messageBuffer := m, sent := s.sent ++ frame slave (PduWrite.write request),
        transactionId := s.transactionId + 1 }) := by
  obtain ⟨b, hb, hd⟩ := writeAdu_ok slave s.messageBuffer hassert hlen
  refine ⟨b.messageBuffer, ?_⟩
  rw [← hd]
  unfold writeRequest
  rw [Exec.bind_state, hb]
  rfl

/-- A request that cannot be sent stops the call. -/
theorem writeRequest_error {α : Type} [PduWrite α] (slave : UInt8) {request : α} (s : Stream)
    (h : PduWrite.asserts request = false ∨ 317 < (PduWrite.write request).length) :
    ∃ f, writeRequest slave request s = (.error f, s) ∧ (PduWrite.asserts request = true → f = .outOfBounds 320) := by
  obtain ⟨f, hf, hfull⟩ := writeAdu_error slave s.messageBuffer h
  refine ⟨f, ?_, hfull⟩
  unfold writeRequest
  rw [Exec.bind_state, hf]
  rfl

end Stream

/-! ## Frames that are received -/

/-- The bytes that arrive before the first timer expires. -/
def frameBytes : List LineEvent → List UInt8
  | .byte b :: line => b :: frameBytes line
  | _ => []

/-- What the line does after the first timer has expired. -/
def afterFrame : List LineEvent → List LineEvent
  | .byte _ :: line => afterFrame line
  | .timeout :: line => line
  | [] => []

/-- Bytes without a gap and then silence are one frame. -/
theorem frameBytes_map_byte (l : List UInt8) : frameBytes (l.map .byte) = l := by
  induction l with
  | nil => rfl
  | cons b l ih => rw [List.map_cons, frameBytes, ih]

/-- The first byte of a frame is the first thing on the line. -/
theorem frameBytes_eq_cons {line : List LineEvent} {b : UInt8} {body : List UInt8} (h : frameBytes line = b :: body) :
    ∃ line', line = .byte b :: line' ∧ frameBytes line' = body := by
  rcases line with _ | ⟨b' | _, line⟩
  · cases h
  · obtain ⟨rfl, hbody⟩ := List.cons.inj h
    exact ⟨line, rfl, hbody⟩
  · cases h

namespace Stream

/-- A wait that a byte ends, with room for it: the byte is appended to what the buffer has received. -/
theorem readByteWithTimeout_byte {source : Buffer 320} (h : source.Receiving) (s : Stream) {b : UInt8} {line : List LineEvent}
    (hline : s.line = .byte b :: line) (hfit : source.inputEnd < 320) :
    ∃ m, readByteWithTimeout source s = (.ok (1, { source with messageBuffer := m }), { s with messageBuffer := m, line }) ∧
      (({ source with messageBuffer := m } : Buffer 320).commit 1).Receiving ∧
      (({ source with messageBuffer := m } : Buffer 320).commit 1).received = source.received ++ [b] ∧
      (({ source with messageBuffer := m } : Buffer 320).commit 1).data = source.data ++ [b] := by
  obtain ⟨m, hm, hr, hrec, hd⟩ := Buffer.exists_receive h (l := [b]) (by rw [List.length_singleton]; omega)
  refine ⟨m, ?_, hr, hrec, hd⟩
  unfold readByteWithTimeout
  rw [Exec.bind_state, hline]
  simp only [hm]
  rfl

/-- A wait that a byte ends, with the array full: the byte is stored outside it. -/
theorem readByteWithTimeout_full {source : Buffer 320} (h : source.Receiving) (s : Stream) {b : UInt8} {line : List LineEvent}
    (hline : s.line = .byte b :: line) (hfull : 320 ≤ source.inputEnd) :
    readByteWithTimeout source s = (.error (.outOfBounds 320), { s with line }) := by
  have hm := Buffer.receive_error h (l := [b]) (by rw [List.length_singleton]; omega)
  unfold readByteWithTimeout
  rw [Exec.bind_state, hline]
  simp only [hm]
  rfl

/-- A wait that the timer ends. -/
theorem readByteWithTimeout_silence (source : Buffer 320) (s : Stream) (hline : frameBytes s.line = []) :
    readByteWithTimeout source s = (.ok (0, source), { s with line := afterFrame s.line }) := by
  obtain ⟨m, line, sent, transactionId⟩ := s
  rcases line with _ | ⟨b | _, line⟩
  · rfl
  · cases hline
  · rfl

/-- The loop that gathers a frame: it ends with the timer, and what arrived before is appended to what the buffer has received,
if the array has room for it. -/
theorem receiveRest_ok (passes : Nat) {source : Buffer 320} (h : source.Receiving) (s : Stream) (hpasses : s.line.length < passes)
    (hfit : source.inputEnd + (frameBytes s.line).length ≤ 320) :
    ∃ source' m, receiveRest passes source s = (.ok source', { s with messageBuffer := m, line := afterFrame s.line }) ∧
      source'.Receiving ∧ source'.received = source.received ++ frameBytes s.line ∧
      source'.data = source.data ++ frameBytes s.line := by
  induction passes generalizing source s with
  | zero => exact absurd hpasses (Nat.not_lt_zero _)
  | succ passes ih =>
    unfold receiveRest
    rcases hf : frameBytes s.line with _ | ⟨b, body⟩
    · rw [Exec.bind_ok (readByteWithTimeout_silence source s hf)]
      exact ⟨source, s.messageBuffer, rfl, h, (List.append_nil _).symm, (List.append_nil _).symm⟩
    · obtain ⟨line, hl, rfl⟩ := frameBytes_eq_cons hf
      rw [hf, List.length_cons] at hfit
      rw [hl, List.length_cons] at hpasses
      obtain ⟨m, hb, hr, hrec, hd⟩ := readByteWithTimeout_byte h s hl (by omega)
      have hroom : source.inputEnd + 1 + (frameBytes line).length ≤ 320 := by omega
      obtain ⟨source', m', hrest, hr', hrec', hd'⟩ :=
        ih hr { s with messageBuffer := m, line } (Nat.lt_of_succ_lt_succ hpasses) hroom
      refine ⟨source', m', ?_, hr', ?_, ?_⟩
      · rw [Exec.bind_ok hb, hl]
        exact hrest
      · rw [hrec', hrec, List.append_assoc]
        rfl
      · rw [hd', hd, List.append_assoc]
        rfl

/-- The loop on more bytes without a gap than the array has room for: one of them is stored outside it, and no more of the line is
gone than bytes of the frame. -/
theorem receiveRest_full (passes : Nat) {source : Buffer 320} (h : source.Receiving) (s : Stream)
    (hpasses : s.line.length < passes) (hlong : 320 < source.inputEnd + (frameBytes s.line).length) :
    ∃ n s', receiveRest passes source s = (.error (.outOfBounds 320), s') ∧ n ≤ (frameBytes s.line).length ∧
      s'.line = s.line.drop n := by
  have hend := h.wellFormed.2
  induction passes generalizing source s with
  | zero => exact absurd hpasses (Nat.not_lt_zero _)
  | succ passes ih =>
    unfold receiveRest
    rcases hf : frameBytes s.line with _ | ⟨b, body⟩
    · rw [hf] at hlong
      exact absurd hend (Nat.not_le.mpr hlong)
    · obtain ⟨line, hl, rfl⟩ := frameBytes_eq_cons hf
      rw [hf, List.length_cons] at hlong
      rw [hl, List.length_cons] at hpasses
      by_cases hfull : 320 ≤ source.inputEnd
      · refine ⟨1, _, Exec.bind_error (readByteWithTimeout_full h s hl hfull), Nat.le_add_left _ _, ?_⟩
        rw [hl]
        rfl
      · obtain ⟨m, hb, hr, -, -⟩ := readByteWithTimeout_byte h s hl (by omega)
        have hlong' : 320 < source.inputEnd + 1 + (frameBytes line).length := by omega
        obtain ⟨n, s', hrest, hn, hline⟩ :=
          ih hr { s with messageBuffer := m, line } (Nat.lt_of_succ_lt_succ hpasses) hlong' hr.wellFormed.2
        refine ⟨n + 1, s', ?_, Nat.succ_le_succ hn, ?_⟩
        · rw [Exec.bind_ok hb]
          exact hrest
        · rw [hline, hl]
          rfl

end Stream

end Mothbus.Rtu
