import Mothbus.Lemmas.ResponseCodec
import Mothbus.Lemmas.RtuFrame

/-!
# What the RTU client makes of a frame

`receive_response` waits for the slave id, gathers what follows until the line falls silent, decodes it and compares the two bytes
after what the decoder read with the checksum of what it read. Each way through it is one lemma.
-/

namespace Mothbus.Rtu

open ErrorLike (ok failed)
open ReadProgram

namespace Stream

variable {α : Type} [PduRead α]

/-- The response decoder on the bytes after the slave id, and the bytes it leaves. -/
def decode (indeterminate : Indeterminate) (out : α) (body : List UInt8) : (ErrorCode × α) × List UInt8 :=
  (readPduResp indeterminate.functionCode out).run Buffer.input body

/-- The comparison of the two bytes that the decoder leaves with the checksum of what it read. A byte that is not there is the
indeterminate value of its variable. -/
def crcMatches (indeterminate : Indeterminate) (read left : List UInt8) : Prop :=
  [left.getD 0 indeterminate.rcvCrcL, left.getD 1 indeterminate.rcvCrcH] = crcBytes read

instance (indeterminate : Indeterminate) (read left : List UInt8) : Decidable (crcMatches indeterminate read left) :=
  inferInstanceAs (Decidable (_ = _))

/-- The comparison byte by byte. -/
theorem crcMatches_iff (indeterminate : Indeterminate) (read left : List UInt8) :
    crcMatches indeterminate read left ↔
      left.getD 0 indeterminate.rcvCrcL = (crc16 read &&& 0xff).toUInt8 ∧
        (left.drop 1).getD 0 indeterminate.rcvCrcH = ((crc16 read >>> 8) &&& 0xff).toUInt8 := by
  have hsecond : left.getD 1 indeterminate.rcvCrcH = (left.drop 1).getD 0 indeterminate.rcvCrcH := by
    cases left <;> rfl
  unfold crcMatches crcBytes
  rw [List.cons.injEq, List.cons.injEq, hsecond]
  simp only [and_true]

/-- The checksum after what the decoder reads of the bytes after the slave id is that of the slave id and what it reads. -/
def ChecksumPasses (indeterminate : Indeterminate) (slave : UInt8) (out : α) (body : List UInt8) : Prop :=
  let r := decode indeterminate out body
  crcMatches indeterminate (slave :: body.take (body.length - r.2.length)) r.2

/-- What `receive_response` returns for the bytes after the slave id. -/
def verdict (indeterminate : Indeterminate) (slave : UInt8) (out : α) (body : List UInt8) : ErrorCode × α :=
  let r := decode indeterminate out body
  if crcMatches indeterminate (slave :: body.take (body.length - r.2.length)) r.2 then (ok, r.1.2)
  else (makeErrorCode .invalidResponse, r.1.2)

/-- The checksum alone decides on success, and the object is as the decoder leaves it. -/
theorem verdict_checksum {indeterminate : Indeterminate} {slave : UInt8} {out : α} {body : List UInt8}
    (h : ChecksumPasses indeterminate slave out body) :
    verdict indeterminate slave out body = (ok, (decode indeterminate out body).1.2) := if_pos h

/-- The verdict of the RTU client is a success exactly if the checksum passes. -/
theorem failed_verdict_iff (indeterminate : Indeterminate) (slave : UInt8) (out : α) (body : List UInt8) :
    failed (verdict indeterminate slave out body).1 = false ↔ ChecksumPasses indeterminate slave out body := by
  constructor
  · intro hok
    by_contra h
    have hv : verdict indeterminate slave out body = (makeErrorCode .invalidResponse, _) := if_neg h
    rw [hv] at hok
    cases hok
  · intro h
    rw [verdict_checksum h]
    rfl

/-- What the decoder leaves is the end of what it was given. -/
theorem take_append_decode (indeterminate : Indeterminate) (out : α) (body : List UInt8) :
    body.take (body.length - (decode indeterminate out body).2.length) ++ (decode indeterminate out body).2 = body :=
  take_append_run _ _

/-- The verdict on bytes of which the decoder leaves the last ones. -/
theorem verdict_eq {indeterminate : Indeterminate} {slave : UInt8} {out : α} {read left : List UInt8} {r : ErrorCode × α}
    (h : decode indeterminate out (read ++ left) = (r, left)) :
    verdict indeterminate slave out (read ++ left) =
      if crcMatches indeterminate (slave :: read) left then (ok, r.2) else (makeErrorCode .invalidResponse, r.2) := by
  have htake : (read ++ left).take ((read ++ left).length - left.length) = read := by
    rw [List.length_append, Nat.add_sub_cancel, List.take_left' rfl]
  unfold verdict
  simp only [h, htake]

/-- Where two bytes are left, they are the ones compared. -/
theorem crcMatches_of_length (indeterminate : Indeterminate) (read : List UInt8) {left : List UInt8} (h : 2 ≤ left.length) :
    crcMatches indeterminate read left ↔ left.take 2 = crcBytes read := by
  match left, h with
  | lo :: hi :: _, _ => exact Iff.rfl

/-- Nothing arrives in time. -/
theorem receiveResponse_silence (indeterminate : Indeterminate) {expectedSlave : UInt8} (out : α) (hslave : expectedSlave ≠ 0)
    {s : Stream} (hline : frameBytes s.line = []) :
    receiveResponse indeterminate expectedSlave out s = (.ok (timedOut, out), { s with line := afterFrame s.line }) := by
  unfold receiveResponse
  rw [if_neg hslave, Exec.bind_state, Exec.bind_ok (readByteWithTimeout_silence _ s hline)]
  rfl

/-- The first byte, once it has arrived, is what the slave id is read from. -/
theorem readUint8_first {source : Buffer 320} (hr : source.Receiving) {b : UInt8} (hd : source.data = [b]) (x : UInt8) :
    (readUint8 x).run Buffer.source source = ((ok, b), source.leaving []) := by
  rw [Buffer.run_source _ hr.wellFormed, hd]
  rfl

/-- One of the bytes compared with the checksum: the next one, or what the variable held. -/
theorem readUint8_next {source : Buffer 320} (hr : source.Receiving) (x : UInt8) :
    ∃ ec, (readUint8 x).run Buffer.source source = ((ec, source.data.getD 0 x), source.leaving (source.data.drop 1)) := by
  rw [Buffer.run_source _ hr.wellFormed]
  cases source.data with
  | nil => exact ⟨_, rfl⟩
  | cons b l => exact ⟨_, rfl⟩

/-- After the decoder, the bytes of the buffer up to its cursor are the slave id and what the decoder read. -/
theorem take_inputStart {source : Buffer 320} (hr : source.Receiving) {slave : UInt8} {body left : List UInt8}
    (hrec : source.received = slave :: body) (hleft : left.length ≤ body.length) :
    (source.leaving left).messageBuffer.toList.take (source.leaving left).inputStart =
      slave :: body.take (body.length - left.length) := by
  have hend : source.inputEnd = body.length + 1 := by
    rw [← Buffer.length_received hr.wellFormed, hrec, List.length_cons]
  have hstart : (source.leaving left).inputStart = body.length - left.length + 1 := by
    show source.inputEnd - left.length = _
    omega
  have htake : source.messageBuffer.toList.take (body.length - left.length + 1) =
      source.received.take (body.length - left.length + 1) := by
    unfold Buffer.received
    rw [List.take_take, hend, Nat.min_eq_left (by omega)]
  rw [hstart, Buffer.leaving_messageBuffer, htake, hrec, List.take_succ_cons]

/-- What `receive_response` does once the line has fallen silent. -/
def checkFrame (indeterminate : Indeterminate) (out : α) (source : Buffer 320) : Exec Fault Stream (ErrorCode × α) := do
  let ((_, out), source) := (readPduResp indeterminate.functionCode out).run Buffer.source source
  let crc := crc16 (source.messageBuffer.toList.take source.inputStart)
  let ((_, rcvCrcL), source) := (readUint8 indeterminate.rcvCrcL).run Buffer.source source
  let ((_, rcvCrcH), _) := (readUint8 indeterminate.rcvCrcH).run Buffer.source source
  if rcvCrcL ≠ (crc &&& 0xff).toUInt8 ∨ rcvCrcH ≠ ((crc >>> 8) &&& 0xff).toUInt8 then
    return (makeErrorCode .invalidResponse, out)
  return (ok, out)

/-- On a buffer that has received a slave id and a body, and read the slave id, it returns the verdict on the body. -/
theorem checkFrame_eq (indeterminate : Indeterminate) (out : α) {source : Buffer 320} (hr : source.Receiving) {slave : UInt8}
    {body : List UInt8} (hrec : source.received = slave :: body) (hdata : source.data = body) :
    checkFrame indeterminate out source = pure (verdict indeterminate slave out body) := by
  have hdecode : (readPduResp indeterminate.functionCode out).run Buffer.source source =
      ((decode indeterminate out body).1, source.leaving (decode indeterminate out body).2) := by
    rw [Buffer.run_source _ hr.wellFormed, hdata]
    rfl
  have hsplit := take_append_decode indeterminate out body
  have hleft : (decode indeterminate out body).2.length ≤ body.length :=
    (run_suffix (readPduResp indeterminate.functionCode out) body).length_le
  have hread := take_inputStart hr hrec hleft
  unfold checkFrame verdict
  generalize decode indeterminate out body = r at hdecode hsplit hleft hread
  have hdata' : (source.leaving r.2).data = r.2 := Buffer.data_leaving hr.wellFormed (hdata.trans hsplit.symm)
  obtain ⟨ecL, hlow⟩ := readUint8_next (hr.leaving r.2) indeterminate.rcvCrcL
  rw [hdata'] at hlow
  have hdata'' : ((source.leaving r.2).leaving (r.2.drop 1)).data = r.2.drop 1 :=
    Buffer.data_leaving (hr.leaving r.2).wellFormed (hdata'.trans (List.take_append_drop 1 r.2).symm)
  obtain ⟨ecH, hhigh⟩ := readUint8_next ((hr.leaving r.2).leaving (r.2.drop 1)) indeterminate.rcvCrcH
  rw [hdata''] at hhigh
  simp only [hdecode, hread, hlow, hhigh]
  by_cases hcrc : crcMatches indeterminate (slave :: body.take (body.length - r.2.length)) r.2
  · have h := (crcMatches_iff _ _ _).mp hcrc
    rw [if_pos hcrc, if_neg (by rintro (h1 | h2); exacts [h1 h.1, h2 h.2])]
  · have h := mt (crcMatches_iff _ _ _).mpr hcrc
    rw [if_neg hcrc, if_pos (not_and_or.mp h)]

/-- What `receive_response` does once it has received the slave id. -/
def afterSlave (indeterminate : Indeterminate) (expectedSlave receivedSlave : UInt8) (out : α) (source : Buffer 320) :
    Exec Fault Stream (ErrorCode × α) := do
  if receivedSlave ≠ expectedSlave then return (makeErrorCode .slaveIdInvalid, out)
  let s ← Exec.state
  let source ← receiveRest (s.line.length + 1) source
  checkFrame indeterminate out source

/-- On a line that delivers a byte in time, `receive_response` reads it as the slave id and goes on from there. -/
theorem receiveResponse_first (indeterminate : Indeterminate) {expectedSlave : UInt8} (out : α) (hslave : expectedSlave ≠ 0)
    {s : Stream} {b : UInt8} {line : List LineEvent} (hline : s.line = .byte b :: line) :
    ∃ m source, source.Receiving ∧ source.inputEnd = 1 ∧ source.received = [b] ∧ source.data = [] ∧
      receiveResponse indeterminate expectedSlave out s =
        afterSlave indeterminate expectedSlave b out source { s with messageBuffer := m, line } := by
  have hroom : ({ messageBuffer := s.messageBuffer } : Buffer 320).inputEnd < 320 := Nat.zero_lt_succ _
  obtain ⟨m, hrun, hr, hrec, hd⟩ := readByteWithTimeout_byte (Buffer.receiving_empty s.messageBuffer) s hline hroom
  rw [Buffer.data_empty, List.nil_append] at hd
  have hfirst := readUint8_first hr hd indeterminate.receivedSlave
  refine ⟨m, _, hr.leaving [], rfl, hrec.trans (List.nil_append _),
    Buffer.data_leaving hr.wellFormed (hd.trans (List.append_nil _).symm), ?_⟩
  unfold receiveResponse afterSlave
  rw [if_neg hslave, Exec.bind_state, Exec.bind_ok hrun]
  simp only [Nat.one_ne_zero, if_false, hfirst]
  rfl

/-- The first byte is not the expected slave id. -/
theorem receiveResponse_foreign (indeterminate : Indeterminate) {expectedSlave : UInt8} (out : α) (hslave : expectedSlave ≠ 0)
    {s : Stream} {b : UInt8} {line : List LineEvent} (hline : s.line = .byte b :: line) (hb : b ≠ expectedSlave) :
    ∃ m, receiveResponse indeterminate expectedSlave out s =
      (.ok (makeErrorCode .slaveIdInvalid, out), { s with messageBuffer := m, line }) := by
  obtain ⟨m, source, -, -, -, -, hrun⟩ := receiveResponse_first indeterminate out hslave hline
  refine ⟨m, ?_⟩
  rw [hrun]
  unfold afterSlave
  rw [if_pos hb]
  rfl

/-- The first byte is the expected slave id and the frame has room: the call ends with the verdict on the bytes after it, and the
line is past the frame. -/
theorem receiveResponse_frame (indeterminate : Indeterminate) {expectedSlave : UInt8} (out : α) (hslave : expectedSlave ≠ 0)
    {s : Stream} {line : List LineEvent} (hline : s.line = .byte expectedSlave :: line)
    (hfit : 1 + (frameBytes line).length ≤ 320) :
    ∃ m, receiveResponse indeterminate expectedSlave out s =
      (.ok (verdict indeterminate expectedSlave out (frameBytes line)),
        { s with messageBuffer := m, line := afterFrame line }) := by
  obtain ⟨m, first, hr, hend, hrec, hd, hrun⟩ := receiveResponse_first indeterminate out hslave hline
  rw [← hend] at hfit
  obtain ⟨source, m', hrest, hrs, hrecs, hds⟩ := receiveRest_ok (line.length + 1) hr
    { s with messageBuffer := m, line } (Nat.lt_succ_self _) hfit
  refine ⟨m', ?_⟩
  rw [hrun]
  unfold afterSlave
  rw [hrec] at hrecs
  rw [hd, List.nil_append] at hds
  rw [if_neg (not_not_intro rfl), Exec.bind_state, Exec.bind_ok hrest, checkFrame_eq indeterminate out hrs hrecs hds]
  rfl

/-- The first byte is the expected slave id and the frame has no room: a byte of it is stored outside the array, and no more of
the line is gone than bytes of the frame. -/
theorem receiveResponse_full (indeterminate : Indeterminate) {expectedSlave : UInt8} (out : α) (hslave : expectedSlave ≠ 0)
    {s : Stream} {line : List LineEvent} (hline : s.line = .byte expectedSlave :: line)
    (hlong : 320 < 1 + (frameBytes line).length) :
    ∃ n s', receiveResponse indeterminate expectedSlave out s = (.error (.outOfBounds 320), s') ∧
      n ≤ (frameBytes line).length ∧ s'.line = line.drop n := by
  obtain ⟨m, source, hr, hend, -, -, hrun⟩ := receiveResponse_first indeterminate out hslave hline
  rw [← hend] at hlong
  obtain ⟨n, s', hrest, hn, hline'⟩ :=
    receiveRest_full (line.length + 1) hr { s with messageBuffer := m, line } (Nat.lt_succ_self _) hlong
  refine ⟨n, s', ?_, hn, hline'⟩
  rw [hrun]
  unfold afterSlave
  rw [if_neg (not_not_intro rfl), Exec.bind_state]
  exact Exec.bind_error hrest

/-- A call stops with a fault, or it receives no frame of the slave, or it gathers one that fits the array and ends with the verdict
on the bytes after the slave id. -/
theorem receiveResponse_cases (indeterminate : Indeterminate) {expectedSlave : UInt8} (out : α) (hslave : expectedSlave ≠ 0)
    (s : Stream) :
    (∃ f s', receiveResponse indeterminate expectedSlave out s = (.error f, s')) ∨
    (∃ ec s', failed ec = true ∧ receiveResponse indeterminate expectedSlave out s = (.ok (ec, out), s')) ∨
    ∃ body m, frameBytes s.line = expectedSlave :: body ∧ 1 + body.length ≤ 320 ∧
      receiveResponse indeterminate expectedSlave out s =
        (.ok (verdict indeterminate expectedSlave out body), { s with messageBuffer := m, line := afterFrame s.line }) := by
  rcases hf : frameBytes s.line with _ | ⟨b, body⟩
  · exact Or.inr (Or.inl ⟨timedOut, _, rfl, receiveResponse_silence indeterminate out hslave hf⟩)
  obtain ⟨line, hline, rfl⟩ := frameBytes_eq_cons hf
  by_cases hb : b = expectedSlave
  · subst hb
    by_cases hfit : 1 + (frameBytes line).length ≤ 320
    · obtain ⟨m, hrun⟩ := receiveResponse_frame indeterminate out hslave hline hfit
      refine Or.inr (Or.inr ⟨frameBytes line, m, rfl, hfit, ?_⟩)
      rw [hrun, hline]
      rfl
    · obtain ⟨n, s', hrun, -⟩ := receiveResponse_full indeterminate out hslave hline (by omega)
      exact Or.inl ⟨_, s', hrun⟩
  · obtain ⟨m, hrun⟩ := receiveResponse_foreign indeterminate out hslave hline hb
    exact Or.inr (Or.inl ⟨_, _, rfl, hrun⟩)

end Stream

end Mothbus.Rtu
