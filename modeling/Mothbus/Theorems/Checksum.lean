import Mothbus.Lemmas.Crc
import Mothbus.Lemmas.RtuClient

/-!
# The checksum of RTU frames

What is sent carries the CRC-16/MODBUS of the slave id and the PDU, low byte first. What is received is compared with it; no burst
of errors of at most sixteen bits, in the order in which the bits are on the line, passes the comparison.
-/

namespace Mothbus.Rtu

open ErrorLike (ok failed)

/-! ## What is sent -/

/-- The two bytes of the checksum are the low and the high part of the number. -/
theorem exists_crcBytes (msg : List UInt8) :
    ∃ lo hi : UInt8, crcBytes msg = [lo, hi] ∧ hi.toNat * 256 + lo.toNat = (crc16 msg).toNat := by
  refine ⟨_, _, rfl, ?_⟩
  rw [toNat_highByte, toNat_lowByte]
  omega

/-- The checksum of what `write_request` sends.
1. For a request whose assertion holds and that fits the array: the slave id, the PDU and the two bytes of the CRC-16/MODBUS of
   both, low byte first; the checksum of the whole frame is zero.
2. A request whose assertion fails stops the call, and nothing is sent.
3. The loop over the two tables computes the CRC-16/MODBUS of any bytes. -/
theorem writeRequest_modbus_checksum :
    (∀ (slave : UInt8) (k : RequestKind) (q : k.Pdu) (s : Stream), PduWrite.asserts q = true →
      (PduWrite.write q).length + 3 ≤ 320 →
      ∃ (lo hi : UInt8) (s' : Stream), Stream.writeRequest slave q s = (.ok s.transactionId, s') ∧
        s'.sent = s.sent ++ (slave :: PduWrite.write q ++ [lo, hi]) ∧
        hi.toNat * 256 + lo.toNat = (crc16Modbus (slave :: PduWrite.write q)).toNat ∧
        crc16 (slave :: PduWrite.write q ++ [lo, hi]) = 0) ∧
    (∀ (slave : UInt8) (k : RequestKind) (q : k.Pdu) (s : Stream), PduWrite.asserts q = false →
      ∃ f, Stream.writeRequest slave q s = (.error f, s)) ∧
    ∀ msg : List UInt8, crc16 msg = crc16Modbus msg := by
  refine ⟨?_, ?_, crc16_eq⟩
  · intro slave k q s hassert hfit
    obtain ⟨m, hrun⟩ := Stream.writeRequest_ok slave s hassert (by omega)
    obtain ⟨lo, hi, hbytes, hvalue⟩ := exists_crcBytes (slave :: PduWrite.write q)
    have hzero := crc16_append_crcBytes (slave :: PduWrite.write q)
    rw [hbytes] at hzero
    refine ⟨lo, hi, _, hrun, ?_, ?_, hzero⟩
    · rw [frame, hbytes]
    · rw [hvalue, crc16_eq]
  · intro slave k q s hassert
    obtain ⟨f, hrun, -⟩ := Stream.writeRequest_error slave s (Or.inl hassert)
    exact ⟨f, hrun⟩

/-- A read of three holding registers. -/
theorem readHolding_modbus_checksum :
    ∃ (lo hi : UInt8) (s' : Stream), Stream.writeRequest 0x11 (⟨0x6B, 3⟩ : ReadHoldingPduReq) {} = (.ok 0, s') ∧
      s'.sent = [] ++ ([0x11, 0x03, 0x00, 0x6B, 0x00, 0x03] ++ [lo, hi]) ∧
      hi.toNat * 256 + lo.toNat = (crc16Modbus [0x11, 0x03, 0x00, 0x6B, 0x00, 0x03]).toNat ∧
      crc16 ([0x11, 0x03, 0x00, 0x6B, 0x00, 0x03] ++ [lo, hi]) = 0 :=
  writeRequest_modbus_checksum.1 0x11 .readHolding (⟨0x6B, 3⟩ : ReadHoldingPduReq) {} rfl (by decide)

/-! ## What is received -/

/-- The bits of some bytes in the order of the line: byte by byte, least significant bit first. -/
def lineBits (l : List UInt8) : List Bool := (l.map UInt8.toBitVec).flatMap Crc.bits

/-- Some bytes with the bits of an error pattern flipped. -/
def corrupt (l e : List UInt8) : List UInt8 := List.zipWith (· ^^^ ·) l e

/-- A corrupted frame is as long as the frame. -/
theorem length_corrupt {l e : List UInt8} (h : e.length = l.length) : (corrupt l e).length = l.length := by
  rw [corrupt, List.length_zipWith, h, Nat.min_self]

/-- Bytes whose checksum is zero, after a burst of errors of at most sixteen bits, have another checksum. -/
theorem crc16_corrupt {l e : List UInt8} (hl : crc16 l = 0) (hlen : e.length = l.length) (hburst : Crc.Burst 16 (lineBits e)) :
    crc16 (corrupt l e) ≠ 0 := by
  have htop : modbusPolynomial.getLsbD (16 - 1) = true := by decide
  have hmap : (corrupt l e).map UInt8.toBitVec =
      List.zipWith (· ^^^ ·) (l.map UInt8.toBitVec) (e.map UInt8.toBitVec) := by
    rw [corrupt, List.map_zipWith, List.zipWith_map]
    rfl
  rw [crc16_eq] at hl ⊢
  intro h0
  have hzero := UInt16.toBitVec_inj.mpr hl
  have hzero' := UInt16.toBitVec_inj.mpr h0
  simp only [crc16Modbus, hmap] at hzero hzero'
  exact Crc.crc_burst htop (by decide) hzero (by rw [List.length_map, List.length_map, hlen]) hburst hzero'

/-- Bytes with their checksum, after a burst of errors of at most sixteen bits: the last two bytes are not the checksum of the
others. -/
theorem crcBytes_corrupt {m e : List UInt8} (hlen : e.length = m.length + 2) (hburst : Crc.Burst 16 (lineBits e)) :
    ∃ lo hi : UInt8, (corrupt (m ++ crcBytes m) e).drop m.length = [lo, hi] ∧
      [lo, hi] ≠ crcBytes ((corrupt (m ++ crcBytes m) e).take m.length) := by
  have hframe : (m ++ crcBytes m).length = m.length + 2 := List.length_append
  have hne := crc16_corrupt (crc16_append_crcBytes m) (hlen.trans hframe.symm) hburst
  have hlength := length_corrupt (hlen.trans hframe.symm)
  generalize corrupt (m ++ crcBytes m) e = received at hne hlength
  rw [hframe] at hlength
  obtain ⟨lo, hi, hlast⟩ := List.length_eq_two.mp (show (received.drop m.length).length = 2 by
    rw [List.length_drop]
    omega)
  refine ⟨lo, hi, hlast, ?_⟩
  intro heq
  apply hne
  rw [← List.take_append_drop m.length received, hlast]
  exact (crc16_append_eq_zero_iff _ lo hi).mpr heq

/-- Two bytes that the decoder leaves and that are not the checksum of what it read are refused. -/
theorem Stream.verdict_mismatch {α : Type} [PduRead α] {indeterminate : Indeterminate} (slave : UInt8) {out : α} {body : List UInt8}
    (hleft : (decode indeterminate out body).2.length = 2)
    (hne : (decode indeterminate out body).2 ≠ crcBytes (slave :: body.take (body.length - 2))) :
    verdict indeterminate slave out body = (makeErrorCode .invalidResponse, (decode indeterminate out body).1.2) := by
  rw [← hleft] at hne
  refine if_neg ?_
  rw [crcMatches_of_length indeterminate _ (Nat.le_of_eq hleft.symm), List.take_of_length_le (Nat.le_of_eq hleft)]
  exact hne

/-- A burst of errors of at most sixteen bits, anywhere in a message and its checksum, does not pass the comparison.
1. The last two bytes, as `receive_response` compares them, differ from the two bytes of the checksum of those before.
2. So a call that receives these bytes as a frame, and whose decoder leaves the last two of them, ends with
   `invalid_response`. -/
theorem burst_caught (m e : List UInt8) (hlen : e.length = m.length + 2) (hburst : Crc.Burst 16 (lineBits e)) :
    (∃ rcvCrcL rcvCrcH : UInt8, (corrupt (m ++ crcBytes m) e).drop m.length = [rcvCrcL, rcvCrcH] ∧
      (rcvCrcL ≠ (crc16 ((corrupt (m ++ crcBytes m) e).take m.length) &&& 0xff).toUInt8 ∨
        rcvCrcH ≠ ((crc16 ((corrupt (m ++ crcBytes m) e).take m.length) >>> 8) &&& 0xff).toUInt8)) ∧
    ∀ (k : ResponseKind) (indeterminate : Indeterminate) (slave : UInt8) (out : k.Pdu) (s : Stream) (body : List UInt8),
      slave ≠ 0 → frameBytes s.line = corrupt (m ++ crcBytes m) e → corrupt (m ++ crcBytes m) e = slave :: body →
      body.length + 1 ≤ 320 → (Stream.decode indeterminate out body).2.length = 2 →
      ∃ r s', Stream.receiveResponse indeterminate slave out s = (.ok (makeErrorCode .invalidResponse, r), s') := by
  obtain ⟨lo, hi, hlast, hne⟩ := crcBytes_corrupt hlen hburst
  constructor
  · refine ⟨lo, hi, hlast, ?_⟩
    rw [← not_and_or]
    rintro ⟨hlo, hhi⟩
    exact hne (by rw [crcBytes, ← hlo, ← hhi])
  · intro k indeterminate slave out s body hslave hframe hbody hfit hleft
    have hlength : body.length + 1 = m.length + 2 := by
      have hframe' : (m ++ crcBytes m).length = m.length + 2 := List.length_append
      rw [← List.length_cons (a := slave), ← hbody, length_corrupt (hlen.trans hframe'.symm), hframe']
    rw [hbody] at hframe hlast hne
    obtain ⟨line, hline, rfl⟩ := frameBytes_eq_cons hframe
    obtain ⟨m', hrun⟩ := Stream.receiveResponse_frame indeterminate out hslave hline (by omega)
    generalize frameBytes line = body at *
    have hsplit := Stream.take_append_decode indeterminate out body
    have hshort := congrArg List.length hsplit
    rw [hleft, List.length_append, hleft] at hshort
    have htake : (slave :: body).take m.length = slave :: body.take (body.length - 2) := by
      rw [show m.length = body.length - 2 + 1 by omega, List.take_succ_cons]
    have hdrop : (slave :: body).drop m.length = (Stream.decode indeterminate out body).2 := by
      have hall := List.take_append_drop m.length (slave :: body)
      rw [hleft] at hsplit
      rw [htake, List.cons_append] at hall
      exact List.append_cancel_left ((List.cons.inj hall).2.trans hsplit.symm)
    rw [← hlast, htake, hdrop] at hne
    rw [Stream.verdict_mismatch slave hleft hne] at hrun
    exact ⟨_, _, hrun⟩

/-- A burst of two bits at the border between an exception response and its checksum. -/
theorem burst_caught_border :
    ∃ rcvCrcL rcvCrcH : UInt8, (corrupt ([0x11, 0x83, 0x02] ++ crcBytes [0x11, 0x83, 0x02]) [0, 0, 0x80, 0x01, 0]).drop 3 =
        [rcvCrcL, rcvCrcH] ∧
      (rcvCrcL ≠ (crc16 ((corrupt ([0x11, 0x83, 0x02] ++ crcBytes [0x11, 0x83, 0x02]) [0, 0, 0x80, 0x01, 0]).take 3) &&&
          0xff).toUInt8 ∨
        rcvCrcH ≠ ((crc16 ((corrupt ([0x11, 0x83, 0x02] ++ crcBytes [0x11, 0x83, 0x02]) [0, 0, 0x80, 0x01, 0]).take 3) >>> 8) &&&
          0xff).toUInt8) := by
  have hbits : lineBits [0, 0, 0x80, 0x01, 0] = List.replicate 23 false ++ ([true, true] ++ List.replicate 15 false) := by decide
  have hburst : Crc.Burst 16 (lineBits [0, 0, 0x80, 0x01, 0]) := by
    rw [hbits]
    exact Crc.burst_of_middle (by decide) (by decide)
  exact (burst_caught [0x11, 0x83, 0x02] [0, 0, 0x80, 0x01, 0] rfl hburst).1

end Mothbus.Rtu
