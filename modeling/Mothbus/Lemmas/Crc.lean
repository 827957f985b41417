import Mothbus.Library.Crc
import Mothbus.Lemmas.RtuFrame

/-!
# The checksum, bit by bit

`CRC16` takes a byte at a time from two tables. The register that its two halves make up is the one of CRC-16/MODBUS, which is
divided one bit at a time; the two bytes of the checksum, behind the bytes it is of, leave nothing in it.
-/

namespace Mothbus.Rtu

/-- The polynomial of CRC-16/MODBUS, reflected. -/
def modbusPolynomial : BitVec 16 := 0xA001#16

/-- CRC-16/MODBUS: the register starts with all bits set, each byte is added to its low half, and it is divided eight times. -/
def crc16Modbus (msg : List UInt8) : UInt16 := ⟨Crc.crc modbusPolynomial 0xFFFF#16 (msg.map UInt8.toBitVec)⟩

example : crc16Modbus [0x31, 0x32, 0x33, 0x34, 0x35, 0x36, 0x37, 0x38, 0x39] = 0x4B37 := by decide +kernel

/-! ## The tables -/

/-- The register of two halves. -/
def register (crc : UInt8 × UInt8) : BitVec 16 := crc.1.toBitVec ++ crc.2.toBitVec

/-- The two tables side by side are what each byte leaves in an empty register. -/
theorem tables_eq :
    List.zipWith (fun lo hi => register (lo, hi)) auchCRCLo.toList auchCRCHi.toList =
      List.ofFn fun i : Fin 256 => Crc.absorb modbusPolynomial 0#16 (BitVec.ofFin i : BitVec 8) := by
  decide +kernel

/-- The upper half of what a byte leaves in an empty register is its entry under `Lo`, the lower half the one under `Hi`. -/
theorem register_entry (x : BitVec 8) :
    register (entry auchCRCLo ⟨x⟩, entry auchCRCHi ⟨x⟩) = Crc.absorb modbusPolynomial 0#16 x := by
  have hget : ∀ (table : Vector UInt8 256), table.toList[x.toNat]? = some (entry table ⟨x⟩) := by
    intro table
    rw [List.getElem?_eq_getElem (by rw [Vector.length_toList]; exact x.isLt)]
    rfl
  have h := congrArg (fun l => l[x.toNat]?) tables_eq
  simp only [List.getElem?_zipWith, hget, List.getElem?_ofFn, dif_pos (show x.toNat < 256 from x.isLt), Option.some.injEq] at h
  exact h

/-- A pass of the loop takes in one byte. -/
theorem register_crcStep (crc : UInt8 × UInt8) (b : UInt8) :
    register (crcStep crc b) = Crc.absorb modbusPolynomial (register crc) b.toBitVec := by
  have hlow : (register crc).setWidth 8 = crc.2.toBitVec := BitVec.setWidth_append_eq_right
  have hhigh : register crc >>> 8 = register (0, crc.1) := by
    apply BitVec.eq_of_getLsbD_eq
    intro i hi
    simp only [register, BitVec.getLsbD_ushiftRight, BitVec.getLsbD_append]
    by_cases h : i < 8
    · simp [h]
    · simp [h, BitVec.getLsbD_of_ge crc.1.toBitVec i (by omega)]
  rw [Crc.absorb_table, hlow, hhigh]
  have hentry := register_entry (crc.2.toBitVec ^^^ b.toBitVec)
  rw [← hentry]
  show (entry auchCRCLo (crc.2 ^^^ b)).toBitVec ++ (crc.1 ^^^ entry auchCRCHi (crc.2 ^^^ b)).toBitVec =
    (0 ++ crc.1.toBitVec) ^^^ ((entry auchCRCLo (crc.2 ^^^ b)).toBitVec ++ (entry auchCRCHi (crc.2 ^^^ b)).toBitVec)
  rw [BitVec.xor_append, UInt8.toBitVec_xor]
  simp

/-- The value of the register. -/
theorem toBitVec_join (hi lo : UInt8) : (hi.toUInt16 <<< 8 ||| lo.toUInt16).toBitVec = register (hi, lo) := by
  apply BitVec.eq_of_toNat_eq
  rw [UInt16.toNat_toBitVec, toNat_join]
  show _ = (hi.toBitVec ++ lo.toBitVec).toNat
  have hlo := lo.toNat_lt
  rw [BitVec.toNat_append, UInt8.toNat_toBitVec, UInt8.toNat_toBitVec, ← Nat.shiftLeft_add_eq_or_of_lt hlo, Nat.shiftLeft_eq]

/-- The table-driven loop computes the checksum bit by bit. -/
theorem crc16_eq (msg : List UInt8) : crc16 msg = crc16Modbus msg := by
  have hfold : ∀ crc : UInt8 × UInt8,
      register (msg.foldl crcStep crc) = Crc.crc modbusPolynomial (register crc) (msg.map UInt8.toBitVec) := by
    induction msg with
    | nil => exact fun _ => rfl
    | cons b msg ih =>
      intro crc
      rw [List.foldl_cons, ih, register_crcStep]
      rfl
  apply UInt16.toBitVec_inj.mp
  exact (toBitVec_join _ _).trans (hfold (0xFF, 0xFF))

/-! ## The checksum behind its message -/

/-- Two bytes are the checksum of a message when the word of them is. -/
theorem eq_crcBytes_iff (msg : List UInt8) (lo hi : UInt8) :
    [lo, hi] = crcBytes msg ↔ hi.toUInt16 <<< 8 ||| lo.toUInt16 = crc16 msg := by
  have hjoin := writeUint16_join hi lo
  constructor
  · intro h
    obtain ⟨h1, h2⟩ := List.cons.inj h
    rw [h1, (List.cons.inj h2).1]
    exact join_bytes _
  · intro h
    rw [writeUint16, h] at hjoin
    obtain ⟨h1, h2⟩ := List.cons.inj hjoin
    rw [crcBytes, h1, (List.cons.inj h2).1]

/-- Two bytes behind a message leave nothing in the register exactly when they are the checksum of the message. -/
theorem crc16_append_eq_zero_iff (msg : List UInt8) (lo hi : UInt8) :
    crc16 (msg ++ [lo, hi]) = 0 ↔ [lo, hi] = crcBytes msg := by
  have htop : modbusPolynomial.getLsbD (16 - 1) = true := by decide
  have hword : (Crc.ofBits (Crc.bits lo.toBitVec ++ Crc.bits hi.toBitVec) : BitVec 16) = register (hi, lo) :=
    Crc.ofBits_bits_append lo.toBitVec hi.toBitVec
  rw [eq_crcBytes_iff, crc16_eq, crc16_eq, ← UInt16.toBitVec_inj, ← UInt16.toBitVec_inj, toBitVec_join, ← hword]
  show Crc.crc modbusPolynomial 0xFFFF#16 ((msg ++ [lo, hi]).map UInt8.toBitVec) = 0#16 ↔
    _ = Crc.crc modbusPolynomial 0xFFFF#16 (msg.map UInt8.toBitVec)
  rw [List.map_append, Crc.crc_append, Crc.crc_eq_remainder _ _ ([lo, hi].map UInt8.toBitVec) (by decide)]
  exact Crc.remainder_eq_zero_iff htop _ (by simp)

/-- The checksum of a message with its checksum behind it is zero. -/
theorem crc16_append_crcBytes (msg : List UInt8) : crc16 (msg ++ crcBytes msg) = 0 :=
  (crc16_append_eq_zero_iff msg _ _).mpr rfl

end Mothbus.Rtu
