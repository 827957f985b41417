import Mathlib.Tactic.Common
import Mothbus.Pdu.Responses

/-!
# Fields on the wire

What each read function of a field reads, and that it is what the write function of the field puts.
-/

namespace Mothbus

open ErrorLike (ok failed)
open ReadProgram Decoder

/-! ## Words and their two bytes -/

/-- The value of two bytes that are put together, the first of which is the high one. -/
theorem toNat_join (hi lo : UInt8) : (hi.toUInt16 <<< 8 ||| lo.toUInt16).toNat = hi.toNat * 256 + lo.toNat := by
  have h1 := hi.toNat_lt
  have h2 := lo.toNat_lt
  have hor := Nat.two_pow_add_eq_or_of_lt (i := 8) h2 hi.toNat
  rw [UInt16.toNat_or, UInt16.toNat_shiftLeft]
  simp only [UInt8.toNat_toUInt16, Nat.shiftLeft_eq]
  have h8 : (UInt16.toNat 8) % 16 = 8 := rfl
  rw [h8, Nat.mod_eq_of_lt (by omega), Nat.mul_comm, ← hor]

/-- The value of the byte that is written first of a 16-bit value. -/
theorem toNat_highByte (v : UInt16) : (((v >>> 8) &&& 0xff).toUInt8).toNat = v.toNat / 256 := by
  have h := v.toNat_lt
  have hand := Nat.and_two_pow_sub_one_eq_mod (v.toNat >>> 8) 8
  rw [UInt16.toNat_toUInt8, UInt16.toNat_and, UInt16.toNat_shiftRight]
  have h8 : (UInt16.toNat 8) % 16 = 8 := rfl
  have hff : UInt16.toNat 0xff = 2 ^ 8 - 1 := rfl
  rw [h8, hff, hand, Nat.shiftRight_eq_div_pow]
  omega

/-- The value of the byte that is written second. -/
theorem toNat_lowByte (v : UInt16) : ((v &&& 0xff).toUInt8).toNat = v.toNat % 256 := by
  have hand := Nat.and_two_pow_sub_one_eq_mod v.toNat 8
  rw [UInt16.toNat_toUInt8, UInt16.toNat_and]
  have hff : UInt16.toNat 0xff = 2 ^ 8 - 1 := rfl
  rw [hff, hand]
  omega

/-- Reading the two bytes that were written for a word gives the word. -/
theorem join_bytes (v : UInt16) :
    ((v >>> 8) &&& 0xff).toUInt8.toUInt16 <<< 8 ||| (v &&& 0xff).toUInt8.toUInt16 = v := by
  apply UInt16.toNat_inj.mp
  rw [toNat_join, toNat_highByte, toNat_lowByte]
  omega

/-- Writing the word that was read from two bytes gives the two bytes. -/
theorem writeUint16_join (hi lo : UInt8) : writeUint16 (hi.toUInt16 <<< 8 ||| lo.toUInt16) = [hi, lo] := by
  have h2 := lo.toNat_lt
  have hhi : ((hi.toUInt16 <<< 8 ||| lo.toUInt16) >>> 8 &&& 0xff).toUInt8 = hi := by
    apply UInt8.toNat_inj.mp
    rw [toNat_highByte, toNat_join]
    omega
  have hlo : ((hi.toUInt16 <<< 8 ||| lo.toUInt16) &&& 0xff).toUInt8 = lo := by
    apply UInt8.toNat_inj.mp
    rw [toNat_lowByte, toNat_join]
    omega
  rw [writeUint16, hhi, hlo]

/-- A word is determined by its bytes. -/
theorem writeUint16_inj {v v' : UInt16} (h : writeUint16 v = writeUint16 v') : v = v' := by
  obtain ⟨hhi, htail⟩ := List.cons.inj h
  obtain ⟨hlo, -⟩ := List.cons.inj htail
  rw [← join_bytes v, hhi, hlo, join_bytes]

@[simp] theorem length_writeUint16 (v : UInt16) : (writeUint16 v).length = 2 := rfl

@[simp] theorem length_writeUint8 (v : UInt8) : (writeUint8 v).length = 1 := rfl

@[simp] theorem length_writeFunctionCode (fc : FunctionCode) : (writeFunctionCode fc).length = 1 := rfl

/-- Values of 16 bits are twice as many bytes. -/
theorem length_flatMap_writeUint16 (l : List UInt16) : (l.flatMap writeUint16).length = l.length * 2 := by
  induction l with
  | nil => rfl
  | cons v l ih =>
    rw [List.flatMap_cons, List.length_append, ih, length_writeUint16, List.length_cons]
    omega

theorem flatMap_writeUint8 (l : List UInt8) : l.flatMap writeUint8 = l := List.flatMap_singleton' l

/-! ## The read functions stop at the first failure -/

/-- The reader of a byte returns the error of its `get`. -/
theorem readUint8_propagating : Propagating readUint8 := fun v => propagates_request v

/-- That of a 16-bit value returns the error of the first `get` that fails. -/
theorem readUint16_propagating : Propagating readUint16 := by
  intro v
  refine (readUint8_propagating 0).bind (fun ec b h => ⟨v, by simp only [h, if_true]; rfl⟩) (fun ec b h => ?_)
  simp only [h]
  refine (readUint8_propagating b).bind (fun ec' b' h' => ⟨b.toUInt16 <<< 8, ?_⟩) (fun ec' b' h' => ?_)
  · simp only [h', if_true]
    rfl
  · simp only [h']
    trivial

theorem readByte_propagating : Propagating readByte := by
  intro v
  refine (readUint8_propagating 0).bind (fun ec b h => ⟨v, by simp only [h, if_true]; rfl⟩) (fun ec b h => ?_)
  simp only [h]
  trivial

/-- The reader of a span stops at the first byte that it does not get. -/
theorem readSpan_propagating : Propagating readSpan := readByte_propagating.each.focus _ _

/-- The reader of a span of 16-bit values stops at the first that it does not get. -/
theorem readWords_propagating : Propagating readWords := readUint16_propagating.each

/-- The reader of an exception code returns the error of its byte. -/
theorem readModbusExceptionCode_propagating : Propagating readModbusExceptionCode := by
  intro v
  refine (readUint8_propagating 0).bind (fun ec b h => ⟨v, by simp only [h, if_true]; rfl⟩) (fun ec b h => ?_)
  simp only [h]
  trivial

theorem readFunctionCode_propagating (x : UInt8) : Propagating (readFunctionCode x) := by
  intro v
  refine (readUint8_propagating x).bind (fun ec b h => ⟨v, by simp only [h, if_true]; rfl⟩) (fun ec b h => ?_)
  simp only [h]
  trivial

/-! ## What the read functions read -/

variable {eof : ErrorCode}

/-- A byte is read back as it was written. -/
theorem decodes_uint8 (v b : UInt8) : Decodes eof readUint8 v (writeUint8 b) b := consumes_request v b

/-- A 16-bit value is read back as it was written. -/
theorem decodes_uint16 (v w : UInt16) : Decodes eof readUint16 v (writeUint16 w) w := by
  intro rest
  have h := join_bytes w
  simp only [readUint16, readUint8, run_bind, run_request, writeUint16, List.cons_append, List.nil_append,
    listSource_cons, ErrorLike.failed_ok, Bool.false_eq_true, if_false, run_pure, h]

theorem decodes_byte (v b : UInt8) : Decodes eof readByte v (writeUint8 b) b := fun _ => rfl

theorem decodes_functionCode (x : UInt8) (v fc : FunctionCode) :
    Decodes eof (readFunctionCode x) v (writeFunctionCode fc) fc := fun _ => rfl

/-- A span is filled by as many bytes as it covers. -/
theorem decodes_span (v : Span) (l : List UInt8) (h : l.length = v.size) : Decodes eof readSpan v l (v.store l) := by
  have hl : v.bytes.length = l.length := by rw [Span.length_bytes, h]
  have hd : Decodes eof readByte.each v.bytes (l.flatMap writeUint8) l := decodes_each decodes_byte v.bytes l hl
  rw [flatMap_writeUint8] at hd
  exact hd.focus

/-- A vector takes as many bytes as it has room for, each as it was written. -/
theorem decodes_bytes (v l : List UInt8) (h : v.length = l.length) :
    Decodes eof readByte.each v (l.flatMap writeUint8) l := decodes_each decodes_byte v l h

/-- So does a vector of 16-bit values. -/
theorem decodes_words (v l : List UInt16) (h : v.length = l.length) :
    Decodes eof readWords v (l.flatMap writeUint16) l := decodes_each decodes_uint16 v l h

/-! ## What a successful read function has read -/

section

variable (heof : failed eof = true)
include heof

/-- What is read as a byte without an error is that byte, and the error code is that of success. -/
theorem uint8_inv {v v' : UInt8} {used : List UInt8} {ec : ErrorCode}
    (h : Consumes eof (readUint8 v) used (ec, v')) (hok : failed ec = false) : used = writeUint8 v' ∧ ec = ok := by
  cases used with
  | nil =>
    have h' := h.run_eq
    simp only [readUint8, run_request, listSource_nil, Prod.mk.injEq] at h'
    rw [← h'.1.1, heof] at hok
    exact absurd hok (by decide)
  | cons b rest =>
    have h' := h.run_eq
    simp only [readUint8, run_request, listSource_cons, Prod.mk.injEq] at h'
    obtain ⟨⟨rfl, rfl⟩, rfl⟩ := h'
    exact ⟨rfl, rfl⟩

theorem byte_inv (v v' : UInt8) (used : List UInt8) (ec : ErrorCode)
    (h : Consumes eof (readByte v) used (ec, v')) (hok : failed ec = false) : used = writeUint8 v' := by
  cases used with
  | nil =>
    have h' := h.run_eq
    simp only [readByte, readUint8, run_bind, run_request, listSource_nil, heof, if_true, run_pure, Prod.mk.injEq] at h'
    rw [← h'.1.1, heof] at hok
    exact absurd hok (by decide)
  | cons b rest =>
    have h' := h.run_eq
    simp only [readByte, readUint8, run_bind, run_request, listSource_cons, ErrorLike.failed_ok, Bool.false_eq_true,
      if_false, run_pure, Prod.mk.injEq] at h'
    obtain ⟨⟨-, rfl⟩, rfl⟩ := h'
    rfl

/-- What is read as a 16-bit value without an error is what that value is written as. -/
theorem uint16_inv (v v' : UInt16) (used : List UInt8) (ec : ErrorCode)
    (h : Consumes eof (readUint16 v) used (ec, v')) (hok : failed ec = false) : used = writeUint16 v' := by
  have h' := h.run_eq
  rcases used with _ | ⟨hi, _ | ⟨lo, rest⟩⟩
  · simp only [readUint16, readUint8, run_bind, run_request, listSource_nil, heof, if_true, run_pure,
      Prod.mk.injEq] at h'
    rw [← h'.1.1, heof] at hok
    exact absurd hok (by decide)
  · simp only [readUint16, readUint8, run_bind, run_request, listSource_nil, listSource_cons, ErrorLike.failed_ok,
      Bool.false_eq_true, if_false, heof, if_true, run_pure, Prod.mk.injEq] at h'
    rw [← h'.1.1, heof] at hok
    exact absurd hok (by decide)
  · simp only [readUint16, readUint8, run_bind, run_request, listSource_cons, ErrorLike.failed_ok,
      Bool.false_eq_true, if_false, run_pure, Prod.mk.injEq] at h'
    obtain ⟨⟨-, rfl⟩, rfl⟩ := h'
    exact (writeUint16_join hi lo).symm

/-- What is read as a function code without an error is what that code is written as. -/
theorem functionCode_inv {x : UInt8} {v : FunctionCode} {r : ErrorCode × FunctionCode} {used : List UInt8}
    (h : Consumes eof (readFunctionCode x v) used r) (hok : failed r.1 = false) : used = writeFunctionCode r.2 := by
  have h' := h.run_eq
  cases used with
  | nil =>
    simp only [readFunctionCode, readUint8, run_bind, run_request, listSource_nil, heof, if_true, run_pure,
      Prod.mk.injEq] at h'
    rw [← h'.1, heof] at hok
    exact absurd hok (by decide)
  | cons b rest =>
    simp only [readFunctionCode, readUint8, run_bind, run_request, listSource_cons, ErrorLike.failed_ok,
      Bool.false_eq_true, if_false, run_pure, Prod.mk.injEq] at h'
    obtain ⟨rfl, rfl⟩ := h'
    rfl

/-- What is read into a vector of bytes without an error is these bytes, as many as the vector had room for. -/
theorem bytes_inv {v v' used : List UInt8} {ec : ErrorCode} (h : Consumes eof (readByte.each v) used (ec, v'))
    (hok : failed ec = false) : v.length = v'.length ∧ used = v'.flatMap writeUint8 :=
  readByte_propagating.each_inv heof (byte_inv heof) v v' used ec h hok

/-- What is read into a vector of 16-bit values without an error is what these are written as. -/
theorem words_inv {v v' : List UInt16} {used : List UInt8} {ec : ErrorCode} (h : Consumes eof (readWords v) used (ec, v'))
    (hok : failed ec = false) : v.length = v'.length ∧ used = v'.flatMap writeUint16 :=
  readUint16_propagating.each_inv heof (uint16_inv heof) v v' used ec h hok

end

end Mothbus
