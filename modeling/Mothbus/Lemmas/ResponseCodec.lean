import Mothbus.Lemmas.RequestCodec

/-!
# The response codec

A response is either data with a byte count or two words. Its reader fills the caller's object with what its writer put, as
far as the data fit the caller's span and the value passes the reader's test; what a reader has read is what the writer puts.
From these, the same of `pdu_resp`, which looks at the function code first.
-/

namespace Mothbus

open ErrorLike (ok failed)
open ReadProgram Decoder

variable {eof : ErrorCode}

namespace Span

/-- The span cut to some bytes and those bytes stored over it. -/
def filled (l : List UInt8) (v : Span) : Span := ⟨l ++ v.data.drop l.length, l.length, by simp⟩

@[simp] theorem size_filled (l : List UInt8) (v : Span) : (v.filled l).size = l.length := rfl

/-- What fills the span stands at its start, the old contents behind it. -/
@[simp] theorem data_filled (l : List UInt8) (v : Span) : (v.filled l).data = l ++ v.data.drop l.length := rfl

@[simp] theorem bytes_filled (l : List UInt8) (v : Span) : (v.filled l).bytes = l := List.take_left

/-- As many bytes as there is memory for are all that is left in it. -/
theorem data_filled_of_length {l : List UInt8} {v : Span} (h : l.length = v.data.length) : (v.filled l).data = l := by
  rw [data_filled, h, List.drop_length, List.append_nil]

/-- What is stored into the first part of a span fills that part. -/
theorem store_first {v : Span} {l : List UInt8} {n : Nat} (h : n ≤ v.size) (hl : l.length = n) :
    (v.first n h).store l = v.filled l := by
  subst hl
  rfl

end Span

/-! ## Data with a byte count -/

/-- The reader of counted data returns the error of the byte count, or that of the first byte that it does not get. -/
theorem readByteCounted_propagating : Propagating readByteCounted := by
  intro resp
  refine (readUint8_propagating resp.1).bind (fun ec n h => ⟨(n, resp.2), by simp only [h, if_true]; rfl⟩)
    (fun ec n h => ?_)
  simp only [h]
  by_cases hn : n.toNat ≤ resp.2.size
  · simp only [hn, dif_pos]
    refine (readSpan_propagating _).bind (fun ec' v h' => ⟨(n, v), by simp only [h', if_true]; rfl⟩) (fun ec' v h' => ?_)
    simp only [h']
    trivial
  · simp only [hn, dif_neg, not_false_eq_true]
    trivial

/-- As many bytes as the count says are read into the caller's span, if they fit. -/
theorem decodes_byteCounted (out : UInt8 × Span) {n : UInt8} {l : List UInt8} (hn : l.length = n.toNat)
    (hl : l.length ≤ out.2.size) :
    Decodes eof readByteCounted out (writeUint8 n ++ l) (n, out.2.filled l) := by
  refine Consumes.bind (decodes_uint8 out.1 n) ?_
  have hfit : n.toNat ≤ out.2.size := by omega
  simp only [ErrorLike.failed_ok, Bool.false_eq_true, if_false, hfit, dif_pos]
  have hspan : Decodes eof readSpan (out.2.first n.toNat hfit) l _ := decodes_span _ l hn
  rw [Span.store_first hfit hn] at hspan
  have h := Consumes.bind hspan (f := fun x => if failed x.1 then pure (x.1, (n, x.2)) else pure (ok, (n, x.2)))
    (consumes_pure (ok, (n, out.2.filled l)))
  rwa [List.append_nil] at h

/-! ## Two words, the second checked -/

/-- The test of the coil value does not hide an error before it. -/
theorem readCoilWordPair_propagating : Propagating readCoilWordPair :=
  (readUint16_propagating.focus _ _).checked <| (readUint16_propagating.focus _ _).checked <|
    (propagating_require _ _).checked propagating_succeed

/-- An address and a word that passes the test are read back as they were written. -/
theorem decodes_coilWordPair (p q : UInt16 × UInt16) (h : isCoilValue q.2 = true) :
    Decodes eof readCoilWordPair p (writeUint16 q.1 ++ writeUint16 q.2) q := by
  have h1 : Decodes eof (readUint16.focus Prod.fst (fun v (p : UInt16 × UInt16) => (v, p.2))) p (writeUint16 q.1)
      (q.1, p.2) := Decodes.focus (decodes_uint16 p.1 q.1)
  have h2 : Decodes eof (readUint16.focus Prod.snd (fun v (p : UInt16 × UInt16) => (p.1, v))) (q.1, p.2)
      (writeUint16 q.2) (q.1, q.2) := Decodes.focus (decodes_uint16 p.2 q.2)
  have h3 : Decodes (β := UInt8) eof (require (fun p : UInt16 × UInt16 => isCoilValue p.2)
      (makeErrorCode .illegalDataValue)) q [] q := decodes_require h
  have hd := h1.checked (h2.checked (h3.checked (decodes_succeed _)))
  rwa [List.append_nil, List.append_nil] at hd

/-! ## Inversion -/

section

variable (heof : failed eof = true)
include heof

/-- What is read into a span without an error is as long as the span, and is stored in it. -/
theorem span_inv {v v' : Span} {used : List UInt8} {ec : ErrorCode} (h : Consumes eof (readSpan v) used (ec, v'))
    (hok : failed ec = false) : used.length = v.size ∧ v' = v.store used := by
  obtain ⟨l, rfl, hl⟩ := readByte_propagating.each.focus_inv heof h hok
  obtain ⟨hlen, rfl⟩ := bytes_inv heof hl hok
  rw [flatMap_writeUint8]
  exact ⟨by rw [← hlen, Span.length_bytes], rfl⟩

/-- Data that were read are as many as the count says, fit the caller's span, and are all it covers then. -/
theorem byteCounted_inv {p q : UInt8 × Span} {used : List UInt8} {ec : ErrorCode}
    (h : Consumes eof (readByteCounted p) used (ec, q)) (hok : failed ec = false) :
    ∃ l, used = writeUint8 q.1 ++ l ∧ l.length = q.1.toNat ∧ l.length ≤ p.2.size ∧ q.2 = p.2.filled l := by
  have hd := first_not_failed (fun r hr => ⟨(r.2, p.2), by simp only [hr, if_true]⟩) h hok
  obtain ⟨u, v, r, rfl, hc, hv⟩ := (readUint8_propagating p.1).consumes_bind_inv heof h hd
  have hr : failed r.1 = false := by rwa [hc v] at hd
  obtain ⟨rfl, -⟩ := uint8_inv heof hc hr
  simp only [hr, Bool.false_eq_true, if_false] at hv
  by_cases hfit : r.2.toNat ≤ p.2.size
  · simp only [hfit, dif_pos] at hv
    have hd' := first_not_failed (fun r' hr' => ⟨(r.2, r'.2), by simp only [hr', if_true]⟩) hv hok
    obtain ⟨u', v', r', rfl, hc', hv'⟩ := (readSpan_propagating _).consumes_bind_inv heof hv hd'
    have hr' : failed r'.1 = false := by rwa [hc' v'] at hd'
    obtain ⟨hlen, hs⟩ := span_inv heof hc' hr'
    rw [Span.size_first] at hlen
    simp only [hr', Bool.false_eq_true, if_false] at hv'
    have he := hv'.run_eq
    simp only [run_pure, Prod.mk.injEq] at he
    obtain ⟨⟨-, rfl⟩, rfl⟩ := he
    exact ⟨u', by rw [List.append_nil], hlen, by omega, by rw [hs, Span.store_first hfit hlen]⟩
  · simp only [hfit, dif_neg, not_false_eq_true] at hv
    have he := hv.run_eq
    simp only [run_pure, Prod.mk.injEq] at he
    rw [← he.1.1] at hok
    exact absurd hok (by decide)

/-- What is read without an error is what the two words are written as, and the second passes the test. -/
theorem coilWordPair_inv {p q : UInt16 × UInt16} {used : List UInt8} {ec : ErrorCode}
    (h : Consumes eof (readCoilWordPair p) used (ec, q)) (hok : failed ec = false) :
    used = writeUint16 q.1 ++ writeUint16 q.2 ∧ isCoilValue q.2 = true := by
  obtain ⟨u1, v1, e1, w1, rfl, h1, hw1, hr1⟩ := readUint16_propagating.field_inv heof h hok
  obtain ⟨u2, v2, e2, w2, rfl, h2, hw2, hr2⟩ := readUint16_propagating.field_inv heof hr1 hok
  obtain ⟨u3, v3, e3, p3, rfl, h3, hc3, hr3⟩ := (propagating_require _ _).checked_inv heof hr2 hok
  obtain ⟨rfl, -, rfl, hcoil⟩ := require_inv (by decide) hc3 h3
  obtain ⟨rfl, -, rfl⟩ := succeed_inv hr3
  refine ⟨?_, hcoil⟩
  rw [uint16_inv heof _ _ _ _ hw1 h1, uint16_inv heof _ _ _ _ hw2 h2]
  simp only [List.append_nil]

end

/-! ## The nine response types -/

/-- What a response carries: data with a byte count, or two words. -/
inductive Contents where
  | data (byteCount : UInt8) (values : Span)
  | words (address value : UInt16)
  deriving DecidableEq, Repr

namespace Contents

/-- The bytes of the contents on the wire. -/
def bytes : Contents → List UInt8
  | data byteCount values => writeUint8 byteCount ++ writeSpan values
  | words address value => writeUint16 address ++ writeUint16 value

/-- The same byte count and the same data, or the same words. -/
def Same : Contents → Contents → Prop
  | data n v, data n' v' => n = n' ∧ v.bytes = v'.bytes
  | words a v, words a' v' => a = a' ∧ v = v'
  | _, _ => False

/-- The data, if any, are at most as many as the span of the receiving object covers. -/
def Fits : Contents → Contents → Prop
  | data _ v, data _ out => v.size ≤ out.size
  | _, _ => True

/-- The contents of the receiving object after the data are stored over its span. -/
def into : Contents → Contents → Contents
  | data n v, data _ out => data n (out.filled v.bytes)
  | c, _ => c

end Contents

namespace ResponseKind

def contents : (k : ResponseKind) → k.Pdu → Contents
  | .readCoils, (v : ReadCoilsPduResp) => .data v.byteCount v.values
  | .readDiscreteInputs, (v : ReadDiscreteInputsPduResp) => .data v.byteCount v.values
  | .readHolding, (v : ReadHoldingPduResp) => .data v.byteCount v.values
  | .readInput, (v : ReadInputPduResp) => .data v.byteCount v.values
  | .writeSingleCoil, (v : WriteSingleCoilPduResp) => .words v.address v.value
  | .writeSingleRegister, (v : WriteSingleRegisterPduResp) => .words v.address v.value
  | .writeMultipleCoils, (v : WriteMultipleCoilsPduResp) => .words v.startingAddress v.quantityOfCoils
  | .writeMultipleRegisters, (v : WriteMultipleRegistersPduResp) => .words v.startingAddress v.quantityOfRegisters
  | .readWriteMultipleRegisters, (v : ReadWriteMultipleRegistersPduResp) => .data v.byteCount v.values

/-- The readers that test the value they read for being a value of a coil. -/
def checksCoilValue : ResponseKind → Bool
  | .writeSingleCoil | .writeSingleRegister => true
  | _ => false

/-- What the reader of a response type accepts: a byte count that is the number of the data, a value that passes the test. -/
def Readable (k : ResponseKind) (v : k.Pdu) : Prop :=
  match k.contents v with
  | .data byteCount values => byteCount.toNat = values.size
  | .words _ value => k.checksCoilValue = true → isCoilValue value = true

/-- No response type has bit 0x80 in its function code. -/
theorem fc_value (k : ResponseKind) : (PduRead.fc k.Pdu).value &&& 0x80 = 0 := by
  cases k <;> decide

/-- The writer of a response asserts nothing. -/
theorem asserts_eq (k : ResponseKind) (v : k.Pdu) : PduWrite.asserts v = true := by
  cases k <;> rfl

/-- Contents stored into an object of the same type are the same contents. -/
theorem into_same (k : ResponseKind) (v out : k.Pdu) : ((k.contents v).into (k.contents out)).Same (k.contents v) := by
  cases k
  case readCoils | readDiscreteInputs | readHolding | readInput | readWriteMultipleRegisters =>
    exact ⟨rfl, Span.bytes_filled _ _⟩
  all_goals exact ⟨rfl, rfl⟩

/-- The responses of a type with data all have data. -/
theorem exists_data {k : ResponseKind} {out : k.Pdu} {n : UInt8} {v : Span} (h : k.contents out = .data n v) (r : k.Pdu) :
    ∃ n' v', k.contents r = .data n' v' := by
  cases k
  case readCoils | readDiscreteInputs | readHolding | readInput | readWriteMultipleRegisters => exact ⟨_, _, rfl⟩
  all_goals cases h

/-- A type with data has a response with any data. -/
theorem exists_contents {k : ResponseKind} {out : k.Pdu} {n : UInt8} {v : Span} (h : k.contents out = .data n v) (n' : UInt8)
    (v' : Span) : ∃ r : k.Pdu, k.contents r = .data n' v' := by
  cases k
  case readCoils | readDiscreteInputs | readHolding | readInput | readWriteMultipleRegisters => exact ⟨⟨n', v'⟩, rfl⟩
  all_goals cases h

/-- A response is written as its function code and its contents. -/
theorem write_eq (k : ResponseKind) (v : k.Pdu) :
    PduWrite.write v = writeFunctionCode (PduRead.fc k.Pdu) ++ (k.contents v).bytes := by
  cases k <;> exact List.append_assoc _ _ _

/-- A response with data is its function code, the byte count, and what its span covers. -/
theorem write_of_data {k : ResponseKind} {v : k.Pdu} {n : UInt8} {values : Span} (h : k.contents v = .data n values) :
    PduWrite.write v = (PduRead.fc k.Pdu).value :: n :: values.bytes := by
  rw [k.write_eq, h, Contents.bytes, writeSpan, flatMap_writeUint8]
  rfl

/-- A response with data has two bytes more than those. -/
theorem length_write_of_data {k : ResponseKind} {v : k.Pdu} {n : UInt8} {values : Span} (h : k.contents v = .data n values) :
    (PduWrite.write v).length = values.size + 2 := by
  rw [write_of_data h, List.length_cons, List.length_cons, Span.length_bytes]

/-- A response without data is its function code and two words. -/
theorem write_of_words {k : ResponseKind} {v : k.Pdu} {address value : UInt16} (h : k.contents v = .words address value) :
    PduWrite.write v = (PduRead.fc k.Pdu).value :: (writeUint16 address ++ writeUint16 value) := by
  rw [k.write_eq, h]
  rfl

/-- The reader of every kind of response stops at the first field that it does not get. -/
theorem read_propagating (k : ResponseKind) : Propagating (PduRead.read : Read k.Pdu) := by
  cases k
  case readCoils | readDiscreteInputs | readHolding | readInput | readWriteMultipleRegisters =>
    exact readByteCounted_propagating.through _
  case writeSingleCoil | writeSingleRegister => exact readCoilWordPair_propagating.through _
  case writeMultipleCoils | writeMultipleRegisters => exact readWordPair_propagating.through _

/-- A reader fills the caller's object with what the writer of the type put. -/
theorem decodes (eof : ErrorCode) (k : ResponseKind) (out v : k.Pdu) (hv : k.Readable v) (hfit : (k.contents v).Fits (k.contents out)) :
    ∃ r, k.contents r = (k.contents v).into (k.contents out) ∧ Decodes eof PduRead.read out (k.contents v).bytes r := by
  cases k
  case readCoils | readDiscreteInputs | readHolding | readInput | readWriteMultipleRegisters =>
    have hlen : (writeSpan v.values).length = v.values.size := by rw [writeSpan, flatMap_writeUint8, Span.length_bytes]
    have hd : Decodes eof readByteCounted (out.byteCount, out.values) (writeUint8 v.byteCount ++ writeSpan v.values)
        (v.byteCount, out.values.filled (writeSpan v.values)) :=
      decodes_byteCounted _ (hlen.trans hv.symm) (Nat.le_trans (Nat.le_of_eq hlen) hfit)
    refine ⟨⟨v.byteCount, out.values.filled (writeSpan v.values)⟩, ?_, hd.through⟩
    rw [writeSpan, flatMap_writeUint8]
    rfl
  case writeSingleCoil | writeSingleRegister =>
    exact ⟨v, rfl, (decodes_coilWordPair (out.address, out.value) (v.address, v.value) (hv rfl)).through⟩
  case writeMultipleCoils | writeMultipleRegisters => exact ⟨v, rfl, (decodes_wordPair _ _).through⟩

/-- What a reader has read is what the writer puts, and it is the caller's object filled with it. -/
theorem inv (heof : failed eof = true) (k : ResponseKind) {out r : k.Pdu} {used : List UInt8} {ec : ErrorCode}
    (h : Consumes eof (PduRead.read out) used (ec, r)) (hok : failed ec = false) :
    k.Readable r ∧ (k.contents r).Fits (k.contents out) ∧ used = (k.contents r).bytes ∧
      k.contents r = (k.contents r).into (k.contents out) := by
  cases k
  case readCoils | readDiscreteInputs | readHolding | readInput | readWriteMultipleRegisters =>
    obtain ⟨l, rfl, hn, hl, hr⟩ := byteCounted_inv heof (readByteCounted_propagating.through_inv heof h hok) hok
    have hr' : r.values = out.values.filled l := hr
    have hsize : r.values.size = l.length := by rw [hr', Span.size_filled]
    have hbytes : r.values.bytes = l := by rw [hr', Span.bytes_filled]
    refine ⟨hn.symm.trans hsize.symm, Nat.le_trans (Nat.le_of_eq hsize) hl, ?_, ?_⟩
    · show _ = writeUint8 r.byteCount ++ writeSpan r.values
      rw [writeSpan, flatMap_writeUint8, hbytes]
      rfl
    · show Contents.data _ _ = Contents.data _ _
      rw [hbytes, hr']
  case writeSingleCoil | writeSingleRegister =>
    obtain ⟨rfl, hcoil⟩ := coilWordPair_inv heof (readCoilWordPair_propagating.through_inv heof h hok) hok
    exact ⟨fun _ => hcoil, trivial, rfl, rfl⟩
  case writeMultipleCoils | writeMultipleRegisters =>
    obtain rfl := wordPair_inv heof (readWordPair_propagating.through_inv heof h hok) hok
    refine ⟨fun hc => absurd hc (by decide), trivial, rfl, rfl⟩

end ResponseKind

/-! ## The function code in front -/

section

variable {α : Type} [PduRead α]

/-- Of no bytes at all, the error is that of the end of the input. -/
theorem readPduResp_nil (heof : failed eof = true) (x : UInt8) (out : α) :
    (readPduResp x out).run (listSource eof) [] = ((eof, out), []) := by
  simp only [readPduResp, readUint8, run_bind, run_request, listSource_nil, heof, if_true, run_pure]

/-- An exception becomes an error code as it is. -/
theorem consumes_exception (eof : ErrorCode) (x : UInt8) (out : α) {fC : UInt8} (h : fC &&& 0x80 ≠ 0) (code : UInt8) :
    Consumes eof (readPduResp x out) [fC, code] (makeErrorCode ⟨(code.toNat : Int)⟩, out) := by
  intro rest
  simp only [readPduResp, readUint8, readModbusExceptionCode, run_bind, run_request, List.cons_append, List.nil_append,
    listSource_cons, ErrorLike.failed_ok, Bool.false_eq_true, if_false, h, ne_eq, not_false_eq_true, if_true, run_pure]

/-- Of an exception without its code, the error is that of the end of the input. -/
theorem readPduResp_exception_nil (heof : failed eof = true) (x : UInt8) (out : α) {fC : UInt8} (h : fC &&& 0x80 ≠ 0) :
    (readPduResp x out).run (listSource eof) [fC] = ((eof, out), []) := by
  simp only [readPduResp, readUint8, readModbusExceptionCode, run_bind, run_request, listSource_cons, listSource_nil,
    ErrorLike.failed_ok, Bool.false_eq_true, if_false, h, ne_eq, not_false_eq_true, if_true, heof, run_pure]

/-- A normal response of another function is refused. -/
theorem readPduResp_other (x : UInt8) (out : α) {fC : UInt8} (h : fC &&& 0x80 = 0) (hfc : (⟨fC⟩ : FunctionCode) ≠ PduRead.fc α)
    (rest : List UInt8) :
    (readPduResp x out).run (listSource eof) (fC :: rest) = ((makeErrorCode .invalidResponse, out), rest) := by
  simp only [readPduResp, readUint8, run_bind, run_request, listSource_cons, ErrorLike.failed_ok, Bool.false_eq_true,
    if_false, h, ne_eq, not_true_eq_false, hfc, not_false_eq_true, if_true, run_pure]

/-- What is decoded does not depend on what the uninitialised local held. -/
theorem readPduResp_congr (heof : failed eof = true) (x x' : UInt8) (out : α) (l : List UInt8) :
    (readPduResp x out).run (listSource eof) l = (readPduResp x' out).run (listSource eof) l := by
  rcases l with _ | ⟨fC, l⟩
  · rw [readPduResp_nil heof, readPduResp_nil heof]
  by_cases hbit : fC &&& 0x80 = 0
  · simp only [readPduResp, readUint8, run_bind, run_request, listSource_cons, ErrorLike.failed_ok, Bool.false_eq_true,
      if_false, hbit, ne_eq, not_true_eq_false]
    rfl
  · rcases l with _ | ⟨code, l⟩
    · rw [readPduResp_exception_nil heof x out hbit, readPduResp_exception_nil heof x' out hbit]
    · exact (consumes_exception eof x out hbit code l).trans (consumes_exception eof x' out hbit code l).symm

/-- After the expected function code comes what the reader of the type reads. -/
theorem readPduResp_own (x : UInt8) (out : α) (h : (PduRead.fc α).value &&& 0x80 = 0) (rest : List UInt8) :
    (readPduResp x out).run (listSource eof) (writeFunctionCode (PduRead.fc α) ++ rest) =
      (PduRead.read out).run (listSource eof) rest := by
  simp only [readPduResp, readUint8, writeFunctionCode, writeUint8, run_bind, run_request, List.cons_append,
    List.nil_append, listSource_cons, ErrorLike.failed_ok, Bool.false_eq_true, if_false, h, ne_eq, not_true_eq_false]

end

/-- The reader of a response PDU stops at the first field that it does not get. -/
theorem readPduResp_propagating (k : ResponseKind) (x : UInt8) : Propagating (readPduResp x : Read k.Pdu) := by
  intro out
  refine (readUint8_propagating x).bind (fun ec b h => ⟨out, by simp only [h, if_true]; rfl⟩) (fun ec b h => ?_)
  simp only [h, Bool.false_eq_true, if_false]
  by_cases hbit : b &&& 0x80 = 0
  · simp only [hbit, ne_eq, not_true_eq_false, if_false]
    by_cases hfc : (⟨b⟩ : FunctionCode) = PduRead.fc k.Pdu
    · simp only [hfc, not_true_eq_false, if_false]
      exact k.read_propagating out
    · simp only [hfc, not_false_eq_true, if_true]
      trivial
  · simp only [hbit, ne_eq, not_false_eq_true, if_true]
    refine (readModbusExceptionCode_propagating _).bind (fun ec' c h' => ⟨out, by simp only [h', if_true]; rfl⟩)
      (fun ec' c h' => ?_)
    simp only [h']
    trivial

/-- A response that was written is read into an object of its type. -/
theorem decodes_response (eof : ErrorCode) (x : UInt8) {k : ResponseKind} {out v : k.Pdu} (hv : k.Readable v)
    (hfit : (k.contents v).Fits (k.contents out)) :
    ∃ r, k.contents r = (k.contents v).into (k.contents out) ∧ Decodes eof (readPduResp x) out (PduWrite.write v) r := by
  obtain ⟨r, hr, hd⟩ := k.decodes eof out v hv hfit
  refine ⟨r, hr, fun rest => ?_⟩
  rw [k.write_eq, List.append_assoc, readPduResp_own x out k.fc_value]
  exact hd rest

/-- What was read without a failure is a response of the type, as its writer puts it, which is then in the caller's object, or an
exception whose code is zero. -/
theorem response_inv (heof : failed eof = true) {x : UInt8} {k : ResponseKind} {out : k.Pdu} {l : List UInt8}
    (hok : failed ((readPduResp x out).run (listSource eof) l).1.1 = false) :
    (∃ fC rest, fC &&& 0x80 ≠ 0 ∧ l = fC :: 0 :: rest) ∨
      ∃ r rest, k.Readable r ∧ (k.contents r).Fits (k.contents out) ∧ k.contents r = (k.contents r).into (k.contents out) ∧
        l = PduWrite.write r ++ rest ∧ ((readPduResp x out).run (listSource eof) l).1.2 = r := by
  rcases l with _ | ⟨fC, l⟩
  · rw [readPduResp_nil heof] at hok
    exact absurd (hok.symm.trans heof) (by decide)
  by_cases hbit : fC &&& 0x80 = 0
  · by_cases hfc : (⟨fC⟩ : FunctionCode) = PduRead.fc k.Pdu
    · right
      have hl : fC :: l = writeFunctionCode (PduRead.fc k.Pdu) ++ l := by rw [← hfc]; rfl
      rw [hl, readPduResp_own x out k.fc_value] at hok ⊢
      obtain ⟨used, hused, hc⟩ := (k.read_propagating out).exists_consumes heof hok
      obtain ⟨hr, hfit, hu, hinto⟩ := k.inv heof hc hok
      refine ⟨_, ((PduRead.read out).run (listSource eof) l).2, hr, hfit, hinto, ?_, rfl⟩
      rw [k.write_eq, List.append_assoc, ← hu, ← hused]
    · rw [readPduResp_other x out hbit hfc] at hok
      have hbad : failed (makeErrorCode .invalidResponse) = true := rfl
      exact absurd (hok.symm.trans hbad) (by decide)
  · left
    rcases l with _ | ⟨code, l⟩
    · rw [readPduResp_exception_nil heof x out hbit] at hok
      exact absurd (hok.symm.trans heof) (by decide)
    · have hrun := consumes_exception eof x out hbit code l
      rw [List.cons_append, List.cons_append, List.nil_append] at hrun
      rw [hrun, failed_eq_false_iff] at hok
      have hcode : code = 0 := UInt8.toNat_inj.mp (Int.ofNat_eq_zero.mp hok)
      exact ⟨fC, l, hbit, by rw [hcode]⟩

end Mothbus
