import Mothbus.Lemmas.Fields

/-!
# The request codec

Per request type: its reader reads exactly what its writer puts after the function code, and what its reader has read is what
its writer puts. From these, the same of the dispatch over the variant.
-/

namespace Mothbus

open ErrorLike (ok failed)
open ReadProgram Decoder

variable {eof : ErrorCode}

/-! ## Two words -/

/-- The reader of an address and a word stops at the first field that it does not get. -/
theorem readWordPair_propagating : Propagating readWordPair :=
  (readUint16_propagating.focus _ _).checked ((readUint16_propagating.focus _ _).checked propagating_succeed)

/-- An address and a word are read back as they were written. -/
theorem decodes_wordPair (p q : UInt16 × UInt16) :
    Decodes eof readWordPair p (writeUint16 q.1 ++ writeUint16 q.2) q := by
  have h1 : Decodes eof (readUint16.focus Prod.fst (fun v (p : UInt16 × UInt16) => (v, p.2))) p (writeUint16 q.1)
      (q.1, p.2) := Decodes.focus (decodes_uint16 p.1 q.1)
  have h2 : Decodes eof (readUint16.focus Prod.snd (fun v (p : UInt16 × UInt16) => (p.1, v))) (q.1, p.2)
      (writeUint16 q.2) (q.1, q.2) := Decodes.focus (decodes_uint16 p.2 q.2)
  have h := h1.checked (h2.checked (decodes_succeed _))
  rwa [List.append_nil] at h

/-- What is read as an address and a word without an error is what they are written as. -/
theorem wordPair_inv (heof : failed eof = true) {p q : UInt16 × UInt16} {used : List UInt8} {ec : ErrorCode}
    (h : Consumes eof (readWordPair p) used (ec, q)) (hok : failed ec = false) :
    used = writeUint16 q.1 ++ writeUint16 q.2 := by
  obtain ⟨u1, v1, e1, w1, rfl, h1, hw1, hr1⟩ := readUint16_propagating.field_inv heof h hok
  obtain ⟨u2, v2, e2, w2, rfl, h2, hw2, hr2⟩ := readUint16_propagating.field_inv heof hr1 hok
  obtain ⟨rfl, -, rfl⟩ := succeed_inv hr2
  rw [uint16_inv heof _ _ _ _ hw1 h1, uint16_inv heof _ _ _ _ hw2 h2, List.append_nil]

/-! ## The three requests that carry values -/

/-- The reader of a request to write coils stops at the first field that it does not get. -/
theorem WriteMultipleCoilsPduReq.read_propagating : Propagating WriteMultipleCoilsPduReq.read :=
  (readUint16_propagating.focus _ _).checked <| (readUint16_propagating.focus _ _).checked <|
    (readUint8_propagating.focus _ _).checked <| (propagating_alter _).checked <|
    (readByte_propagating.each.focus _ _).checked propagating_succeed

/-- So does that of a request to write registers. -/
theorem WriteMultipleRegistersPduReq.read_propagating : Propagating WriteMultipleRegistersPduReq.read :=
  (readUint16_propagating.focus _ _).checked <| (readUint16_propagating.focus _ _).checked <|
    (readUint8_propagating.focus _ _).checked <| (propagating_alter _).checked <|
    (readWords_propagating.focus _ _).checked propagating_succeed

/-- So does that of a request to read and write registers. -/
theorem ReadWriteMultipleRegistersPduReq.read_propagating : Propagating ReadWriteMultipleRegistersPduReq.read :=
  (readUint16_propagating.focus _ _).checked <| (readUint16_propagating.focus _ _).checked <|
    (readUint16_propagating.focus _ _).checked <| (readUint16_propagating.focus _ _).checked <|
    (readUint8_propagating.focus _ _).checked <| (propagating_alter _).checked <|
    (readWords_propagating.focus _ _).checked propagating_succeed

/-- The request is read back from its fields if its byte count is the number of its values. -/
theorem WriteMultipleCoilsPduReq.decodes (req r : WriteMultipleCoilsPduReq) (h : r.byteCount.toNat = r.values.length) :
    Decodes eof WriteMultipleCoilsPduReq.read req (writeUint16 r.startingAddress ++ (writeUint16 r.quantityOfCoils ++
      (writeUint8 r.byteCount ++ ([] ++ (r.values.flatMap writeUint8 ++ []))))) r :=
  (Decodes.focus (decodes_uint16 _ _)).checked <| (Decodes.focus (decodes_uint16 _ _)).checked <|
    (Decodes.focus (decodes_uint8 _ _)).checked <| (decodes_alter _ _).checked <|
    (Decodes.focus (decodes_bytes _ _ (by rw [length_resize, h]))).checked (decodes_succeed _)

/-- The request is read back from its fields if half its byte count is the number of its registers. -/
theorem WriteMultipleRegistersPduReq.decodes (req r : WriteMultipleRegistersPduReq)
    (h : r.byteCount.toNat / 2 = r.values.length) :
    Decodes eof WriteMultipleRegistersPduReq.read req (writeUint16 r.startingAddress ++
      (writeUint16 r.quantityOfRegisters ++ (writeUint8 r.byteCount ++ ([] ++ (r.values.flatMap writeUint16 ++ []))))) r :=
  (Decodes.focus (decodes_uint16 _ _)).checked <| (Decodes.focus (decodes_uint16 _ _)).checked <|
    (Decodes.focus (decodes_uint8 _ _)).checked <| (decodes_alter _ _).checked <|
    (Decodes.focus (decodes_words _ _ (by rw [length_resize, h]))).checked (decodes_succeed _)

/-- So is this one, whose byte count is that of the registers to write. -/
theorem ReadWriteMultipleRegistersPduReq.decodes (req r : ReadWriteMultipleRegistersPduReq)
    (h : r.writeByteCount.toNat / 2 = r.values.length) :
    Decodes eof ReadWriteMultipleRegistersPduReq.read req (writeUint16 r.readStartingAddress ++
      (writeUint16 r.readQuantityOfRegisters ++ (writeUint16 r.writeStartingAddress ++
      (writeUint16 r.writeQuantityOfRegisters ++ (writeUint8 r.writeByteCount ++
      ([] ++ (r.values.flatMap writeUint16 ++ []))))))) r :=
  (Decodes.focus (decodes_uint16 _ _)).checked <| (Decodes.focus (decodes_uint16 _ _)).checked <|
    (Decodes.focus (decodes_uint16 _ _)).checked <| (Decodes.focus (decodes_uint16 _ _)).checked <|
    (Decodes.focus (decodes_uint8 _ _)).checked <| (decodes_alter _ _).checked <|
    (Decodes.focus (decodes_words _ _ (by rw [length_resize, h]))).checked (decodes_succeed _)

section

variable (heof : failed eof = true)
include heof

/-- What is read as the request is what it is written as behind the function code, and its byte count is the number of its values. -/
theorem WriteMultipleCoilsPduReq.inv {req r : WriteMultipleCoilsPduReq} {used : List UInt8} {ec : ErrorCode}
    (h : Consumes eof (WriteMultipleCoilsPduReq.read req) used (ec, r)) (hok : failed ec = false) :
    PduWrite.write r = writeFunctionCode .writeMultipleCoils ++ used ∧ r.byteCount.toNat = r.values.length := by
  obtain ⟨u1, v1, e1, w1, rfl, h1, hw1, hr1⟩ := readUint16_propagating.field_inv heof h hok
  obtain ⟨u2, v2, e2, w2, rfl, h2, hw2, hr2⟩ := readUint16_propagating.field_inv heof hr1 hok
  obtain ⟨u3, v3, e3, w3, rfl, h3, hw3, hr3⟩ := readUint8_propagating.field_inv heof hr2 hok
  obtain ⟨u4, v4, e4, p4, rfl, h4, hc4, hr4⟩ := (propagating_alter _).checked_inv heof hr3 hok
  obtain ⟨rfl, -, rfl⟩ := alter_inv hc4
  obtain ⟨u5, v5, e5, w5, rfl, h5, hw5, hr5⟩ := readByte_propagating.each.field_inv heof hr4 hok
  obtain ⟨rfl, -, rfl⟩ := succeed_inv hr5
  obtain ⟨hlen, rfl⟩ := bytes_inv heof hw5 h5
  rw [length_resize] at hlen
  refine ⟨?_, hlen⟩
  rw [uint16_inv heof _ _ _ _ hw1 h1, uint16_inv heof _ _ _ _ hw2 h2, (uint8_inv heof hw3 h3).1]
  simp only [PduWrite.write, List.append_assoc, List.append_nil, List.nil_append]

/-- What is read as the request is what it is written as, and half its byte count is the number of its registers. -/
theorem WriteMultipleRegistersPduReq.inv {req r : WriteMultipleRegistersPduReq} {used : List UInt8} {ec : ErrorCode}
    (h : Consumes eof (WriteMultipleRegistersPduReq.read req) used (ec, r)) (hok : failed ec = false) :
    PduWrite.write r = writeFunctionCode .writeMultipleRegisters ++ used ∧ r.byteCount.toNat / 2 = r.values.length := by
  obtain ⟨u1, v1, e1, w1, rfl, h1, hw1, hr1⟩ := readUint16_propagating.field_inv heof h hok
  obtain ⟨u2, v2, e2, w2, rfl, h2, hw2, hr2⟩ := readUint16_propagating.field_inv heof hr1 hok
  obtain ⟨u3, v3, e3, w3, rfl, h3, hw3, hr3⟩ := readUint8_propagating.field_inv heof hr2 hok
  obtain ⟨u4, v4, e4, p4, rfl, h4, hc4, hr4⟩ := (propagating_alter _).checked_inv heof hr3 hok
  obtain ⟨rfl, -, rfl⟩ := alter_inv hc4
  obtain ⟨u5, v5, e5, w5, rfl, h5, hw5, hr5⟩ := readWords_propagating.field_inv heof hr4 hok
  obtain ⟨rfl, -, rfl⟩ := succeed_inv hr5
  obtain ⟨hlen, rfl⟩ := words_inv heof hw5 h5
  rw [length_resize] at hlen
  refine ⟨?_, hlen⟩
  rw [uint16_inv heof _ _ _ _ hw1 h1, uint16_inv heof _ _ _ _ hw2 h2, (uint8_inv heof hw3 h3).1]
  simp only [PduWrite.write, List.append_assoc, List.append_nil, List.nil_append]

/-- So it is here, with the byte count of the registers to write. -/
theorem ReadWriteMultipleRegistersPduReq.inv {req r : ReadWriteMultipleRegistersPduReq} {used : List UInt8}
    {ec : ErrorCode} (h : Consumes eof (ReadWriteMultipleRegistersPduReq.read req) used (ec, r))
    (hok : failed ec = false) :
    PduWrite.write r = writeFunctionCode .readWriteMultipleRegisters ++ used ∧
      r.writeByteCount.toNat / 2 = r.values.length := by
  obtain ⟨u1, v1, e1, w1, rfl, h1, hw1, hr1⟩ := readUint16_propagating.field_inv heof h hok
  obtain ⟨u2, v2, e2, w2, rfl, h2, hw2, hr2⟩ := readUint16_propagating.field_inv heof hr1 hok
  obtain ⟨u3, v3, e3, w3, rfl, h3, hw3, hr3⟩ := readUint16_propagating.field_inv heof hr2 hok
  obtain ⟨u4, v4, e4, w4, rfl, h4, hw4, hr4⟩ := readUint16_propagating.field_inv heof hr3 hok
  obtain ⟨u5, v5, e5, w5, rfl, h5, hw5, hr5⟩ := readUint8_propagating.field_inv heof hr4 hok
  obtain ⟨u6, v6, e6, p6, rfl, h6, hc6, hr6⟩ := (propagating_alter _).checked_inv heof hr5 hok
  obtain ⟨rfl, -, rfl⟩ := alter_inv hc6
  obtain ⟨u7, v7, e7, w7, rfl, h7, hw7, hr7⟩ := readWords_propagating.field_inv heof hr6 hok
  obtain ⟨rfl, -, rfl⟩ := succeed_inv hr7
  obtain ⟨hlen, rfl⟩ := words_inv heof hw7 h7
  rw [length_resize] at hlen
  refine ⟨?_, hlen⟩
  rw [uint16_inv heof _ _ _ _ hw1 h1, uint16_inv heof _ _ _ _ hw2 h2, uint16_inv heof _ _ _ _ hw3 h3,
    uint16_inv heof _ _ _ _ hw4 h4, (uint8_inv heof hw5 h5).1]
  simp only [PduWrite.write, List.append_assoc, List.append_nil, List.nil_append]

end

/-! ## The nine request types -/

/-- The byte count of a request, where it has one, is the number of the value bytes it carries. -/
def RequestKind.Consistent : (k : RequestKind) → k.Pdu → Prop
  | .writeMultipleCoils, (r : WriteMultipleCoilsPduReq) => r.byteCount.toNat = r.values.length
  | .writeMultipleRegisters, (r : WriteMultipleRegistersPduReq) => r.byteCount.toNat = 2 * r.values.length
  | .readWriteMultipleRegisters, (r : ReadWriteMultipleRegistersPduReq) => r.writeByteCount.toNat = 2 * r.values.length
  | _, _ => True

/-- A request has as many values as its reader makes room for: its byte count says how many, an odd one half of what is below
it. -/
def RequestKind.Counted : (k : RequestKind) → k.Pdu → Prop
  | .writeMultipleCoils, (r : WriteMultipleCoilsPduReq) => r.byteCount.toNat = r.values.length
  | .writeMultipleRegisters, (r : WriteMultipleRegistersPduReq) => r.byteCount.toNat / 2 = r.values.length
  | .readWriteMultipleRegisters, (r : ReadWriteMultipleRegistersPduReq) => r.writeByteCount.toNat / 2 = r.values.length
  | _, _ => True

/-- By a byte count that is right the reader makes room for just the values. -/
theorem RequestKind.Consistent.counted {k : RequestKind} {r : k.Pdu} (h : k.Consistent r) : k.Counted r := by
  cases k
  case writeMultipleCoils => exact h
  case writeMultipleRegisters | readWriteMultipleRegisters =>
    simp only [RequestKind.Consistent] at h
    simp only [RequestKind.Counted]
    omega
  all_goals trivial

theorem RequestKind.mem_all (k : RequestKind) : k ∈ RequestKind.all := by
  cases k <;> decide

/-- No two request types have the same function code. -/
theorem RequestKind.fc_injective (k k' : RequestKind) (h : PduRead.fc k.Pdu = PduRead.fc k'.Pdu) : k = k' := by
  revert h
  cases k <;> cases k' <;> decide

/-- The reader of every kind stops at the first field that it does not get. -/
theorem RequestKind.read_propagating (k : RequestKind) : Propagating (PduRead.read : Read k.Pdu) := by
  cases k
  case writeMultipleCoils => exact WriteMultipleCoilsPduReq.read_propagating
  case writeMultipleRegisters => exact WriteMultipleRegistersPduReq.read_propagating
  case readWriteMultipleRegisters => exact ReadWriteMultipleRegistersPduReq.read_propagating
  all_goals exact readWordPair_propagating.through _

/-- What a writer puts is the function code of the type and then what its reader reads back. -/
theorem RequestKind.decodes (eof : ErrorCode) (k : RequestKind) (req r : k.Pdu) (h : k.Counted r) :
    ∃ body, PduWrite.write r = writeFunctionCode (PduRead.fc k.Pdu) ++ body ∧ Decodes eof PduRead.read req body r := by
  cases k
  case writeMultipleCoils =>
    exact ⟨_, by simp [PduWrite.write, PduRead.fc], WriteMultipleCoilsPduReq.decodes req r h⟩
  case writeMultipleRegisters =>
    exact ⟨_, by simp [PduWrite.write, PduRead.fc], WriteMultipleRegistersPduReq.decodes req r h⟩
  case readWriteMultipleRegisters =>
    exact ⟨_, by simp [PduWrite.write, PduRead.fc], ReadWriteMultipleRegistersPduReq.decodes req r h⟩
  all_goals exact ⟨_, List.append_assoc _ _ _, (decodes_wordPair _ _).through⟩

/-- What a reader has read is what the writer puts after the function code, with as many values as it made room for. -/
theorem RequestKind.inv (heof : failed eof = true) (k : RequestKind) {req r : k.Pdu} {used : List UInt8} {ec : ErrorCode}
    (h : Consumes eof (PduRead.read req) used (ec, r)) (hok : failed ec = false) :
    PduWrite.write r = writeFunctionCode (PduRead.fc k.Pdu) ++ used ∧ k.Counted r := by
  cases k
  case writeMultipleCoils => exact WriteMultipleCoilsPduReq.inv heof h hok
  case writeMultipleRegisters => exact WriteMultipleRegistersPduReq.inv heof h hok
  case readWriteMultipleRegisters => exact ReadWriteMultipleRegistersPduReq.inv heof h hok
  all_goals
    rw [wordPair_inv heof (readWordPair_propagating.through_inv heof h hok) hok]
    exact ⟨List.append_assoc _ _ _, trivial⟩

/-! ## The dispatch -/

/-- The search through the alternatives of the variant ends at the first field that it does not get. -/
theorem readPduVariant_propagating (fc : FunctionCode) (kinds : List RequestKind) :
    Propagating (readPduVariant fc kinds) := by
  induction kinds with
  | nil => exact fun _ => trivial
  | cons k kinds ih =>
    intro req
    unfold readPduVariant
    split
    · refine (k.read_propagating k.fresh).bind (fun ec r h => ⟨req, by simp only [h, if_true]; rfl⟩) (fun ec r h => ?_)
      simp only [h]
      trivial
    · exact ih req

/-- The first alternative with the received function code is the one that is read. -/
theorem decodes_variant {k : RequestKind} {r : k.Pdu} {body : List UInt8}
    (h : Decodes eof PduRead.read k.fresh body r) (req : PduReq) (kinds : List RequestKind) (hk : k ∈ kinds) :
    Decodes eof (readPduVariant (PduRead.fc k.Pdu) kinds) req body (.request k r) := by
  induction kinds with
  | nil => exact absurd hk List.not_mem_nil
  | cons head tail ih =>
    unfold Decodes readPduVariant
    split
    · rename_i hfc
      obtain rfl := RequestKind.fc_injective head k hfc
      have hc := Consumes.bind h (f := fun x => if failed x.1 then pure (x.1, req) else pure (ok, PduReq.request head x.2))
        (consumes_pure (ok, PduReq.request head r))
      rwa [List.append_nil] at hc
    · rename_i hfc
      refine ih ((List.mem_cons.mp hk).resolve_left ?_)
      rintro rfl
      exact hfc rfl

/-- A dispatch that succeeded has read one of the alternatives, the one with the received function code. -/
theorem variant_inv (heof : failed eof = true) {fc : FunctionCode} {req req' : PduReq} {used : List UInt8}
    {ec : ErrorCode} (kinds : List RequestKind) (h : Consumes eof (readPduVariant fc kinds req) used (ec, req'))
    (hok : failed ec = false) :
    ∃ k r ec', PduRead.fc (RequestKind.Pdu k) = fc ∧ req' = .request k r ∧ failed ec' = false ∧
      Consumes eof (PduRead.read k.fresh) used (ec', r) := by
  induction kinds with
  | nil =>
    have h' := h.run_eq
    simp only [readPduVariant, run_pure, Prod.mk.injEq] at h'
    rw [← h'.1.1] at hok
    exact absurd hok (by decide)
  | cons head tail ih =>
    unfold readPduVariant at h
    split at h
    · rename_i hfc
      have hd := first_not_failed (fun r hr => ⟨req, by simp only [hr, if_true]⟩) h hok
      obtain ⟨u, v, r, rfl, hc, hv⟩ := (head.read_propagating head.fresh).consumes_bind_inv heof h hd
      have hr : failed r.1 = false := by rwa [hc v] at hd
      simp only [hr] at hv
      have hv' := hv.run_eq
      simp only [Bool.false_eq_true, if_false, run_pure, Prod.mk.injEq] at hv'
      obtain ⟨⟨-, rfl⟩, rfl⟩ := hv'
      exact ⟨head, r.2, r.1, hfc, rfl, hr, by rwa [List.append_nil]⟩
    · exact ih h

/-- The reader of a request PDU ends at the first field that it does not get, from the function code on. -/
theorem readPduReq_propagating (x : UInt8) : Propagating (readPduReq x) := by
  intro req
  refine (readFunctionCode_propagating x ⟨x⟩).bind (fun ec fc h => ⟨req, by simp only [h, if_true]; rfl⟩)
    (fun ec fc h => ?_)
  simp only [h]
  exact readPduVariant_propagating fc _ req

/-- A request that was written is read back, into its own alternative. -/
theorem decodes_request (x : UInt8) (req : PduReq) {k : RequestKind} {r : k.Pdu} (h : k.Counted r) :
    Decodes eof (readPduReq x) req (PduWrite.write r) (.request k r) := by
  obtain ⟨body, hw, hd⟩ := k.decodes eof k.fresh r h
  rw [hw]
  refine Consumes.bind (decodes_functionCode x ⟨x⟩ _) ?_
  simp only [ErrorLike.failed_ok, Bool.false_eq_true, if_false]
  exact decodes_variant hd req _ k.mem_all

/-- The items of a request that was read are what is written for it, and it has as many values as its byte count says. -/
theorem request_inv (heof : failed eof = true) {x : UInt8} {req req' : PduReq} {used : List UInt8} {ec : ErrorCode}
    (h : Consumes eof (readPduReq x req) used (ec, req')) (hok : failed ec = false) :
    ∃ (k : RequestKind) (r : k.Pdu), req' = .request k r ∧ used = PduWrite.write r ∧ k.Counted r := by
  have hd := first_not_failed (fun r hr => ⟨req, by simp only [hr, if_true]⟩) h hok
  obtain ⟨u, v, r, rfl, hc, hv⟩ := (readFunctionCode_propagating x ⟨x⟩).consumes_bind_inv heof h hd
  have hr : failed r.1 = false := by rwa [hc v] at hd
  simp only [hr] at hv
  obtain ⟨k, q, ec', hfc, rfl, hec', hq⟩ := variant_inv heof _ hv hok
  obtain ⟨hwrite, hcounted⟩ := k.inv heof hq hec'
  refine ⟨k, q, rfl, ?_, hcounted⟩
  rw [hwrite, hfc]
  congr 1
  exact functionCode_inv heof hc hr

/-- A request that the decoder accepts is what its writer puts, with as many values as its byte count says, and what follows is
left. -/
theorem request_accepted (heof : failed eof = true) {x : UInt8} {req : PduReq} {l : List UInt8}
    (hok : failed ((readPduReq x req).run (listSource eof) l).1.1 = false) :
    ∃ (k : RequestKind) (q : k.Pdu) (rest : List UInt8), k.Counted q ∧ l = PduWrite.write q ++ rest ∧
      (readPduReq x req).run (listSource eof) l = ((ok, .request k q), rest) := by
  obtain ⟨used, hl, hc⟩ := (readPduReq_propagating x req).exists_consumes heof hok
  obtain ⟨k, q, -, rfl, hcounted⟩ := request_inv heof hc hok
  generalize ((readPduReq x req).run (listSource eof) l).2 = rest at hl
  refine ⟨k, q, rest, hcounted, hl, ?_⟩
  rw [hl]
  exact decodes_request x req hcounted rest

end Mothbus
