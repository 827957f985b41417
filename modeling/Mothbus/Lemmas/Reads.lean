import Mothbus.Lemmas.Calls

/-!
# Data in a response

What a body with data does to the response object of a read, over either transport, and how registers are made of the data: the
loop of the register overloads undoes the writing of the registers one after the other.
-/

namespace Mothbus

open ErrorLike (ok failed)
open ReadProgram Decoder

/-! ## Registers -/

/-- The value of a register that is made of two bytes. -/
theorem toNat_makeUint16 (hi lo : UInt8) : (Master.makeUint16 hi lo).toNat = hi.toNat * 256 + lo.toNat := by
  have hhi := hi.toNat_lt
  have hlo := lo.toNat_lt
  have h8 : (8 : UInt16).toNat % 16 = 8 := rfl
  rw [Master.makeUint16, UInt16.toNat_add, UInt16.toNat_shiftLeft, UInt8.toNat_toUInt16, UInt8.toNat_toUInt16, h8,
    Nat.shiftLeft_eq]
  omega

/-- Two bytes are joined as the field reader joins them. -/
theorem makeUint16_eq_join (hi lo : UInt8) : Master.makeUint16 hi lo = hi.toUInt16 <<< 8 ||| lo.toUInt16 := by
  apply UInt16.toNat_inj.mp
  rw [toNat_makeUint16, toNat_join]

/-- The register after the first is made of the bytes after the first two. -/
theorem makeRegisters_succ (hi lo : UInt8) (data : List UInt8) (n : Nat) :
    Master.makeRegisters (hi :: lo :: data) (n + 1) = Master.makeUint16 hi lo :: Master.makeRegisters data n := by
  unfold Master.makeRegisters
  rw [List.range_succ_eq_map, List.map_cons, List.map_map]
  refine congrArg _ (List.map_congr_left fun i _ => ?_)
  have heven : 2 * (i + 1) = 2 * i + 1 + 1 := by omega
  simp only [Function.comp_apply, Nat.succ_eq_add_one, heven, List.getD_cons_succ]

/-- The registers are made of the bytes that they are written as. -/
theorem makeRegisters_flatMap (registers : List UInt16) :
    Master.makeRegisters (registers.flatMap writeUint16) registers.length = registers := by
  induction registers with
  | nil => rfl
  | cons v registers ih =>
    have hv : Master.makeUint16 ((v >>> 8) &&& 0xff).toUInt8 (v &&& 0xff).toUInt8 = v := by
      rw [makeUint16_eq_join, join_bytes]
    rw [List.flatMap_cons, List.length_cons]
    show Master.makeRegisters (_ :: _ :: registers.flatMap writeUint16) _ = _
    rw [makeRegisters_succ, hv, ih]

/-- An even number of bytes is written by registers. -/
theorem exists_registers {n : Nat} {data : List UInt8} (h : data.length = n * 2) :
    ∃ registers : List UInt16, registers.length = n ∧ registers.flatMap writeUint16 = data := by
  induction n generalizing data with
  | zero => exact ⟨[], rfl, (List.eq_nil_of_length_eq_zero (by omega)).symm⟩
  | succ n ih =>
    rcases data with _ | ⟨hi, _ | ⟨lo, data⟩⟩
    · simp at h
    · simp at h
      omega
    · have htail : data.length = n * 2 := by
        simp only [List.length_cons] at h
        omega
      obtain ⟨registers, hlen, hdata⟩ := ih htail
      refine ⟨(hi.toUInt16 <<< 8 ||| lo.toUInt16) :: registers, by rw [List.length_cons, hlen], ?_⟩
      rw [List.flatMap_cons, writeUint16_join, hdata]
      rfl

/-- The registers made of twice as many bytes are written as those. -/
theorem flatMap_makeRegisters {n : Nat} {data : List UInt8} (h : data.length = n * 2) :
    (Master.makeRegisters data n).flatMap writeUint16 = data := by
  obtain ⟨registers, rfl, rfl⟩ := exists_registers h
  rw [makeRegisters_flatMap]

/-! ## Bodies with data -/

/-- A body that starts with a response with data: the function code, the number of the data, the data. -/
def CarriesData (fc : FunctionCode) (data body : List UInt8) : Prop :=
  ∃ (n : UInt8) (rest : List UInt8), n.toNat = data.length ∧ body = fc.value :: n :: (data ++ rest)

/-- The data are determined by the body. -/
theorem CarriesData.unique {fc : FunctionCode} {data data' body : List UInt8} (h : CarriesData fc data body)
    (h' : CarriesData fc data' body) : data = data' := by
  obtain ⟨n, rest, hn, rfl⟩ := h
  obtain ⟨n', rest', hn', he⟩ := h'
  obtain ⟨-, htail⟩ := List.cons.inj he
  obtain ⟨rfl, hdata⟩ := List.cons.inj htail
  exact (List.append_inj hdata (hn.symm.trans hn')).1

/-- The byte count of the data is their number. -/
theorem CarriesData.toNat_length {fc : FunctionCode} {data body : List UInt8} (h : CarriesData fc data body) :
    (UInt8.ofNat data.length).toNat = data.length := by
  obtain ⟨n, rest, hn, -⟩ := h
  rw [← hn, UInt8.ofNat_toNat]

/-- A body with data is no exception. -/
theorem CarriesData.not_zeroException {k : ResponseKind} {data body : List UInt8} (h : CarriesData (PduRead.fc k.Pdu) data body) :
    ¬Tcp.IsZeroException body := by
  obtain ⟨n, rest, -, rfl⟩ := h
  exact Tcp.not_zeroException_cons k _

section

variable {k : ResponseKind} {out : k.Pdu} {m : UInt8} {space : Span} {data body : List UInt8}

/-- Data that fit the caller's span are stored over it, and the span is cut to them. -/
theorem decodes_data (eof : ErrorCode) (x : UInt8) (hout : k.contents out = .data m space)
    (h : CarriesData (PduRead.fc k.Pdu) data body) (hfit : data.length ≤ space.size) :
    ∃ r rest, k.contents r = .data (UInt8.ofNat data.length) (space.filled data) ∧
      (readPduResp x out).run (listSource eof) body = ((ok, r), rest) := by
  obtain ⟨n, rest, hn, rfl⟩ := h
  obtain ⟨v, hv⟩ := ResponseKind.exists_contents hout n (.ofData data)
  have hreadable : k.Readable v := by
    unfold ResponseKind.Readable
    rw [hv]
    exact hn
  have hroom : (k.contents v).Fits (k.contents out) := by
    rw [hv, hout]
    exact hfit
  obtain ⟨r, hr, hd⟩ := decodes_response eof x hreadable hroom
  refine ⟨r, rest, ?_, ?_⟩
  · rw [hr, hv, hout, ← hn, UInt8.ofNat_toNat, Contents.into, Span.bytes_ofData]
  · have hrun := hd rest
    rw [ResponseKind.write_of_data hv, Span.bytes_ofData] at hrun
    exact hrun

/-- The responses that an object over a span has room for are the bodies whose data fit the span. -/
theorem isResponse_iff_of_data (hout : k.contents out = .data m space) :
    Tcp.IsResponse k out body ↔ ∃ data, CarriesData (PduRead.fc k.Pdu) data body ∧ data.length ≤ space.size := by
  constructor
  · rintro ⟨v, rest, hv, hfit, rfl⟩
    obtain ⟨n, values, hcontents⟩ := ResponseKind.exists_data hout v
    unfold ResponseKind.Readable at hv
    rw [hcontents] at hv
    rw [hcontents, hout] at hfit
    refine ⟨values.bytes, ⟨n, rest, hv.trans values.length_bytes.symm, ?_⟩, ?_⟩
    · rw [ResponseKind.write_of_data hcontents]
      rfl
    · rw [Span.length_bytes]
      exact hfit
  · rintro ⟨data, ⟨n, rest, hn, rfl⟩, hfit⟩
    obtain ⟨v, hv⟩ := ResponseKind.exists_contents hout n (.ofData data)
    refine ⟨v, rest, ?_, ?_, ?_⟩
    · unfold ResponseKind.Readable
      rw [hv]
      exact hn
    · rw [hv, hout]
      exact hfit
    · rw [ResponseKind.write_of_data hv, Span.bytes_ofData]
      rfl

end

/-! ## What an operation makes of a body -/

namespace Plan

variable {p : Plan} {space : List UInt8} {finish : ErrorCode → UInt8 → Span → ErrorCode × Output} {data body : List UInt8}

/-- An exception with the code zero is a success with the response object as it was constructed. -/
theorem tcpResult_zeroException (x : UInt8) (h : Tcp.IsZeroException body) :
    p.tcpResult x body = p.finish (makeErrorCode .success) p.response := by
  rw [tcpResult, Tcp.verdict_zeroException x p.response h]

/-- Of the data that fit its space, a plan that reads data makes its result. -/
theorem tcpResult_data (h : p.ReadsData space finish) (x : UInt8) (hd : CarriesData (PduRead.fc p.expected.Pdu) data body)
    (hfit : data.length ≤ space.length) :
    p.tcpResult x body =
      finish (makeErrorCode .success) (UInt8.ofNat data.length) ((Span.ofData space).filled data) := by
  obtain ⟨r, rest, hr, hrun⟩ := decodes_data (makeErrorCode .tooManyBytesReceived) x h.response hd hfit
  have hv : Tcp.Stream.verdict x p.response body = (makeErrorCode .success, r) := by
    unfold Tcp.Stream.verdict
    rw [hrun]
    rfl
  rw [tcpResult, hv, h.finish_eq _ _ _ _ hr]

/-- A plan that reads data succeeds on an exception with the code zero and on data that fit its space, if at all. -/
theorem body_of_success {op : Operation} (hp : op.plan = .ok p) (h : p.ReadsData space finish) {x : UInt8}
    (hok : failed (p.tcpResult x body).1 = false) :
    Tcp.IsZeroException body ∨
      ∃ data, CarriesData (PduRead.fc p.expected.Pdu) data body ∧ data.length ≤ space.length := by
  rcases (Tcp.failed_verdict_iff x p.response body).mp (Operation.ok_of_finish hp hok) with hresponse | hzero
  · exact Or.inr ((isResponse_iff_of_data h.response).mp hresponse)
  · exact Or.inl hzero

/-- Data on which it succeeds fit its space. -/
theorem fits_of_success {op : Operation} (hp : op.plan = .ok p) (h : p.ReadsData space finish) {x : UInt8}
    (hd : CarriesData (PduRead.fc p.expected.Pdu) data body) (hok : failed (p.tcpResult x body).1 = false) :
    data.length ≤ space.length := by
  rcases body_of_success hp h hok with hzero | ⟨data', hd', hfit⟩
  · exact absurd hzero hd.not_zeroException
  · rw [hd.unique hd']
    exact hfit

/-- A read into a span of bytes succeeds on data of the size of the span, and they are then in the span. -/
theorem tcpResult_bytes {out : List UInt8} (h : p.ReadsData out (finishBytes out)) (x : UInt8)
    (hd : CarriesData (PduRead.fc p.expected.Pdu) data body) (hfit : data.length ≤ out.length) :
    p.tcpResult x body =
      (if data.length ≠ out.length then makeErrorCode .invalidResponse else ok, .bytes (data ++ out.drop data.length)) := by
  rw [tcpResult_data h x hd hfit, finishBytes_ok out rfl, hd.toNat_length, Span.data_filled, Span.data_ofData]

/-- A read into a span of registers succeeds on twice as many data, and the registers are then made of them. -/
theorem tcpResult_registers {out : List UInt16} (h : p.ReadsData (List.replicate (out.length * 2) 0) (finishRegisters out))
    (x : UInt8) (hd : CarriesData (PduRead.fc p.expected.Pdu) data body) (hfit : data.length ≤ out.length * 2) :
    p.tcpResult x body =
      if data.length ≠ out.length * 2 then (makeErrorCode .invalidResponse, .registers out)
      else (ok, .registers (Master.makeRegisters data out.length)) := by
  have hspace : data.length ≤ (List.replicate (out.length * 2) (0 : UInt8)).length := by
    rw [List.length_replicate]
    exact hfit
  rw [tcpResult_data h x hd hspace, finishRegisters_ok out rfl, hd.toNat_length]
  by_cases hlen : data.length = out.length * 2
  · rw [Span.data_filled_of_length (hlen.trans List.length_replicate.symm)]
  · rw [if_pos hlen, if_pos hlen]

end Plan

/-! ## The operations that only read -/

/-- The operations that only read. -/
def Operation.OnlyReads : Operation → Prop
  | readCoils _ _ _ | readDiscreteInputs _ _ _ | readRegisterBytes _ _ | readRegisters _ _ | readInputRegisterBytes _ _
  | readInputRegisters _ _ => True
  | writeSingleCoil _ _ | writeMultipleCoils _ _ | writeSingleRegister _ _ | writeMultipleRegisters _ _
  | readWriteMultipleRegisters _ _ _ _ => False

/-- The requests of the reads are five bytes. -/
theorem Operation.OnlyReads.sends {op : Operation} {p : Plan} (hread : op.OnlyReads) (hp : op.plan = .ok p) : p.Sends 313 := by
  have hfive : 5 ≤ 313 := by decide
  cases op with
  | readCoils _ _ _ | readDiscreteInputs _ _ _ =>
    obtain ⟨_, _, hp⟩ := bind_eq_ok hp
    obtain ⟨_, _, hp⟩ := bind_eq_ok hp
    obtain rfl := Except.ok.inj hp
    exact ⟨rfl, rfl, hfive⟩
  | readRegisterBytes _ _ | readRegisters _ _ | readInputRegisterBytes _ _ | readInputRegisters _ _ =>
    obtain rfl := Except.ok.inj hp
    exact ⟨rfl, rfl, hfive⟩
  | writeSingleCoil _ _ | writeMultipleCoils _ _ | writeSingleRegister _ _ | writeMultipleRegisters _ _
  | readWriteMultipleRegisters _ _ _ _ => exact hread.elim

end Mothbus
