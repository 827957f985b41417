import Mothbus.Lemmas.Coils
import Mothbus.Lemmas.Master
import Mothbus.Lemmas.TcpServer

/-!
# What is sent

A frame is put byte by byte into an array of 320 bytes. Nothing on the way checks that it fits, or that it is at most as long as an
ADU may be: the quantities of the writes of registers are asserted by the response objects, which are constructed after the request
has been sent, and the span of a response is not checked at all.
-/

namespace Mothbus

open ErrorLike (ok failed)

/-- The transport with nothing to read: a call ends after its request, with what it checks from there on. -/
def Transport.sendOnly {σ : Type} (T : Transport σ) : Transport σ where
  writeRequest := T.writeRequest
  readResponse _ _ out := pure (timedOut, out)

/-- What a call that sends is to do in a state: it stores nothing outside of an array, and it leaves the state as it is or hands a frame of
at most `limit` bytes to the network. -/
def SendsWithin {σ α : Type} (sent : σ → List UInt8) (limit : Nat) (m : Exec Fault σ α) (s : σ) : Prop :=
  (∀ index, (m s).1 ≠ .error (.outOfBounds index)) ∧
    ((m s).2 = s ∨ ∃ frame, frame.length ≤ limit ∧ sent (m s).2 = sent s ++ frame)

/-- A call that sends the frame of `size` bytes if that has room, and otherwise stores a byte of it outside, does so if and only if the
frame is within the limit. -/
theorem sendsWithin_iff {σ α : Type} {sent : σ → List UInt8} {limit size : Nat} (room : Nat) {m : Exec Fault σ α} {s : σ}
    (hsend : size ≤ room → ∃ r s' frame, m s = (r, s') ∧ (∀ index, r ≠ .error (.outOfBounds index)) ∧
      sent s' = sent s ++ frame ∧ frame.length = size)
    (hfull : room < size → ∃ s', m s = (.error (.outOfBounds 320), s')) (hlimit : limit ≤ room) (hpos : 0 < limit) :
    SendsWithin sent limit m s ↔ size ≤ limit := by
  constructor
  · rintro ⟨hin, hsent⟩
    by_contra hlong
    by_cases hroom : size ≤ room
    · obtain ⟨r, s', frame, hm, -, hs', hframe⟩ := hsend hroom
      rw [hm] at hsent
      rcases hsent with hsame | ⟨frame', hle, hsent'⟩
      · have hs : s' = s := hsame
        rw [hs] at hs'
        have hlen := congrArg List.length hs'
        rw [List.length_append] at hlen
        omega
      · rw [hs'] at hsent'
        rw [← List.append_cancel_left hsent'] at hle
        omega
    · obtain ⟨s', hm⟩ := hfull (by omega)
      exact hin 320 (congrArg Prod.fst hm)
  · intro hshort
    obtain ⟨r, s', frame, hm, hin, hs', hframe⟩ := hsend (by omega)
    unfold SendsWithin
    rw [hm]
    exact ⟨hin, Or.inr ⟨frame, by omega, hs'⟩⟩

/-! ## The requests of a master -/

namespace Operation

/-- The arguments are such that the request is at most as long as an ADU. -/
def FitsAdu : Operation → Prop
  | writeMultipleRegisters _ values => values.length ≤ 123
  | readWriteMultipleRegisters _ _ _ writeValues => writeValues.length ≤ 121
  | _ => True

/-- The number of bytes of the request. -/
def requestLength : Operation → Nat
  | writeMultipleCoils _ values => 6 + (values.length + 7) / 8
  | writeMultipleRegisters _ values => 6 + values.length * 2
  | readWriteMultipleRegisters _ _ _ writeValues => 10 + writeValues.length * 2
  | _ => 5

variable {op : Operation} {p : Plan}

/-- A copy that has not left its vector has taken all the values. -/
theorem copyArgument_ok {values v : List UInt16} (h : copyArgument (UInt16.ofNat values.length).toNat values = .ok v) :
    v.length = values.length := by
  unfold copyArgument at h
  split at h
  · cases h
  · obtain rfl := Except.ok.inj h
    rw [List.length_append, List.length_replicate]
    rw [UInt16.toNat_ofNat'] at *
    omega

/-- More values than their quantity says are more than a quantity can say. -/
theorem copyArgument_error {values : List UInt16} {f : Fault}
    (h : copyArgument (UInt16.ofNat values.length).toNat values = .error f) :
    f = .outOfBounds (UInt16.ofNat values.length).toNat ∧ 65535 < values.length := by
  unfold copyArgument at h
  split at h
  · rw [UInt16.toNat_ofNat'] at *
    exact ⟨(Except.error.inj h).symm, by omega⟩
  · cases h

/-- The assertion of the request holds, and it is as long as that. -/
theorem request_facts (hp : op.plan = .ok p) :
    PduWrite.asserts p.request = true ∧ (PduWrite.write p.request).length = op.requestLength := by
  cases op with
  | readCoils _ _ _ | readDiscreteInputs _ _ _ =>
    obtain ⟨_, _, hp⟩ := bind_eq_ok hp
    obtain ⟨_, _, hp⟩ := bind_eq_ok hp
    obtain rfl := Except.ok.inj hp
    exact ⟨rfl, rfl⟩
  | readRegisterBytes _ _ | readRegisters _ _ | readInputRegisterBytes _ _ | readInputRegisters _ _
  | writeSingleRegister _ _ =>
    obtain rfl := Except.ok.inj hp
    exact ⟨rfl, rfl⟩
  | writeSingleCoil _ value =>
    obtain rfl := Except.ok.inj hp
    cases value with
    | true => exact ⟨rfl, rfl⟩
    | false => exact ⟨rfl, rfl⟩
  | writeMultipleCoils _ values =>
    obtain ⟨_, hcheck, hp⟩ := bind_eq_ok hp
    obtain rfl := Except.ok.inj hp
    refine ⟨rfl, ?_⟩
    have hsize : 1 ≤ values.length ∧ values.length ≤ 1968 := by simpa using of_checkArgument hcheck
    simp only [PduWrite.write, List.length_append, length_writeFunctionCode, length_writeUint16, length_writeUint8,
      flatMap_writeUint8, List.length_map, List.length_range, requestLength, Master.toNat_coilByteCount hsize]
  | writeMultipleRegisters _ values =>
    obtain ⟨v, hv, hp⟩ := bind_eq_ok hp
    obtain rfl := Except.ok.inj hp
    refine ⟨rfl, ?_⟩
    have hlen := copyArgument_ok hv
    simp only [PduWrite.write, List.length_append, length_writeFunctionCode, length_writeUint16, length_writeUint8,
      length_flatMap_writeUint16, requestLength, hlen]
  | readWriteMultipleRegisters _ _ _ writeValues =>
    obtain ⟨v, hv, hp⟩ := bind_eq_ok hp
    obtain rfl := Except.ok.inj hp
    refine ⟨rfl, ?_⟩
    have hlen := copyArgument_ok hv
    simp only [PduWrite.write, List.length_append, length_writeFunctionCode, length_writeUint16, length_writeUint8,
      length_flatMap_writeUint16, requestLength, hlen]

/-- Where a request is made, the condition on the arguments is that it is at most as long as a PDU may be. -/
theorem fitsAdu_iff (hp : op.plan = .ok p) : op.FitsAdu ↔ op.requestLength ≤ 253 := by
  cases op with
  | writeMultipleCoils _ values =>
    obtain ⟨_, hcheck, -⟩ := bind_eq_ok hp
    have hsize : 1 ≤ values.length ∧ values.length ≤ 1968 := by simpa using of_checkArgument hcheck
    simp only [FitsAdu, requestLength, true_iff]
    omega
  | writeMultipleRegisters _ _ | readWriteMultipleRegisters _ _ _ _ =>
    simp only [FitsAdu, requestLength]
    omega
  | readCoils _ _ _ | readDiscreteInputs _ _ _ | readRegisterBytes _ _ | readRegisters _ _ | readInputRegisterBytes _ _
  | readInputRegisters _ _ | writeSingleRegister _ _ | writeSingleCoil _ _ => simp [FitsAdu, requestLength]

/-- Where none is made, an assertion failed, or more values were copied than their quantity says. -/
theorem plan_error {f : Fault} (h : op.plan = .error f) :
    op.FitsAdu ∧ f = .assertion ∨ ¬op.FitsAdu ∧ ∃ index, f = .outOfBounds index := by
  cases op with
  | readCoils _ _ _ | readDiscreteInputs _ _ _ =>
    refine Or.inl ⟨trivial, ?_⟩
    rcases bind_eq_error h with hcheck | ⟨_, -, h⟩
    · exact of_checkArgument_error hcheck
    · rcases bind_eq_error h with hcheck | ⟨_, -, h⟩
      · exact of_checkArgument_error hcheck
      · cases h
  | writeMultipleCoils _ _ =>
    refine Or.inl ⟨trivial, ?_⟩
    rcases bind_eq_error h with hcheck | ⟨_, -, h⟩
    · exact of_checkArgument_error hcheck
    · cases h
  | writeMultipleRegisters _ values | readWriteMultipleRegisters _ _ _ values =>
    rcases bind_eq_error h with hcopy | ⟨_, -, h⟩
    · obtain ⟨rfl, hlong⟩ := copyArgument_error hcopy
      refine Or.inr ⟨?_, _, rfl⟩
      simp only [FitsAdu]
      omega
    · cases h
  | readRegisterBytes _ _ | readRegisters _ _ | readInputRegisterBytes _ _ | readInputRegisters _ _ | writeSingleRegister _ _
  | writeSingleCoil _ _ => cases h

end Operation

namespace Plan

variable {σ : Type} {T : Transport σ} {p : Plan} {slave : UInt8} {s s' : σ}

/-- After the request a call without a response only makes its assertion. -/
theorem run_sendOnly {transactionId : UInt16} (h : T.writeRequest slave p.request s = (.ok transactionId, s')) :
    ∃ r, p.run T.sendOnly slave s = (r, s') ∧ ∀ index, r ≠ .error (.outOfBounds index) := by
  unfold run Master.exchange
  rw [bind_assoc]
  cases hnew : p.asserts with
  | true =>
    refine ⟨.ok (p.finish timedOut p.response), Exec.bind_ok h, fun index he => ?_⟩
    cases he
  | false =>
    refine ⟨.error .assertion, Exec.bind_ok h, fun index he => ?_⟩
    cases he

/-- Where the request is not sent, the run has the same fault. -/
theorem run_sendOnly_error {f : Fault} (h : T.writeRequest slave p.request s = (.error f, s')) :
    p.run T.sendOnly slave s = (.error f, s') := by
  unfold run Master.exchange
  rw [bind_assoc]
  exact Exec.bind_error h

end Plan

namespace Operation

variable {op : Operation}

/-- Over a transport that sends the PDUs that have room with some bytes around them, and stores a byte of the others outside, a call
stays within the length of an ADU if and only if its arguments do. -/
theorem sendsWithin_iff_fitsAdu {σ : Type} {T : Transport σ} {sent : σ → List UInt8} (around room : Nat) {slave : UInt8} {s : σ}
    (hroom : 253 ≤ room)
    (hsend : ∀ p, op.plan = .ok p → (PduWrite.write p.request).length ≤ room → ∃ transactionId s' frame,
      T.writeRequest slave p.request s = (.ok transactionId, s') ∧ sent s' = sent s ++ frame ∧
      frame.length = (PduWrite.write p.request).length + around)
    (hfull : ∀ p, op.plan = .ok p → room < (PduWrite.write p.request).length →
      T.writeRequest slave p.request s = (.error (.outOfBounds 320), s)) :
    SendsWithin sent (253 + around) (op.run T.sendOnly slave) s ↔ op.FitsAdu := by
  rcases hp : op.plan with f | p
  · unfold SendsWithin
    rw [run_of_plan_error _ _ _ hp]
    rcases plan_error hp with ⟨hfits, rfl⟩ | ⟨hfits, index, rfl⟩
    · simp [hfits]
    · simp [hfits]
  · have hlen := (request_facts hp).2
    rw [fitsAdu_iff hp, ← hlen]
    have hiff : SendsWithin sent (253 + around) (op.run T.sendOnly slave) s ↔
        (PduWrite.write p.request).length + around ≤ 253 + around := by
      refine sendsWithin_iff (room + around) (fun hle => ?_) (fun hlt => ?_) (by omega) (by omega)
      · obtain ⟨transactionId, s', frame, hw, hs', hframe⟩ := hsend p hp (by omega)
        obtain ⟨r, hrun, hin⟩ := Plan.run_sendOnly hw
        exact ⟨r, s', frame, (run_of_plan _ _ _ hp).trans hrun, hin, hs', hframe⟩
      · exact ⟨s, (run_of_plan _ _ _ hp).trans (Plan.run_sendOnly_error (hfull p hp (by omega)))⟩
    rw [hiff]
    omega

/-- Over TCP, an operation stores and sends within the limits exactly if its arguments fit. -/
theorem tcp_sendsWithin_iff (op : Operation) (x slave : UInt8) (s : Tcp.Stream) :
    SendsWithin (·.nextLayer.outgoing) 260 (op.run (Tcp.transport x).sendOnly slave) s ↔ op.FitsAdu := by
  refine sendsWithin_iff_fitsAdu 7 313 (by omega) (fun p hp hle => ?_) (fun p hp hlt => ?_)
  · obtain ⟨m, hw⟩ := Tcp.Stream.writeRequest_ok slave s (request_facts hp).1 hle
    refine ⟨_, _, _, hw, rfl, ?_⟩
    rw [List.length_append, Tcp.MbapHeader.length_bytes, Nat.add_comm]
    rfl
  · obtain ⟨f, hw, hf⟩ := Tcp.Stream.writeRequest_error slave s (Or.inr hlt)
    rw [hf (request_facts hp).1] at hw
    exact hw

/-- So it does over RTU. -/
theorem rtu_sendsWithin_iff (op : Operation) (y : Rtu.Indeterminate) (slave : UInt8) (s : Rtu.Stream) :
    SendsWithin (·.sent) 256 (op.run (Rtu.transport y).sendOnly slave) s ↔ op.FitsAdu := by
  refine sendsWithin_iff_fitsAdu 3 317 (by omega) (fun p hp hle => ?_) (fun p hp hlt => ?_)
  · obtain ⟨m, hw⟩ := Rtu.Stream.writeRequest_ok slave s (request_facts hp).1 hle
    refine ⟨_, _, _, hw, rfl, ?_⟩
    rw [Rtu.frame, List.length_append, List.length_cons]
    rfl
  · obtain ⟨f, hw, hf⟩ := Rtu.Stream.writeRequest_error slave s (Or.inr hlt)
    rw [hf (request_facts hp).1] at hw
    exact hw

end Operation

/-! ## The answers of a server -/

/-- The span of a response is such that the response is at most as long as an ADU. -/
def Tcp.Answer.FitsAdu : Tcp.Answer → Prop
  | .exception _ => True
  | .response k r =>
    match k.contents r with
    | .data _ values => values.size ≤ 251
    | .words _ _ => True

/-- The condition on the span is that the response is at most as long as a PDU may be. -/
theorem Tcp.Answer.fitsAdu_iff (answer : Tcp.Answer) : answer.FitsAdu ↔ (PduWrite.write answer).length ≤ 253 := by
  cases answer with
  | exception r =>
    have htwo : (PduWrite.write (Tcp.Answer.exception r)).length = 2 := rfl
    simp [FitsAdu, htwo]
  | response k r =>
    have hwrite : PduWrite.write (Tcp.Answer.response k r) = PduWrite.write r := rfl
    rw [hwrite]
    cases hc : k.contents r with
    | data n values =>
      simp only [FitsAdu, hc, ResponseKind.length_write_of_data hc]
      omega
    | words address value => simp [FitsAdu, hc, ResponseKind.write_of_words hc]

/-- `write_response` stores and sends within the limits exactly if the span of its response fits. -/
theorem Tcp.writeResponse_sendsWithin_iff (answer : Tcp.Answer) (transactionId : UInt16) (slave : UInt8) (s : Tcp.Stream) :
    SendsWithin (·.nextLayer.outgoing) 260 (Tcp.Stream.writeResponse transactionId slave answer) s ↔ answer.FitsAdu := by
  have hassert := Tcp.asserts_answer answer
  have hiff : SendsWithin (·.nextLayer.outgoing) 260 (Tcp.Stream.writeResponse transactionId slave answer) s ↔
      (PduWrite.write answer).length + 7 ≤ 260 := by
    refine sendsWithin_iff 320 (fun hle => ?_) (fun hlt => ?_) (by omega) (by omega)
    · obtain ⟨m, hw⟩ := Tcp.Stream.writeResponse_ok transactionId slave s hassert (by omega)
      refine ⟨_, _, _, hw, ?_, rfl, ?_⟩
      · intro index he
        cases he
      · rw [List.length_append, Tcp.MbapHeader.length_bytes, Nat.add_comm]
        rfl
    · exact ⟨s, Tcp.Stream.writeResponse_full transactionId slave s hassert (by omega)⟩
  rw [hiff, answer.fitsAdu_iff]
  omega

/-- Sending stays within the array and the length of an ADU, over TCP and over RTU, if and only if the writes of registers have at
most 123 values, and 121 where registers are read as well; an answer does if and only if its span is at most 251 bytes. -/
theorem sends_within_adu_iff (op : Operation) (answer : Tcp.Answer) (x : UInt8) (y : Rtu.Indeterminate) (transactionId : UInt16)
    (slave : UInt8) (s : Tcp.Stream) (t : Rtu.Stream) :
    (SendsWithin (·.nextLayer.outgoing) 260 (op.run (Tcp.transport x).sendOnly slave) s ↔ op.FitsAdu) ∧
    (SendsWithin (·.sent) 256 (op.run (Rtu.transport y).sendOnly slave) t ↔ op.FitsAdu) ∧
    (SendsWithin (·.nextLayer.outgoing) 260 (Tcp.Stream.writeResponse transactionId slave answer) s ↔ answer.FitsAdu) :=
  ⟨op.tcp_sendsWithin_iff x slave s, op.rtu_sendsWithin_iff y slave t, Tcp.writeResponse_sendsWithin_iff answer transactionId slave s⟩

/-- A write of 200 registers leaves the array, over either transport. -/
theorem registers200_leaveArray :
    ¬SendsWithin (·.nextLayer.outgoing) 260
      ((Operation.writeMultipleRegisters 0 (List.replicate 200 0)).run (Tcp.transport 0).sendOnly 1) {} ∧
    ¬SendsWithin (·.sent) 256
      ((Operation.writeMultipleRegisters 0 (List.replicate 200 0)).run (Rtu.transport ⟨0, 0, 0, 0⟩).sendOnly 1) {} := by
  have hlong : ¬(Operation.writeMultipleRegisters 0 (List.replicate 200 0)).FitsAdu := by
    show ¬(List.replicate 200 (0 : UInt16)).length ≤ 123
    rw [List.length_replicate]
    decide
  rw [Operation.tcp_sendsWithin_iff, Operation.rtu_sendsWithin_iff]
  exact ⟨hlong, hlong⟩

end Mothbus
