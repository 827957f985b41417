import Mothbus.Examples.Registers
import Mothbus.Examples.Transcript
import Mothbus.Lemmas.Reads

/-!
# Calls to the register server

What the register server takes the request of a call for, and what the master makes of its reply: together, that a call returns its
effect on the registers (`Operation.exists_answer`). The request for a read and write of 128 to 151 registers has a wrapped byte count;
the server takes it for one of fewer registers, and refuses the function all the same.
-/

namespace Mothbus.Examples

open ErrorLike (ok failed)
open Tcp

/-! ## The request -/

/-- A body that starts with a request, with as many values as its byte count says, is that request. -/
theorem requestOf_write {k : RequestKind} {q : k.Pdu} (h : k.Counted q) (rest : List UInt8) :
    requestOf (PduWrite.write q ++ rest) = some (.request k q) := by
  have hrun : (readPduReq 0 newRequest).run Buffer.input (PduWrite.write q ++ rest) = ((ok, .request k q), rest) :=
    decodes_request 0 newRequest h rest
  unfold requestOf Server.outcome
  rw [hrun]
  rfl

/-- A request of registers with at least as many values as its byte count says is taken for one of as many as it says. -/
theorem requestOf_writeRegisters (r : WriteMultipleRegistersPduReq) (h : r.byteCount.toNat / 2 ≤ r.values.length) :
    ∃ k q, requestOf (PduWrite.write r) = some (.request k q) ∧ k ≠ .readHolding := by
  let q : WriteMultipleRegistersPduReq := { r with values := r.values.take (r.byteCount.toNat / 2) }
  have hwrite : PduWrite.write r = PduWrite.write q ++ (r.values.drop (r.byteCount.toNat / 2)).flatMap writeUint16 := by
    simp only [PduWrite.write, List.append_assoc]
    rw [← List.flatMap_append, List.take_append_drop]
  have hcounted : RequestKind.writeMultipleRegisters.Counted q := (List.length_take_of_le h).symm
  rw [hwrite]
  exact ⟨.writeMultipleRegisters, q, requestOf_write hcounted _, nofun⟩

/-- A request to read and write registers is decoded as a request, but not as one to read holding registers. -/
theorem requestOf_readWriteRegisters (r : ReadWriteMultipleRegistersPduReq) (h : r.writeByteCount.toNat / 2 ≤ r.values.length) :
    ∃ k q, requestOf (PduWrite.write r) = some (.request k q) ∧ k ≠ .readHolding := by
  let q : ReadWriteMultipleRegistersPduReq := { r with values := r.values.take (r.writeByteCount.toNat / 2) }
  have hwrite : PduWrite.write r = PduWrite.write q ++ (r.values.drop (r.writeByteCount.toNat / 2)).flatMap writeUint16 := by
    simp only [PduWrite.write, List.append_assoc]
    rw [← List.flatMap_append, List.take_append_drop]
  have hcounted : RequestKind.readWriteMultipleRegisters.Counted q := (List.length_take_of_le h).symm
  rw [hwrite]
  exact ⟨.readWriteMultipleRegisters, q, requestOf_write hcounted _, nofun⟩

/-- Values that are copied into as many places as their number, cut to 16 bits, has room for. -/
theorem of_copyArgument {values v : List UInt16} (h : copyArgument (UInt16.ofNat values.length).toNat values = .ok v) :
    (UInt16.ofNat values.length).toNat = values.length ∧ v = values := by
  have hle : (UInt16.ofNat values.length).toNat ≤ values.length := by
    rw [UInt16.toNat_ofNat']
    exact Nat.mod_le _ _
  unfold copyArgument at h
  split at h
  · nomatch h
  · rename_i hroom
    have heq := Nat.le_antisymm hle (Nat.not_lt.mp hroom)
    refine ⟨heq, ?_⟩
    rw [← Except.ok.inj h, heq, Nat.sub_self, List.replicate_zero, List.append_nil]

/-- The byte count of the values, cut to a byte, says no more than there are. -/
theorem byteCount_le (n : Nat) : (UInt8.ofNat (n * 2)).toNat / 2 ≤ n := by
  rw [UInt8.toNat_ofNat']
  omega

/-- The request of a call that is no read of holding registers is taken for another request. -/
theorem exists_otherRequest {op : Operation} {p : Plan} (hp : op.plan = .ok p) (hasked : registersAsked op = none) :
    ∃ k q, requestOf (PduWrite.write p.request) = some (.request k q) ∧ k ≠ .readHolding := by
  have hwhole : ∀ {k : RequestKind} {q : k.Pdu}, k.Counted q → requestOf (PduWrite.write q) = some (.request k q) := fun h => by
    have hreq := requestOf_write h []
    rwa [List.append_nil] at hreq
  cases op with
  | readRegisterBytes _ _ | readRegisters _ _ => nomatch hasked
  | readCoils _ _ _ | readDiscreteInputs _ _ _ =>
    obtain ⟨_, _, hp⟩ := bind_eq_ok hp
    obtain ⟨_, _, hp⟩ := bind_eq_ok hp
    obtain rfl := Except.ok.inj hp
    exact ⟨_, _, hwhole trivial, nofun⟩
  | writeSingleCoil _ _ | writeSingleRegister _ _ | readInputRegisterBytes _ _ | readInputRegisters _ _ =>
    obtain rfl := Except.ok.inj hp
    exact ⟨_, _, hwhole trivial, nofun⟩
  | writeMultipleCoils address values =>
    obtain ⟨_, _, hp⟩ := bind_eq_ok hp
    obtain rfl := Except.ok.inj hp
    refine ⟨.writeMultipleCoils, _, hwhole ?_, nofun⟩
    simp only [RequestKind.Counted, List.length_map, List.length_range]
  | writeMultipleRegisters address values =>
    obtain ⟨v, hv, hp⟩ := bind_eq_ok hp
    obtain ⟨hlen, rfl⟩ := of_copyArgument hv
    obtain rfl := Except.ok.inj hp
    refine requestOf_writeRegisters _ ?_
    simp only [hlen, byteCount_le]
  | readWriteMultipleRegisters readAddress readValues writeAddress writeValues =>
    obtain ⟨v, hv, hp⟩ := bind_eq_ok hp
    obtain ⟨hlen, rfl⟩ := of_copyArgument hv
    obtain rfl := Except.ok.inj hp
    refine requestOf_readWriteRegisters _ ?_
    simp only [hlen, byteCount_le]

/-- The request of a read of holding registers is taken for one of as many registers. -/
theorem exists_readRequest {op : Operation} {p : Plan} (hp : op.plan = .ok p) {quantity : UInt16}
    (hasked : registersAsked op = some quantity) :
    ∃ address, requestOf (PduWrite.write p.request) =
      some (.request .readHolding { startingAddress := address, quantityOfRegisters := quantity }) := by
  cases op with
  | readRegisterBytes address out =>
    obtain rfl := Except.ok.inj hp
    obtain rfl := Option.some.inj hasked
    exact ⟨address, requestOf_write (k := .readHolding) trivial []⟩
  | readRegisters address out =>
    obtain rfl := Except.ok.inj hp
    obtain rfl := Option.some.inj hasked
    refine ⟨address, (requestOf_write (k := .readHolding) trivial []).trans ?_⟩
    rw [List.length_replicate, Nat.mul_div_cancel _ (by decide)]
  | _ => nomatch hasked

/-- Every request that a master sends is taken for some request. -/
theorem exists_request {op : Operation} {p : Plan} (hp : op.plan = .ok p) : ∃ req, requestOf (PduWrite.write p.request) = some req := by
  cases hasked : registersAsked op with
  | none =>
    obtain ⟨k, q, hreq, -⟩ := exists_otherRequest hp hasked
    exact ⟨_, hreq⟩
  | some quantity =>
    obtain ⟨address, hreq⟩ := exists_readRequest hp hasked
    exact ⟨_, hreq⟩

/-! ## The reply -/

/-- A call that is sent the answer reads it whole and returns the result. -/
structure Returns (p : Plan) (answer : Answer) (result : ErrorCode × Output) : Prop where
  length : 1 ≤ (PduWrite.write answer).length ∧ (PduWrite.write answer).length ≤ 248
  tcpResult_eq : ∀ x, p.tcpResult x (PduWrite.write answer) = result

variable {op : Operation} {p : Plan}

/-- The codes that go over the wire as they are: bytes other than zero. -/
def IsByteCode (ec : ModbusExceptionCode) : Prop := ec.value = (UInt8.ofInt ec.value).toNat ∧ ec.value ≠ 0

instance (ec : ModbusExceptionCode) : Decidable (IsByteCode ec) := inferInstanceAs (Decidable (_ ∧ _))

/-- A function code with the exception bit has that bit. -/
theorem exceptionBit (v : UInt8) : (v ||| 0x80) &&& 0x80 ≠ 0 := by
  have hbit : (v ||| 0x80) &&& 0x80 = 0x80 := by
    apply UInt8.toBitVec_inj.mp
    show (v.toBitVec ||| 0x80#8) &&& 0x80#8 = 0x80#8
    rw [BitVec.or_comm, BitVec.and_comm]
    ext i hi
    simp
    grind
  rw [hbit]
  decide

/-- An exception is an error, and leaves the span of the caller. -/
theorem returns_exception (hp : op.plan = .ok p) (fc : FunctionCode) {ec : ModbusExceptionCode} (hec : IsByteCode ec) :
    Returns p (exception fc ec) (makeErrorCode ec, op.output) where
  length := by
    rw [length_write_exception]
    omega
  tcpResult_eq x := by
    have hcode : (⟨((UInt8.ofInt ec.value).toNat : Int)⟩ : ModbusExceptionCode) = ec := congrArg ModbusExceptionCode.mk hec.1.symm
    have hrun : (readPduResp x p.response).run Buffer.input (PduWrite.write (exception fc ec)) = ((makeErrorCode ec, p.response), []) := by
      have hexception := consumes_exception (makeErrorCode .tooManyBytesReceived) x p.response (exceptionBit fc.value)
        (UInt8.ofInt ec.value) []
      rwa [hcode] at hexception
    have hfailed := (failed_makeErrorCode ec).mpr hec.2
    have hverdict : Stream.verdict x p.response (PduWrite.write (exception fc ec)) = (makeErrorCode ec, p.response) := by
      unfold Stream.verdict
      rw [hrun]
      simp only [hfailed, if_true]
    rw [Plan.tcpResult, hverdict]
    exact (Operation.ends hp).failure _ hfailed

/-- A request for something else is refused. -/
theorem registerReply_other (registers : List UInt16) {k : RequestKind} (q : k.Pdu) (hk : k ≠ .readHolding) :
    registerReply registers (.request k q) = exception (PduRead.fc k.Pdu) .illegalFunction := by
  cases k
  case readHolding => exact absurd rfl hk
  all_goals rfl

/-- Every other call gets the exception that the function is not implemented. -/
theorem effect_other (registers : List UInt16) {op : Operation} (hasked : registersAsked op = none) :
    effect registers op = (makeErrorCode .illegalFunction, op.output) := by
  cases op
  case readRegisterBytes | readRegisters => nomatch hasked
  all_goals rfl

/-- A request for registers is answered with what is looked up. -/
theorem registerReply_readHolding (registers : List UInt16) (req : ReadHoldingPduReq) :
    registerReply registers (.request .readHolding req) =
      match lookup registers req.startingAddress req.quantityOfRegisters with
      | .error ec => exception .readHoldingRegisters ec
      | .ok values => .response .readHolding (ReadHoldingPduResp.new (.ofData (values.flatMap writeUint16))) := by
  unfold lookup
  simp only [registerReply]
  split
  · rfl
  · split
    · rfl
    · rfl

/-- The exceptions of a read are sent in a byte. -/
theorem isByteCode_of_lookup {registers : List UInt16} {address quantity : UInt16} {ec : ModbusExceptionCode}
    (h : lookup registers address quantity = .error ec) : IsByteCode ec := by
  unfold lookup at h
  split at h
  · obtain rfl := Except.error.inj h
    decide
  · split at h
    · obtain rfl := Except.error.inj h
      decide
    · nomatch h

/-- What is found are as many registers as asked for, at least one and at most 125. -/
theorem length_of_lookup {registers : List UInt16} {address quantity : UInt16} {values : List UInt16}
    (h : lookup registers address quantity = .ok values) :
    values.length = quantity.toNat ∧ 1 ≤ quantity.toNat ∧ quantity.toNat ≤ 125 := by
  unfold lookup at h
  split at h
  · nomatch h
  · split at h
    · nomatch h
    · obtain rfl := Except.ok.inj h
      rw [List.length_take, List.length_drop]
      omega

/-- A byte count tells how many registers a reply carries. -/
theorem carriesData_values {values : List UInt16} (hshort : values.length ≤ 125) :
    CarriesData .readHoldingRegisters (values.flatMap writeUint16)
      (PduWrite.write (Answer.response .readHolding (ReadHoldingPduResp.new (.ofData (values.flatMap writeUint16))))) := by
  have hlen := length_flatMap_writeUint16 values
  have hcontents : ResponseKind.readHolding.contents (ReadHoldingPduResp.new (.ofData (values.flatMap writeUint16))) =
      .data (UInt8.ofNat (values.flatMap writeUint16).length) (.ofData (values.flatMap writeUint16)) := rfl
  have hwrite := ResponseKind.write_of_data hcontents
  rw [Span.bytes_ofData] at hwrite
  refine ⟨UInt8.ofNat (values.flatMap writeUint16).length, [], ?_, ?_⟩
  · rw [UInt8.toNat_ofNat']
    omega
  · rw [List.append_nil]
    exact hwrite

/-- A read of holding registers that asks for no more than 123 of them returns its effect on the registers. -/
theorem returns_lookup {registers : List UInt16} {req : ReadHoldingPduReq} (hp : op.plan = .ok p)
    (hasked : req.quantityOfRegisters.toNat ≤ 123 ∨ 125 < req.quantityOfRegisters.toNat) {result : ErrorCode × Output}
    (herror : ∀ ec, lookup registers req.startingAddress req.quantityOfRegisters = .error ec → result = (makeErrorCode ec, op.output))
    (hok : ∀ values, lookup registers req.startingAddress req.quantityOfRegisters = .ok values →
      ∀ x body, CarriesData .readHoldingRegisters (values.flatMap writeUint16) body → p.tcpResult x body = result) :
    Returns p (registerReply registers (.request .readHolding req)) result := by
  rw [registerReply_readHolding]
  cases hlookup : lookup registers req.startingAddress req.quantityOfRegisters with
  | error ec =>
    rw [herror ec hlookup]
    exact returns_exception hp _ (isByteCode_of_lookup hlookup)
  | ok values =>
    obtain ⟨hlen, hmin, hmax⟩ := length_of_lookup hlookup
    have hshort : values.length ≤ 123 := by omega
    refine ⟨?_, fun x => hok values hlookup x _ (carriesData_values (by omega))⟩
    rw [length_write_readHolding, length_flatMap_writeUint16]
    omega

/-- The server takes the request of a call that is answerable for some request, and what it replies to that, the call returns as its
effect on the registers, whatever they are when the server replies. -/
theorem exists_answer {slave : UInt8} (h : Answerable slave op) (hp : op.plan = .ok p) :
    ∃ req, requestOf (PduWrite.write p.request) = some req ∧
      ∀ registers, Returns p (registerReply registers req) (effect registers op) := by
  have hmade := (Operation.madeFor hp).2
  cases hasked : registersAsked op with
  | none =>
    obtain ⟨k, q, hreq, hk⟩ := exists_otherRequest hp hasked
    refine ⟨_, hreq, fun registers => ?_⟩
    rw [registerReply_other registers q hk, effect_other registers hasked]
    exact returns_exception hp _ (by decide)
  | some quantity =>
    have hshort := h.2.2 quantity hasked
    cases op with
    | readRegisterBytes address out =>
      obtain rfl := Except.ok.inj hp
      obtain rfl := Option.some.inj hasked
      have hquantity : (UInt16.ofNat (out.length / 2)).toNat ≤ out.length / 2 := by
        rw [UInt16.toNat_ofNat']
        exact Nat.mod_le _ _
      refine ⟨_, requestOf_write (k := .readHolding) trivial [], fun registers => returns_lookup hp hshort (fun ec hec => ?_)
        fun values hvalues x body hbody => ?_⟩
      · rw [effect, hec]
        rfl
      · have hlen : values.length = (UInt16.ofNat (out.length / 2)).toNat := (length_of_lookup hvalues).1
        have hdata := length_flatMap_writeUint16 values
        rw [Plan.tcpResult_bytes hmade x hbody (by omega), effect, hvalues]
    | readRegisters address out =>
      obtain rfl := Except.ok.inj hp
      obtain rfl := Option.some.inj hasked
      have hbuffer : (List.replicate (out.length * 2) (0 : UInt8)).length / 2 = out.length := by
        rw [List.length_replicate]
        omega
      have hquantity : (UInt16.ofNat out.length).toNat ≤ out.length := by
        rw [UInt16.toNat_ofNat']
        exact Nat.mod_le _ _
      refine ⟨_, requestOf_write (k := .readHolding) trivial [], fun registers => returns_lookup hp (by rw [hbuffer]; exact hshort)
        (fun ec hec => ?_) fun values hvalues x body hbody => ?_⟩
      · rw [hbuffer] at hec
        rw [effect, hec]
        rfl
      · rw [hbuffer] at hvalues
        have hlen : values.length = (UInt16.ofNat out.length).toNat := (length_of_lookup hvalues).1
        have hdata := length_flatMap_writeUint16 values
        rw [Plan.tcpResult_registers hmade x hbody (by omega), effect, hvalues]
        by_cases hall : values.length = out.length
        · rw [if_neg (by omega), ← hall, makeRegisters_flatMap]
          exact (if_neg (not_not_intro rfl)).symm
        · rw [if_pos (by omega)]
          exact (if_pos hall).symm
    | _ => nomatch hasked

end Mothbus.Examples
