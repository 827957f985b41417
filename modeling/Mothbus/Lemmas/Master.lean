import Mothbus.Adu.Master
import Mothbus.Lemmas.RtuFrame
import Mothbus.Lemmas.TcpFrame

/-!
# The common shape of the operations

Every operation of a master does the same: it checks its arguments, sends one request, constructs one response object, has the
response read into it and makes its result of the error code and the object. What is particular to an operation is its plan; an
operation is the run of its plan (`Operation.run_eq_plan`), over any transport.
-/

namespace Mothbus

open ErrorLike (ok failed)

/-- What is particular to a call of an operation. -/
structure Plan where
  kind : RequestKind
  request : kind.Pdu
  /-- The assertion of the constructor of the response object. -/
  asserts : Bool
  expected : ResponseKind
  response : expected.Pdu
  finish : ErrorCode → expected.Pdu → ErrorCode × Output

namespace Plan

/-- Run a plan over a transport. -/
def run {σ : Type} (T : Transport σ) (slave : UInt8) (p : Plan) : Exec Fault σ (ErrorCode × Output) := do
  let (ec, resp) ← Master.exchange T slave p.request p.asserts p.response
  return p.finish ec resp

/-- The end of a read into a span of bytes. -/
def finishBytes (out : List UInt8) (ec : ErrorCode) (byteCount : UInt8) (values : Span) : ErrorCode × Output :=
  let r := Master.checkByteCount ec byteCount values out
  (r.1, .bytes r.2)

/-- The end of a read into a span of registers, over a read into a buffer of twice as many bytes. -/
def finishRegisters (out : List UInt16) (ec : ErrorCode) (byteCount : UInt8) (values : Span) : ErrorCode × Output :=
  let r := Master.checkByteCount ec byteCount values (List.replicate (out.length * 2) 0)
  if failed r.1 then (r.1, .registers out) else (r.1, .registers (Master.makeRegisters r.2 out.length))

end Plan

/-- `assert(b)` on arguments. -/
def checkArgument (b : Bool) : Except Fault Unit := if b then .ok () else .error .assertion

/-- An assertion that has not failed holds. -/
theorem of_checkArgument {b : Bool} {u : Unit} (h : checkArgument b = .ok u) : b = true := by
  unfold checkArgument at h
  cases b with
  | true => rfl
  | false => cases h

theorem of_checkArgument_error {b : Bool} {f : Fault} (h : checkArgument b = .error f) : f = .assertion := by
  unfold checkArgument at h
  cases b with
  | true => cases h
  | false => exact (Except.error.inj h).symm

/-- `copyInto` without a state. -/
def copyArgument (size : Nat) (values : List UInt16) : Except Fault (List UInt16) :=
  if size < values.length then .error (.outOfBounds size) else .ok (values ++ List.replicate (size - values.length) 0)

/-- The plan of a call, or the fault of the checks made before the request is sent. -/
def Operation.plan : Operation → Except Fault Plan
  | readCoils address quantity out => do
    checkArgument (1 ≤ quantity.toNat && quantity.toNat ≤ 2000)
    checkArgument ((quantity.toNat - 1) / 8 + 1 ≤ out.length)
    return {
      kind := .readCoils, request := ({ startingAddress := address, quantityOfCoils := quantity } : ReadCoilsPduReq),
      asserts := true, expected := .readCoils, response := ReadCoilsPduResp.new (.ofData out),
      finish := fun ec (r : ReadCoilsPduResp) => Plan.finishBytes out ec r.byteCount r.values }
  | writeSingleCoil address value =>
    let v : UInt16 := if value then 0xFF00 else 0x0000
    return {
      kind := .writeSingleCoil, request := ({ address, value := v } : WriteSingleCoilPduReq),
      asserts := WriteSingleCoilPduResp.asserts v, expected := .writeSingleCoil,
      response := ({ address, value := v } : WriteSingleCoilPduResp),
      finish := fun ec _ => (Master.checkError ec, .none) }
  | writeMultipleCoils address values => do
    checkArgument (1 ≤ values.length && values.length ≤ 1968)
    let quantityOfCoils := UInt16.ofNat values.length
    let byteCount := UInt8.ofNat ((quantityOfCoils.toNat - 1) / 8 + 1)
    let v := (List.range byteCount.toNat).map
      (fun i => Master.packCoils ((values.drop (i * 8)).take (min ((i + 1) * 8) values.length - i * 8)))
    return {
      kind := .writeMultipleCoils,
      request := ({ startingAddress := address, quantityOfCoils, byteCount, values := v } : WriteMultipleCoilsPduReq),
      asserts := WriteMultipleCoilsPduResp.asserts quantityOfCoils, expected := .writeMultipleCoils,
      response := ({ startingAddress := address, quantityOfCoils } : WriteMultipleCoilsPduResp),
      finish := fun ec _ => (Master.checkError ec, .none) }
  | readDiscreteInputs address quantity out => do
    checkArgument (1 ≤ quantity.toNat && quantity.toNat ≤ 2000)
    checkArgument ((quantity.toNat - 1) / 8 + 1 ≤ out.length)
    return {
      kind := .readDiscreteInputs,
      request := ({ startingAddress := address, quantityOfDiscreteInputs := quantity } : ReadDiscreteInputsPduReq),
      asserts := true, expected := .readDiscreteInputs, response := ReadDiscreteInputsPduResp.new (.ofData out),
      finish := fun ec (r : ReadDiscreteInputsPduResp) => Plan.finishBytes out ec r.byteCount r.values }
  | readRegisterBytes address out =>
    return {
      kind := .readHolding,
      request := ({ startingAddress := address, quantityOfRegisters := UInt16.ofNat (out.length / 2) } : ReadHoldingPduReq),
      asserts := true, expected := .readHolding, response := ReadHoldingPduResp.new (.ofData out),
      finish := fun ec (r : ReadHoldingPduResp) => Plan.finishBytes out ec r.byteCount r.values }
  | readRegisters address out =>
    let buffer : List UInt8 := List.replicate (out.length * 2) 0
    return {
      kind := .readHolding,
      request := ({ startingAddress := address, quantityOfRegisters := UInt16.ofNat (buffer.length / 2) } : ReadHoldingPduReq),
      asserts := true, expected := .readHolding, response := ReadHoldingPduResp.new (.ofData buffer),
      finish := fun ec (r : ReadHoldingPduResp) => Plan.finishRegisters out ec r.byteCount r.values }
  | writeSingleRegister address value =>
    return {
      kind := .writeSingleRegister, request := ({ address, value } : WriteSingleRegisterPduReq),
      asserts := true, expected := .writeSingleRegister, response := ({ address, value } : WriteSingleRegisterPduResp),
      finish := fun ec _ => (Master.checkError ec, .none) }
  | writeMultipleRegisters address values => do
    let quantityOfRegisters := UInt16.ofNat values.length
    let byteCount := UInt8.ofNat (quantityOfRegisters.toNat * 2)
    let v ← copyArgument quantityOfRegisters.toNat values
    return {
      kind := .writeMultipleRegisters,
      request := ({ startingAddress := address, quantityOfRegisters, byteCount, values := v } : WriteMultipleRegistersPduReq),
      asserts := WriteMultipleRegistersPduResp.asserts quantityOfRegisters, expected := .writeMultipleRegisters,
      response := ({ startingAddress := address, quantityOfRegisters } : WriteMultipleRegistersPduResp),
      finish := fun ec _ => (Master.checkError ec, .none) }
  | readWriteMultipleRegisters readAddress readValues writeAddress writeValues => do
    let writeQuantityOfRegisters := UInt16.ofNat writeValues.length
    let v ← copyArgument writeQuantityOfRegisters.toNat writeValues
    let buffer : List UInt8 := List.replicate (readValues.length * 2) 0
    return {
      kind := .readWriteMultipleRegisters,
      request := ({
        readStartingAddress := readAddress, readQuantityOfRegisters := UInt16.ofNat readValues.length,
        writeStartingAddress := writeAddress, writeQuantityOfRegisters,
        writeByteCount := UInt8.ofNat (writeQuantityOfRegisters.toNat * 2), values := v } : ReadWriteMultipleRegistersPduReq),
      asserts := true, expected := .readWriteMultipleRegisters,
      response := ReadWriteMultipleRegistersPduResp.new (.ofData buffer),
      finish := fun ec (r : ReadWriteMultipleRegistersPduResp) =>
        if failed ec then (ec, .registers readValues)
        else (ec, .registers (Master.makeRegisters r.values.data readValues.length)) }
  | readInputRegisterBytes address out =>
    return {
      kind := .readInput,
      request := ({ startingAddress := address, quantityOfRegisters := UInt16.ofNat (out.length / 2) } : ReadInputPduReq),
      asserts := true, expected := .readInput, response := ReadInputPduResp.new (.ofData out),
      finish := fun ec (r : ReadInputPduResp) => Plan.finishBytes out ec r.byteCount r.values }
  | readInputRegisters address out =>
    let buffer : List UInt8 := List.replicate (out.length * 2) 0
    return {
      kind := .readInput,
      request := ({ startingAddress := address, quantityOfRegisters := UInt16.ofNat (buffer.length / 2) } : ReadInputPduReq),
      asserts := true, expected := .readInput, response := ReadInputPduResp.new (.ofData buffer),
      finish := fun ec (r : ReadInputPduResp) => Plan.finishRegisters out ec r.byteCount r.values }

/-- An assertion of an operation is a check of its arguments, whatever the state. -/
theorem assert_eq_ofExcept {σ : Type} (b : Bool) : (assert b : Exec Fault σ Unit) = Exec.ofExcept (checkArgument b) := by
  unfold assert checkArgument
  cases b <;> rfl

/-- So is the copy of the values into a request. -/
theorem copyInto_eq_ofExcept {σ : Type} (size : Nat) (values : List UInt16) :
    (Master.copyInto size values : Exec Fault σ (List UInt16)) = Exec.ofExcept (copyArgument size values) := by
  unfold Master.copyInto copyArgument
  by_cases h : size < values.length
  · rw [if_pos h, if_pos h]
    rfl
  · rw [if_neg h, if_neg h]
    rfl

/-- An operation is the run of its plan. -/
theorem Operation.run_eq_plan {σ : Type} (T : Transport σ) (slave : UInt8) (op : Operation) :
    op.run T slave = Exec.ofExcept op.plan >>= Plan.run T slave := by
  cases op with
  | readCoils address quantity out =>
    simp only [run, plan, Plan.run, Master.readCoils, Plan.finishBytes, assert_eq_ofExcept, Exec.ofExcept_bind,
      Exec.ofExcept_pure, bind_assoc, pure_bind]
  | writeSingleCoil address value =>
    simp only [run, plan, Plan.run, Master.writeSingleCoil, Exec.ofExcept_pure, bind_assoc, pure_bind]
  | writeMultipleCoils address values =>
    simp only [run, plan, Plan.run, Master.writeMultipleCoils, assert_eq_ofExcept, Exec.ofExcept_bind,
      Exec.ofExcept_pure, bind_assoc, pure_bind]
  | readDiscreteInputs address quantity out =>
    simp only [run, plan, Plan.run, Master.readDiscreteInputs, Plan.finishBytes, assert_eq_ofExcept, Exec.ofExcept_bind,
      Exec.ofExcept_pure, bind_assoc, pure_bind]
  | readRegisterBytes address out =>
    simp only [run, plan, Plan.run, Master.readRegisterBytes, Plan.finishBytes, Exec.ofExcept_pure, bind_assoc, pure_bind]
  | readRegisters address out =>
    simp only [run, plan, Plan.run, Master.readRegisters, Master.readRegisterBytes, Plan.finishRegisters, Exec.ofExcept_pure,
      bind_assoc, pure_bind]
    refine bind_congr (fun x => ?_)
    split <;> rfl
  | writeSingleRegister address value =>
    simp only [run, plan, Plan.run, Master.writeSingleRegister, Exec.ofExcept_pure, bind_assoc, pure_bind]
  | writeMultipleRegisters address values =>
    simp only [run, plan, Plan.run, Master.writeMultipleRegisters, copyInto_eq_ofExcept, Exec.ofExcept_bind,
      Exec.ofExcept_pure, bind_assoc, pure_bind]
  | readWriteMultipleRegisters readAddress readValues writeAddress writeValues =>
    simp only [run, plan, Plan.run, Master.readWriteMultipleRegisters, copyInto_eq_ofExcept, Exec.ofExcept_bind,
      Exec.ofExcept_pure, bind_assoc, pure_bind]
    refine bind_congr (fun v => bind_congr (fun x => ?_))
    split <;> rfl
  | readInputRegisterBytes address out =>
    simp only [run, plan, Plan.run, Master.readInputRegisterBytes, Plan.finishBytes, Exec.ofExcept_pure, bind_assoc,
      pure_bind]
  | readInputRegisters address out =>
    simp only [run, plan, Plan.run, Master.readInputRegisters, Master.readInputRegisterBytes, Plan.finishRegisters,
      Exec.ofExcept_pure, bind_assoc, pure_bind]
    refine bind_congr (fun x => ?_)
    split <;> rfl

/-- An operation that passes its checks runs its plan. -/
theorem Operation.run_of_plan {σ : Type} {op : Operation} {p : Plan} (T : Transport σ) (slave : UInt8) (s : σ)
    (hp : op.plan = .ok p) : op.run T slave s = p.run T slave s := by
  rw [run_eq_plan, hp]
  rfl

/-- One that does not stops before it has sent anything. -/
theorem Operation.run_of_plan_error {σ : Type} {op : Operation} (T : Transport σ) (slave : UInt8) (s : σ) {f : Fault}
    (hp : op.plan = .error f) : op.run T slave s = (.error f, s) := by
  rw [run_eq_plan, hp]
  rfl

/-! ## How an operation ends -/

/-- Two results of an operation: the same outcome, and the same contents of the caller's span. -/
def SameResult (r r' : ErrorCode × Output) : Prop := r.1.SameOutcome r'.1 ∧ r.2 = r'.2

theorem SameResult.refl (r : ErrorCode × Output) : SameResult r r := ⟨⟨rfl, fun _ => rfl⟩, rfl⟩

/-- The contents of the caller's span when the operation is called. -/
def Operation.output : Operation → Output
  | readCoils _ _ out | readDiscreteInputs _ _ out | readRegisterBytes _ out | readInputRegisterBytes _ out => .bytes out
  | readRegisters _ out | readInputRegisters _ out | readWriteMultipleRegisters _ out _ _ => .registers out
  | writeSingleCoil _ _ | writeMultipleCoils _ _ | writeSingleRegister _ _ | writeMultipleRegisters _ _ => .none

/-- The operation compares a byte count with the size of its span in bytes, and the size is more than a byte can count. -/
def Operation.spanTooLong : Operation → Bool
  | readCoils _ _ out | readDiscreteInputs _ _ out | readRegisterBytes _ out | readInputRegisterBytes _ out => 255 < out.length
  | readRegisters _ out | readInputRegisters _ out => 255 < out.length * 2
  | _ => false

namespace Plan

/-- How a plan ends: what it makes of an error, of two error codes that are none, and of a success with the response object as it
was constructed. -/
structure Ends (p : Plan) (output : Output) (tooLong : Bool) : Prop where
  failure : ∀ ec, failed ec = true → p.finish ec p.response = (ec, output)
  success : ∀ ec ec' r, failed ec = false → failed ec' = false → SameResult (p.finish ec r) (p.finish ec' r)
  untouched : failed (p.finish ok p.response).1 = tooLong
  refused : tooLong = true → p.finish ok p.response = (makeErrorCode .invalidResponse, output)

/-- A byte counts up to 255. -/
theorem toNat_ofNat_ne_iff (n : Nat) : (UInt8.ofNat n).toNat ≠ n ↔ 255 < n := by
  rw [UInt8.toNat_ofNat']
  omega

/-- An error stays the error, and the span keeps what has been stored. -/
theorem checkByteCount_failed {ec : ErrorCode} (h : failed ec = true) (byteCount : UInt8) (values : Span) (out : List UInt8) :
    Master.checkByteCount ec byteCount values out = (ec, values.data) := by
  unfold Master.checkByteCount
  rw [if_pos h]

/-- After a success the error code before plays no part. -/
theorem checkByteCount_ok {ec : ErrorCode} (h : failed ec = false) (byteCount : UInt8) (values : Span) (out : List UInt8) :
    Master.checkByteCount ec byteCount values out =
      (if byteCount.toNat ≠ out.length then makeErrorCode .invalidResponse else ok, values.data) := by
  unfold Master.checkByteCount
  rw [h, if_neg Bool.false_ne_true]
  split <;> rfl

/-- With every error code, the span is what the response has left there. -/
theorem checkByteCount_snd (ec : ErrorCode) (byteCount : UInt8) (values : Span) (out : List UInt8) :
    (Master.checkByteCount ec byteCount values out).2 = values.data := by
  cases h : failed ec with
  | true => rw [checkByteCount_failed h]
  | false => rw [checkByteCount_ok h]

/-- The end of a read and write of registers. -/
def finishReadWrite (readValues : List UInt16) (ec : ErrorCode) (_ : UInt8) (values : Span) : ErrorCode × Output :=
  if failed ec then (ec, .registers readValues) else (ec, .registers (Master.makeRegisters values.data readValues.length))

/-- A plan that reads data into some space: its response object is one over the space, and its result is made of the byte count and
the data of the object. -/
structure ReadsData (p : Plan) (space : List UInt8) (finish : ErrorCode → UInt8 → Span → ErrorCode × Output) : Prop where
  response : p.expected.contents p.response = .data (UInt8.ofNat space.length) (.ofData space)
  finish_eq : ∀ ec r n values, p.expected.contents r = .data n values → p.finish ec r = finish ec n values

/-- A plan that writes: its response object is made of an address and a word, and its result is the error code. -/
structure WritesWords (p : Plan) (address value : UInt16) (checksCoilValue : Bool) : Prop where
  response : p.expected.contents p.response = .words address value
  checks : p.expected.checksCoilValue = checksCoilValue
  finish_eq : ∀ ec r, p.finish ec r = (Master.checkError ec, .none)

/-- A read of bytes that failed returns the error and the span as the response has left it. -/
theorem finishBytes_failed (out : List UInt8) {ec : ErrorCode} (h : failed ec = true) (n : UInt8) (values : Span) :
    finishBytes out ec n values = (ec, .bytes values.data) := by
  rw [finishBytes, checkByteCount_failed h]

/-- One that succeeded compares the byte count with the size of the span. -/
theorem finishBytes_ok (out : List UInt8) {ec : ErrorCode} (h : failed ec = false) (n : UInt8) (values : Span) :
    finishBytes out ec n values =
      (if n.toNat ≠ out.length then makeErrorCode .invalidResponse else ok, .bytes values.data) := by
  rw [finishBytes, checkByteCount_ok h]

/-- A read of registers that failed leaves the registers as they were. -/
theorem finishRegisters_failed (out : List UInt16) {ec : ErrorCode} (h : failed ec = true) (n : UInt8) (values : Span) :
    finishRegisters out ec n values = (ec, .registers out) := by
  rw [finishRegisters, checkByteCount_failed h]
  exact if_pos h

/-- One that succeeded makes registers of the bytes if there are as many as asked for. -/
theorem finishRegisters_ok (out : List UInt16) {ec : ErrorCode} (h : failed ec = false) (n : UInt8) (values : Span) :
    finishRegisters out ec n values =
      if n.toNat ≠ out.length * 2 then (makeErrorCode .invalidResponse, .registers out)
      else (ok, .registers (Master.makeRegisters values.data out.length)) := by
  rw [finishRegisters, checkByteCount_ok h, List.length_replicate]
  by_cases hn : n.toNat ≠ out.length * 2
  · rw [if_pos hn, if_pos hn]
    rfl
  · rw [if_neg hn, if_neg hn]
    rfl

/-- How a plan ends that reads into a span of bytes. -/
theorem ends_bytes {p : Plan} {out : List UInt8} (h : p.ReadsData out (finishBytes out)) :
    p.Ends (.bytes out) (255 < out.length) where
  failure ec hec := by
    rw [h.finish_eq ec _ _ _ h.response, finishBytes_failed out hec]
    rfl
  success ec ec' r hec hec' := by
    obtain ⟨n, values, hr⟩ := ResponseKind.exists_data h.response r
    rw [h.finish_eq ec _ _ _ hr, h.finish_eq ec' _ _ _ hr, finishBytes_ok out hec, finishBytes_ok out hec']
    exact .refl _
  untouched := by
    rw [h.finish_eq ok _ _ _ h.response, finishBytes_ok out rfl]
    simp only [toNat_ofNat_ne_iff]
    by_cases hlong : 255 < out.length
    · simp only [hlong, if_true, decide_true]
      rfl
    · simp only [hlong, if_false, decide_false]
      rfl
  refused hlong := by
    rw [h.finish_eq ok _ _ _ h.response, finishBytes_ok out rfl,
      if_pos ((toNat_ofNat_ne_iff _).mpr (of_decide_eq_true hlong))]
    rfl

/-- How a plan ends that reads into a buffer and makes registers of it. -/
theorem ends_registers {p : Plan} {out : List UInt16} (h : p.ReadsData (List.replicate (out.length * 2) 0) (finishRegisters out)) :
    p.Ends (.registers out) (255 < out.length * 2) where
  failure ec hec := by
    rw [h.finish_eq ec _ _ _ h.response, finishRegisters_failed out hec]
  success ec ec' r hec hec' := by
    obtain ⟨n, values, hr⟩ := ResponseKind.exists_data h.response r
    rw [h.finish_eq ec _ _ _ hr, h.finish_eq ec' _ _ _ hr, finishRegisters_ok out hec, finishRegisters_ok out hec']
    exact .refl _
  untouched := by
    rw [h.finish_eq ok _ _ _ h.response, finishRegisters_ok out rfl, List.length_replicate]
    simp only [toNat_ofNat_ne_iff]
    by_cases hlong : 255 < out.length * 2
    · simp only [hlong, if_true, decide_true]
      rfl
    · simp only [hlong, if_false, decide_false]
      rfl
  refused hlong := by
    rw [h.finish_eq ok _ _ _ h.response, finishRegisters_ok out rfl, List.length_replicate,
      if_pos ((toNat_ofNat_ne_iff _).mpr (of_decide_eq_true hlong))]

/-- How a plan ends that makes registers of the buffer whatever the byte count is. -/
theorem ends_readWrite {p : Plan} {readValues : List UInt16}
    (h : p.ReadsData (List.replicate (readValues.length * 2) 0) (finishReadWrite readValues)) :
    p.Ends (.registers readValues) false where
  failure ec hec := by
    rw [h.finish_eq ec _ _ _ h.response, finishReadWrite, if_pos hec]
  success ec ec' r hec hec' := by
    obtain ⟨n, values, hr⟩ := ResponseKind.exists_data h.response r
    rw [h.finish_eq ec _ _ _ hr, h.finish_eq ec' _ _ _ hr, finishReadWrite, finishReadWrite, hec, hec']
    exact ⟨⟨hec.trans hec'.symm, fun hf => nomatch hec.symm.trans hf⟩, rfl⟩
  untouched := by
    rw [h.finish_eq ok _ _ _ h.response]
    rfl
  refused hlong := nomatch hlong

/-- How a plan ends whose result is the error code alone. -/
theorem ends_write {p : Plan} {address value : UInt16} {checks : Bool} (h : p.WritesWords address value checks) :
    p.Ends .none false where
  failure ec hec := by
    rw [h.finish_eq, Master.checkError, if_pos hec]
  success ec ec' r hec hec' := by
    rw [h.finish_eq, h.finish_eq, Master.checkError, Master.checkError, hec, hec']
    exact .refl _
  untouched := by
    rw [h.finish_eq]
    rfl
  refused hlong := nomatch hlong

/-- How the plan of an operation is made. -/
def MadeFor (p : Plan) : Operation → Prop
  | .readCoils _ _ out | .readDiscreteInputs _ _ out | .readRegisterBytes _ out | .readInputRegisterBytes _ out =>
    p.ReadsData out (finishBytes out)
  | .readRegisters _ out | .readInputRegisters _ out =>
    p.ReadsData (List.replicate (out.length * 2) 0) (finishRegisters out)
  | .readWriteMultipleRegisters _ readValues _ _ =>
    p.ReadsData (List.replicate (readValues.length * 2) 0) (finishReadWrite readValues)
  | .writeSingleCoil address value => p.WritesWords address (if value then 0xFF00 else 0x0000) true
  | .writeSingleRegister address value => p.WritesWords address value true
  | .writeMultipleCoils address values | .writeMultipleRegisters address values =>
    p.WritesWords address (UInt16.ofNat values.length) false

end Plan

/-- A check that is followed by something has passed if the whole gives a value. -/
theorem bind_eq_ok {α β : Type} {x : Except Fault α} {f : α → Except Fault β} {b : β} (h : x >>= f = .ok b) :
    ∃ a, x = .ok a ∧ f a = .ok b := by
  cases x with
  | error e => nomatch h
  | ok a => exact ⟨a, rfl, h⟩

/-- A check that is followed by something has failed, or what follows has, if the whole gives a fault. -/
theorem bind_eq_error {α β : Type} {x : Except Fault α} {f : α → Except Fault β} {e : Fault} (h : x >>= f = .error e) :
    x = .error e ∨ ∃ a, x = .ok a ∧ f a = .error e := by
  cases x with
  | error e' =>
    obtain rfl := Except.error.inj h
    exact Or.inl rfl
  | ok a => exact Or.inr ⟨a, rfl, h⟩

/-- The function code that an operation requests. -/
def Operation.function : Operation → FunctionCode
  | readCoils _ _ _ => .readCoils
  | writeSingleCoil _ _ => .writeSingleCoil
  | writeMultipleCoils _ _ => .writeMultipleCoils
  | readDiscreteInputs _ _ _ => .readDiscreteInputs
  | readRegisterBytes _ _ | readRegisters _ _ => .readHoldingRegisters
  | writeSingleRegister _ _ => .writeSingleRegister
  | writeMultipleRegisters _ _ => .writeMultipleRegisters
  | readWriteMultipleRegisters _ _ _ _ => .readWriteMultipleRegisters
  | readInputRegisterBytes _ _ | readInputRegisters _ _ => .readInputRegisters

/-- The plan of an operation is made as its kind is, and expects the function that it requests. -/
theorem Operation.madeFor {op : Operation} {p : Plan} (h : op.plan = .ok p) :
    PduRead.fc p.expected.Pdu = op.function ∧ p.MadeFor op := by
  cases op with
  | readCoils address quantity out | readDiscreteInputs address quantity out =>
    obtain ⟨_, _, h⟩ := bind_eq_ok h
    obtain ⟨_, _, h⟩ := bind_eq_ok h
    obtain rfl := Except.ok.inj h
    exact ⟨rfl, rfl, fun _ _ _ _ hr => by cases hr; rfl⟩
  | readRegisterBytes address out | readInputRegisterBytes address out | readRegisters address out
  | readInputRegisters address out =>
    obtain rfl := Except.ok.inj h
    exact ⟨rfl, rfl, fun _ _ _ _ hr => by cases hr; rfl⟩
  | readWriteMultipleRegisters readAddress readValues writeAddress writeValues =>
    obtain ⟨_, _, h⟩ := bind_eq_ok h
    obtain rfl := Except.ok.inj h
    exact ⟨rfl, rfl, fun _ _ _ _ hr => by cases hr; rfl⟩
  | writeSingleCoil address value | writeSingleRegister address value =>
    obtain rfl := Except.ok.inj h
    exact ⟨rfl, rfl, rfl, fun _ _ => rfl⟩
  | writeMultipleCoils address values | writeMultipleRegisters address values =>
    obtain ⟨_, _, h⟩ := bind_eq_ok h
    obtain rfl := Except.ok.inj h
    exact ⟨rfl, rfl, rfl, fun _ _ => rfl⟩

/-- How the plan of an operation ends. -/
theorem Operation.ends {op : Operation} {p : Plan} (h : op.plan = .ok p) : p.Ends op.output op.spanTooLong := by
  have hmade := (madeFor h).2
  cases op with
  | readCoils _ _ out | readDiscreteInputs _ _ out | readRegisterBytes _ out | readInputRegisterBytes _ out =>
    exact Plan.ends_bytes hmade
  | readRegisters _ out | readInputRegisters _ out => exact Plan.ends_registers hmade
  | readWriteMultipleRegisters _ readValues _ _ => exact Plan.ends_readWrite hmade
  | writeSingleCoil _ _ | writeSingleRegister _ _ | writeMultipleCoils _ _ | writeMultipleRegisters _ _ =>
    exact Plan.ends_write hmade

/-- An error code that is an error is what an operation returns. -/
theorem Operation.finish_failed {op : Operation} {p : Plan} (h : op.plan = .ok p) {ec : ErrorCode} (hec : failed ec = true)
    (r : p.expected.Pdu) : (p.finish ec r).1 = ec := by
  have hmade := (madeFor h).2
  cases op with
  | readCoils _ _ out | readDiscreteInputs _ _ out | readRegisterBytes _ out | readInputRegisterBytes _ out =>
    obtain ⟨n, values, hr⟩ := ResponseKind.exists_data hmade.response r
    rw [hmade.finish_eq ec _ _ _ hr, Plan.finishBytes_failed out hec]
  | readRegisters _ out | readInputRegisters _ out =>
    obtain ⟨n, values, hr⟩ := ResponseKind.exists_data hmade.response r
    rw [hmade.finish_eq ec _ _ _ hr, Plan.finishRegisters_failed out hec]
  | readWriteMultipleRegisters _ readValues _ _ =>
    obtain ⟨n, values, hr⟩ := ResponseKind.exists_data hmade.response r
    rw [hmade.finish_eq ec _ _ _ hr, Plan.finishReadWrite, if_pos hec]
  | writeSingleCoil _ _ | writeSingleRegister _ _ | writeMultipleCoils _ _ | writeMultipleRegisters _ _ =>
    rw [hmade.finish_eq, Master.checkError, if_pos hec]

/-- So a success of an operation is one of the client. -/
theorem Operation.ok_of_finish {op : Operation} {p : Plan} (h : op.plan = .ok p) {ec : ErrorCode} {r : p.expected.Pdu}
    (hok : failed (p.finish ec r).1 = false) : failed ec = false := by
  cases hec : failed ec with
  | false => rfl
  | true =>
    rw [Operation.finish_failed h hec, hec] at hok
    cases hok

/-! ## Plans over the two transports -/

namespace Plan

/-- The request goes out and the response is waited for: the assertions hold, and the request is at most `limit` bytes. -/
def Sends (limit : Nat) (p : Plan) : Prop :=
  PduWrite.asserts p.request = true ∧ p.asserts = true ∧ (PduWrite.write p.request).length ≤ limit

instance (limit : Nat) (p : Plan) : Decidable (p.Sends limit) := inferInstanceAs (Decidable (_ ∧ _ ∧ _))

theorem Sends.mono {p : Plan} {limit limit' : Nat} (h : p.Sends limit) (hle : limit ≤ limit') : p.Sends limit' :=
  ⟨h.1, h.2.1, Nat.le_trans h.2.2 hle⟩

/-- Over a transport that sends the requests of up to `limit` bytes whose assertion holds and stops at the others, a plan that does
not send or fails the assertion of its response object ends before it reads. -/
theorem run_error {σ : Type} {T : Transport σ} {slave : UInt8} {p : Plan} {limit : Nat} {s : σ}
    (hsend : PduWrite.asserts p.request = true → (PduWrite.write p.request).length ≤ limit →
      ∃ transactionId s', T.writeRequest slave p.request s = (.ok transactionId, s'))
    (hstop : PduWrite.asserts p.request = false ∨ limit < (PduWrite.write p.request).length →
      ∃ f s', T.writeRequest slave p.request s = (.error f, s'))
    (h : ¬p.Sends limit) : ∃ f s', p.run T slave s = (.error f, s') := by
  unfold run Master.exchange
  rw [bind_assoc]
  by_cases hfit : PduWrite.asserts p.request = true ∧ (PduWrite.write p.request).length ≤ limit
  · obtain ⟨transactionId, s', hw⟩ := hsend hfit.1 hfit.2
    have hnew : p.asserts = false := by
      cases ha : p.asserts with
      | false => rfl
      | true => exact absurd ⟨hfit.1, ha, hfit.2⟩ h
    rw [Exec.bind_ok hw, hnew]
    exact ⟨_, _, rfl⟩
  · have hcannot : PduWrite.asserts p.request = false ∨ limit < (PduWrite.write p.request).length := by
      cases ha : PduWrite.asserts p.request with
      | false => exact Or.inl rfl
      | true => exact Or.inr (Nat.lt_of_not_le fun hlen => hfit ⟨ha, hlen⟩)
    obtain ⟨f, s', hw⟩ := hstop hcannot
    exact ⟨f, s', Exec.bind_error hw⟩

/-- Over TCP: the frame of the request goes out, and the rest is the reading of the response. -/
theorem run_tcp (indeterminate : UInt8) (slave : UInt8) {p : Plan} (h : p.Sends 313) (s : Tcp.Stream) :
    ∃ m, p.run (Tcp.transport indeterminate) slave s =
      (Tcp.Stream.readResponse indeterminate s.transactionId slave p.response >>= fun r => pure (p.finish r.1 r.2))
        { s with
          messageBuffer := m, transactionId := s.transactionId + 1,
          nextLayer.outgoing := s.nextLayer.outgoing ++
            ((Tcp.frameHeader s.transactionId slave (PduWrite.write p.request)).bytes ++ PduWrite.write p.request) } := by
  obtain ⟨hassert, hnew, hlen⟩ := h
  obtain ⟨m, hw⟩ := Tcp.Stream.writeRequest_ok slave s hassert hlen
  refine ⟨m, ?_⟩
  unfold run Master.exchange
  rw [bind_assoc]
  show (Tcp.Stream.writeRequest slave p.request >>= _) s = _
  rw [Exec.bind_ok hw, hnew]
  rfl

/-- Over TCP, a plan that is not sent faults. -/
theorem run_tcp_error (indeterminate : UInt8) (slave : UInt8) {p : Plan} (h : ¬p.Sends 313) (s : Tcp.Stream) :
    ∃ f s', p.run (Tcp.transport indeterminate) slave s = (.error f, s') := by
  refine run_error (fun hassert hlen => ?_) (fun hstop => ?_) h
  · obtain ⟨m, hw⟩ := Tcp.Stream.writeRequest_ok slave s hassert hlen
    exact ⟨_, _, hw⟩
  · obtain ⟨f, hw, -⟩ := Tcp.Stream.writeRequest_error slave s hstop
    exact ⟨f, s, hw⟩

/-- Over RTU: the frame of the request goes out, and the rest is the reading of the response. -/
theorem run_rtu (indeterminate : Rtu.Indeterminate) (slave : UInt8) {p : Plan} (h : p.Sends 317) (s : Rtu.Stream) :
    ∃ m, p.run (Rtu.transport indeterminate) slave s =
      (Rtu.Stream.receiveResponse indeterminate slave p.response >>= fun r => pure (p.finish r.1 r.2))
        { s with
          messageBuffer := m, transactionId := s.transactionId + 1,
          sent := s.sent ++ Rtu.frame slave (PduWrite.write p.request) } := by
  obtain ⟨hassert, hnew, hlen⟩ := h
  obtain ⟨m, hw⟩ := Rtu.Stream.writeRequest_ok slave s hassert hlen
  refine ⟨m, ?_⟩
  unfold run Master.exchange
  rw [bind_assoc]
  show (Rtu.Stream.writeRequest slave p.request >>= _) s = _
  rw [Exec.bind_ok hw, hnew]
  rfl

/-- Over RTU a plan that is not sent faults too; the limit is that of the RTU array. -/
theorem run_rtu_error (indeterminate : Rtu.Indeterminate) (slave : UInt8) {p : Plan} (h : ¬p.Sends 317) (s : Rtu.Stream) :
    ∃ f s', p.run (Rtu.transport indeterminate) slave s = (.error f, s') := by
  refine run_error (fun hassert hlen => ?_) (fun hstop => ?_) h
  · obtain ⟨m, hw⟩ := Rtu.Stream.writeRequest_ok slave s hassert hlen
    exact ⟨_, _, hw⟩
  · obtain ⟨f, hw, -⟩ := Rtu.Stream.writeRequest_error slave s hstop
    exact ⟨f, s, hw⟩

end Plan

/-- The operation gets as far as waiting for a response, over a transport that sends requests of up to `limit` bytes. -/
def Operation.Sends (op : Operation) (limit : Nat) : Prop := ∃ p, op.plan = .ok p ∧ p.Sends limit

end Mothbus
