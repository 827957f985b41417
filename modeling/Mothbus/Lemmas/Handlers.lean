import Mothbus.Examples.Handlers
import Mothbus.Lemmas.TcpServer
import Mothbus.Theorems.Registers

/-!
# What the handlers write

Each handler is the writing of a reply, and every reply fits the array of the stream, so that a handler sends one frame.
-/

namespace Mothbus.Examples

open Tcp

/-- The handler of the register server writes its reply, on a host of either byte order. -/
theorem registerHandler_eq (native : Endian) (registers : List UInt16) :
    registerHandler native registers = (registerReply registers).handler := by
  funext transactionId unitId req
  cases req with
  | notImplemented r => rfl
  | request k r =>
    cases k
    case readHolding =>
      simp only [registerHandler, Reply.handler, registerReply]
      by_cases hq : ¬(1 ≤ r.quantityOfRegisters.toNat ∧ r.quantityOfRegisters.toNat ≤ 125)
      · rw [if_pos hq, if_pos hq]
        rfl
      by_cases ha : r.startingAddress.toNat + r.quantityOfRegisters.toNat > registers.length
      · rw [if_neg hq, if_neg hq, if_pos ha, if_pos ha]
        rfl
      have hdst : ((registers.drop r.startingAddress.toNat).take r.quantityOfRegisters.toNat).length * 2 =
          (List.replicate (r.quantityOfRegisters.toNat * 2) (0 : UInt8)).length := by
        rw [List.length_replicate, List.length_take, List.length_drop]
        omega
      rw [if_neg hq, if_neg hq, if_neg ha, if_neg ha, memcpyMsb_eq native hdst]
      rfl
    all_goals rfl

/-- The handler of the server without data writes its reply. -/
theorem zeroHandler_eq : zeroHandler = zeroReply.handler := by
  funext transactionId unitId req
  cases req with
  | notImplemented r => rfl
  | request k r =>
    cases k
    case readHolding =>
      simp only [zeroHandler, Reply.handler, zeroReply]
      split <;> rfl
    all_goals rfl

/-- Every reply fits the array of the stream. -/
def Reply.Fits (reply : Reply) : Prop := ∀ req, (PduWrite.write (reply req)).length ≤ 313

/-- An exception is two bytes. -/
theorem length_write_exception (fc : FunctionCode) (ec : ModbusExceptionCode) :
    (PduWrite.write (exception fc ec)).length = 2 := rfl

/-- A reply with data is the data and two bytes. -/
theorem length_write_readHolding (data : List UInt8) :
    (PduWrite.write (Answer.response .readHolding (ReadHoldingPduResp.new (.ofData data)))).length = data.length + 2 :=
  (ResponseKind.length_write_of_data (k := .readHolding) rfl).trans (congrArg (· + 2) (Span.size_ofData data))

/-- A reply of the register server is at most 252 bytes. -/
theorem length_write_registerReply (registers : List UInt16) (req : PduReq) :
    (PduWrite.write (registerReply registers req)).length ≤ 252 := by
  cases req with
  | notImplemented r => exact Nat.le_of_ble_eq_true rfl
  | request k r =>
    cases k
    case readHolding =>
      simp only [registerReply]
      split
      · rw [length_write_exception]
        omega
      · split
        · rw [length_write_exception]
          omega
        · rw [length_write_readHolding, length_flatMap_writeUint16, List.length_take]
          omega
    all_goals exact Nat.le_of_ble_eq_true rfl

/-- The replies of the register server fit its array. -/
theorem registerReply_fits (registers : List UInt16) : (registerReply registers).Fits := fun req =>
  Nat.le_trans (length_write_registerReply registers req) (by decide)

/-- So do those of the server without data. -/
theorem zeroReply_fits : zeroReply.Fits := by
  intro req
  cases req with
  | notImplemented r => exact Nat.le_of_ble_eq_true rfl
  | request k r =>
    cases k
    case readHolding =>
      simp only [zeroReply]
      split
      · rw [length_write_exception]
        omega
      · rw [length_write_readHolding, List.length_replicate]
        omega
    all_goals exact Nat.le_of_ble_eq_true rfl

/-- The handler of the callback server writes its reply too. -/
theorem gatewayReadHolding_eq (transactionId : UInt16) (slave : UInt8) (req : ReadHoldingPduReq) :
    gatewayReadHolding transactionId slave req = Stream.writeResponse transactionId slave (gatewayReply slave req) := by
  unfold gatewayReadHolding gatewayReply
  split
  · rfl
  · split <;> rfl

/-- But nothing keeps that reply from being too long for the array. -/
theorem gatewayReply_long_iff (slave : UInt8) (req : ReadHoldingPduReq) :
    313 < (PduWrite.write (gatewayReply slave req)).length ↔
      slave = 255 ∧ req.startingAddress = 100 ∧ 156 ≤ req.quantityOfRegisters.toNat := by
  unfold gatewayReply
  by_cases hslave : slave = 255
  · rw [if_neg (not_not_intro hslave)]
    by_cases haddress : req.startingAddress = 100
    · rw [if_pos haddress, length_write_readHolding, List.length_replicate]
      have hlong : 313 < req.quantityOfRegisters.toNat * 2 + 2 ↔ 156 ≤ req.quantityOfRegisters.toNat := by omega
      rw [hlong]
      exact ⟨fun h => ⟨hslave, haddress, h⟩, fun h => h.2.2⟩
    · rw [if_neg haddress, length_write_exception]
      exact ⟨fun h => absurd h (by decide), fun h => absurd h.2.1 haddress⟩
  · rw [if_pos hslave, length_write_exception]
    exact ⟨fun h => absurd h (by decide), fun h => absurd h.1 hslave⟩

/-! ## The frame of a reply -/

/-- A response with the ids of its request. -/
structure Response where
  transactionId : UInt16
  unitId : UInt8
  answer : Answer

/-- The response on the wire. -/
def Response.bytes (r : Response) : List UInt8 :=
  (frameHeader r.transactionId r.unitId (PduWrite.write r.answer)).bytes ++ PduWrite.write r.answer

/-- A reply that fits is sent as one frame. -/
theorem Reply.Fits.handler_ok {reply : Reply} (h : reply.Fits) (transactionId : UInt16) (unitId : UInt8) (req : PduReq) (s : Stream) :
    ∃ m, reply.handler transactionId unitId req s = (.ok (), { s with
      messageBuffer := m,
      nextLayer.outgoing := s.nextLayer.outgoing ++ (Response.mk transactionId unitId (reply req)).bytes }) :=
  Stream.writeResponse_ok transactionId unitId s (asserts_answer _) (h req)

/-- An exception response is sent as one frame. -/
theorem writeExceptionResponse_ok (fc : FunctionCode) (ec : ModbusExceptionCode) (transactionId : UInt16) (unitId : UInt8)
    (s : Stream) :
    ∃ m, writeExceptionResponse fc ec transactionId unitId s = (.ok (), { s with
      messageBuffer := m,
      nextLayer.outgoing := s.nextLayer.outgoing ++ (Response.mk transactionId unitId (exception fc ec)).bytes }) :=
  Stream.writeResponse_ok transactionId unitId s rfl (by show 2 ≤ 313; decide)

end Mothbus.Examples
