import Mothbus.Adu.Link
import Mothbus.Util

/-!
# The request handlers of the example servers

`examples/tcpserver_coroutine_with_data.cpp`, `examples/tcpserver_coroutine.cpp` and `examples/tcpserver.cpp`: what `std::visit` does
with a request that has been read. Each handler writes one response on the stream, under the ids of the request.
-/

namespace Mothbus.Examples

open Tcp

/-- A handler, constructed with the transaction id and the unit id of a request and applied to the request. -/
abbrev RequestHandler : Type := UInt16 → UInt8 → PduReq → Exec Fault Stream Unit

/-- `pdu_req request;`: the first alternative, its fields at their defaults. -/
def newRequest : PduReq := .request .readCoils ({} : ReadCoilsPduReq)

/-- `write_exception_response`. -/
def writeExceptionResponse (fc : FunctionCode) (ec : ModbusExceptionCode) (transactionId : UInt16) (unitId : UInt8) :
    Exec Fault Stream Unit :=
  Stream.writeResponse transactionId unitId ({ fc, exceptionCode := ec } : PduExceptionResp)

/-- `s_holding_registers`. -/
def holdingRegisters : List UInt16 := List.replicate 200 0

/-- `reqest_handler` of `tcpserver_coroutine_with_data.cpp`, on the registers as they are when it runs. -/
def registerHandler (native : Endian) (registers : List UInt16) : RequestHandler
  | transactionId, unitId, .request .readHolding (req : ReadHoldingPduReq) => do
    -- check quantity of registers
    if ¬(1 ≤ req.quantityOfRegisters.toNat ∧ req.quantityOfRegisters.toNat ≤ 125) then
      writeExceptionResponse .readHoldingRegisters .illegalDataValue transactionId unitId
    -- check address
    else if req.startingAddress.toNat + req.quantityOfRegisters.toNat > registers.length then
      writeExceptionResponse .readHoldingRegisters .illegalDataAddress transactionId unitId
    else
      let regs := List.replicate (req.quantityOfRegisters.toNat * 2) 0
      let regs ← Exec.ofExcept (memcpyMsb native regs
        ((registers.drop req.startingAddress.toNat).take req.quantityOfRegisters.toNat))
      Stream.writeResponse transactionId unitId (ReadHoldingPduResp.new (.ofData regs))
  | transactionId, unitId, .request k _ => writeExceptionResponse (PduRead.fc k.Pdu) .illegalFunction transactionId unitId
  | transactionId, unitId, .notImplemented r => writeExceptionResponse ⟨r.fc⟩ .illegalFunction transactionId unitId

/-- `reqest_handler` of `tcpserver_coroutine.cpp`. -/
def zeroHandler : RequestHandler
  | transactionId, unitId, .request .readHolding (req : ReadHoldingPduReq) =>
    -- check quantity of registers
    if ¬(1 ≤ req.quantityOfRegisters.toNat ∧ req.quantityOfRegisters.toNat ≤ 125) then
      writeExceptionResponse .readHoldingRegisters .illegalDataValue transactionId unitId
    else
      let regs := List.replicate (req.quantityOfRegisters.toNat * 2) 0
      Stream.writeResponse transactionId unitId (ReadHoldingPduResp.new (.ofData regs))
  | transactionId, unitId, .request k _ => writeExceptionResponse (PduRead.fc k.Pdu) .illegalFunction transactionId unitId
  | transactionId, unitId, .notImplemented r => writeExceptionResponse ⟨r.fc⟩ .illegalFunction transactionId unitId

/-- `req_handler::operator()(read_holding_pdu_req&)` of `tcpserver.cpp`. -/
def gatewayReadHolding (transactionId : UInt16) (slave : UInt8) (req : ReadHoldingPduReq) : Exec Fault Stream Unit :=
  if slave ≠ 255 then
    writeExceptionResponse .readHoldingRegisters .gatewayPathUnavailable transactionId slave
  else if req.startingAddress = 100 then
    let regs := List.replicate (req.quantityOfRegisters.toNat * 2) 0
    Stream.writeResponse transactionId slave (ReadHoldingPduResp.new (.ofData regs))
  else writeExceptionResponse .readHoldingRegisters .illegalDataAddress transactionId slave

/-! ## Replies -/

/-- What a handler answers a request with, as a function of the request. -/
abbrev Reply : Type := PduReq → Answer

/-- The handler that writes the reply. -/
def Reply.handler (reply : Reply) : RequestHandler := fun transactionId unitId request =>
  Stream.writeResponse transactionId unitId (reply request)

/-- An exception response. -/
def exception (fc : FunctionCode) (ec : ModbusExceptionCode) : Answer := .exception { fc, exceptionCode := ec }

/-- What the register server answers: the registers asked for, most significant byte first, or an exception. -/
def registerReply (registers : List UInt16) : Reply
  | .request .readHolding (req : ReadHoldingPduReq) =>
    if ¬(1 ≤ req.quantityOfRegisters.toNat ∧ req.quantityOfRegisters.toNat ≤ 125) then
      exception .readHoldingRegisters .illegalDataValue
    else if req.startingAddress.toNat + req.quantityOfRegisters.toNat > registers.length then
      exception .readHoldingRegisters .illegalDataAddress
    else .response .readHolding (ReadHoldingPduResp.new
      (.ofData (((registers.drop req.startingAddress.toNat).take req.quantityOfRegisters.toNat).flatMap writeUint16)))
  | .request k _ => exception (PduRead.fc k.Pdu) .illegalFunction
  | .notImplemented r => exception ⟨r.fc⟩ .illegalFunction

/-- What the server without data answers. -/
def zeroReply : Reply
  | .request .readHolding (req : ReadHoldingPduReq) =>
    if ¬(1 ≤ req.quantityOfRegisters.toNat ∧ req.quantityOfRegisters.toNat ≤ 125) then
      exception .readHoldingRegisters .illegalDataValue
    else .response .readHolding (ReadHoldingPduResp.new (.ofData (List.replicate (req.quantityOfRegisters.toNat * 2) 0)))
  | .request k _ => exception (PduRead.fc k.Pdu) .illegalFunction
  | .notImplemented r => exception ⟨r.fc⟩ .illegalFunction

/-- What the callback server answers a request for holding registers with: zeros from address 100 on behind unit 255. -/
def gatewayReply (slave : UInt8) (req : ReadHoldingPduReq) : Answer :=
  if slave ≠ 255 then exception .readHoldingRegisters .gatewayPathUnavailable
  else if req.startingAddress = 100 then
    .response .readHolding (ReadHoldingPduResp.new (.ofData (List.replicate (req.quantityOfRegisters.toNat * 2) 0)))
  else exception .readHoldingRegisters .illegalDataAddress

end Mothbus.Examples
