import Mothbus.Adu.Tcp
import Mothbus.Adu.Rtu

/-!
# The master

`include/mothbus/adu/master.h`: `master_base`, the operations of a client over either transport. An operation takes the contents
of the caller's output span and gives back the error code and the contents the span then has.
-/

namespace Mothbus

open ErrorLike (ok failed)

/-- The two calls `master_base` makes on its stream. -/
structure Transport (σ : Type) where
  writeRequest : {α : Type} → [PduWrite α] → UInt8 → α → Exec Fault σ UInt16
  readResponse : {α : Type} → [PduRead α] → UInt16 → UInt8 → α → Exec Fault σ (ErrorCode × α)

/-- `tcp::stream` as the stream of a master. -/
def Tcp.transport (indeterminate : UInt8) : Transport Tcp.Stream where
  writeRequest := Tcp.Stream.writeRequest
  readResponse := Tcp.Stream.readResponse indeterminate

/-- `rtu::stream` as the stream of a master. -/
def Rtu.transport (indeterminate : Rtu.Indeterminate) : Transport Rtu.Stream where
  writeRequest := Rtu.Stream.writeRequest
  readResponse := Rtu.Stream.readResponse indeterminate

namespace Master

variable {σ : Type} (T : Transport σ)

/-- The part all operations share: send the request, construct the response object (with the assertion of its constructor),
read the response into it. -/
def exchange {α β : Type} [PduWrite α] [PduRead β] (slave : UInt8) (req : α) (asserts : Bool) (resp : β) :
    Exec Fault σ (ErrorCode × β) := do
  let transactionId ← T.writeRequest slave req
  assert asserts
  T.readResponse transactionId slave resp

/-- The end of the operations that read into a span of bytes: after a success the byte count must be the size of the span. -/
def checkByteCount (ec : ErrorCode) (byteCount : UInt8) (values : Span) (out : List UInt8) : ErrorCode × List UInt8 :=
  if failed ec then (ec, values.data)
  else if byteCount.toNat ≠ out.length then (makeErrorCode .invalidResponse, values.data)
  else (ok, values.data)

/-- The end of the operations that write: `if (!!ec) return ec; return{};`. -/
def checkError (ec : ErrorCode) : ErrorCode := if failed ec then ec else ok

/-- `detail::make_uint16`. -/
def makeUint16 (b1 b2 : UInt8) : UInt16 := (b1.toUInt16 <<< 8) + b2.toUInt16

/-- The loop that turns received bytes into registers, `out[i] = make_uint16(buffer[2 * i], buffer[2 * i + 1])`. -/
def makeRegisters (buffer : List UInt8) (n : Nat) : List UInt16 :=
  (List.range n).map (fun i => makeUint16 (buffer.getD (2 * i) 0) (buffer.getD (2 * i + 1) 0))

/-- `read_coils`. -/
def readCoils (slave : UInt8) (address quantity : UInt16) (out : List UInt8) : Exec Fault σ (ErrorCode × List UInt8) := do
  assert (1 ≤ quantity.toNat && quantity.toNat ≤ 2000)
  assert ((quantity.toNat - 1) / 8 + 1 ≤ out.length)
  let req : ReadCoilsPduReq := { startingAddress := address, quantityOfCoils := quantity }
  let (ec, resp) ← exchange T slave req true (ReadCoilsPduResp.new (.ofData out))
  return checkByteCount ec resp.byteCount resp.values out

/-- `write_single_coil`. -/
def writeSingleCoil (slave : UInt8) (address : UInt16) (value : Bool) : Exec Fault σ ErrorCode := do
  let req : WriteSingleCoilPduReq := { address, value := if value then 0xFF00 else 0x0000 }
  let resp : WriteSingleCoilPduResp := { address := req.address, value := req.value }
  let (ec, _) ← exchange T slave req (WriteSingleCoilPduResp.asserts req.value) resp
  return checkError ec

/-- The packing of one byte of coils: coil `c` is shifted to bit `c` and added. -/
def packCoils (coils : List UInt8) : UInt8 :=
  coils.zipIdx.foldl (fun pack p => pack + UInt8.ofNat (p.1.toNat <<< p.2)) 0

/-- `write_multiple_coils`. -/
def writeMultipleCoils (slave : UInt8) (address : UInt16) (values : List UInt8) : Exec Fault σ ErrorCode := do
  assert (1 ≤ values.length && values.length ≤ 1968)
  let quantityOfCoils := UInt16.ofNat values.length
  let byteCount := UInt8.ofNat ((quantityOfCoils.toNat - 1) / 8 + 1)
  let v := (List.range byteCount.toNat).map
    (fun i => packCoils ((values.drop (i * 8)).take (min ((i + 1) * 8) values.length - i * 8)))
  let req : WriteMultipleCoilsPduReq := { startingAddress := address, quantityOfCoils, byteCount, values := v }
  let resp : WriteMultipleCoilsPduResp := { startingAddress := req.startingAddress, quantityOfCoils := req.quantityOfCoils }
  let (ec, _) ← exchange T slave req (WriteMultipleCoilsPduResp.asserts req.quantityOfCoils) resp
  return checkError ec

/-- `read_discrete_inputs`. -/
def readDiscreteInputs (slave : UInt8) (address quantity : UInt16) (out : List UInt8) :
    Exec Fault σ (ErrorCode × List UInt8) := do
  assert (1 ≤ quantity.toNat && quantity.toNat ≤ 2000)
  assert ((quantity.toNat - 1) / 8 + 1 ≤ out.length)
  let req : ReadDiscreteInputsPduReq := { startingAddress := address, quantityOfDiscreteInputs := quantity }
  let (ec, resp) ← exchange T slave req true (ReadDiscreteInputsPduResp.new (.ofData out))
  return checkByteCount ec resp.byteCount resp.values out

/-- `read_registers(slave, address, span<byte>)`. -/
def readRegisterBytes (slave : UInt8) (address : UInt16) (out : List UInt8) : Exec Fault σ (ErrorCode × List UInt8) := do
  let req : ReadHoldingPduReq := { startingAddress := address, quantityOfRegisters := UInt16.ofNat (out.length / 2) }
  let (ec, resp) ← exchange T slave req true (ReadHoldingPduResp.new (.ofData out))
  return checkByteCount ec resp.byteCount resp.values out

/-- `read_registers(slave, address, span<uint16_t>)`. -/
def readRegisters (slave : UInt8) (address : UInt16) (out : List UInt16) : Exec Fault σ (ErrorCode × List UInt16) := do
  let (ec, buffer) ← readRegisterBytes T slave address (List.replicate (out.length * 2) 0)
  if failed ec then return (ec, out)
  return (ec, makeRegisters buffer out.length)

/-- `write_single_register`. -/
def writeSingleRegister (slave : UInt8) (address value : UInt16) : Exec Fault σ ErrorCode := do
  let req : WriteSingleRegisterPduReq := { address, value }
  let resp : WriteSingleRegisterPduResp := { address := req.address, value := req.value }
  let (ec, _) ← exchange T slave req true resp
  return checkError ec

/-- `resize(size)` of an empty vector and `std::ranges::copy` of a span over it: more values than fit are stored outside. -/
def copyInto (size : Nat) (values : List UInt16) : Exec Fault σ (List UInt16) :=
  if size < values.length then Exec.stop (.outOfBounds size)
  else return values ++ List.replicate (size - values.length) 0

/-- `write_multiple_registers`. -/
def writeMultipleRegisters (slave : UInt8) (address : UInt16) (values : List UInt16) : Exec Fault σ ErrorCode := do
  let quantityOfRegisters := UInt16.ofNat values.length
  let byteCount := UInt8.ofNat (quantityOfRegisters.toNat * 2)
  let values ← copyInto quantityOfRegisters.toNat values
  let req : WriteMultipleRegistersPduReq :=
    { startingAddress := address, quantityOfRegisters, byteCount, values }
  let resp : WriteMultipleRegistersPduResp :=
    { startingAddress := req.startingAddress, quantityOfRegisters := req.quantityOfRegisters }
  let (ec, _) ← exchange T slave req (WriteMultipleRegistersPduResp.asserts req.quantityOfRegisters) resp
  return checkError ec

/-- `read_write_multiple_registers`. -/
def readWriteMultipleRegisters (slave : UInt8) (readAddress : UInt16) (readValues : List UInt16) (writeAddress : UInt16)
    (writeValues : List UInt16) : Exec Fault σ (ErrorCode × List UInt16) := do
  let writeQuantityOfRegisters := UInt16.ofNat writeValues.length
  let values ← copyInto writeQuantityOfRegisters.toNat writeValues
  let req : ReadWriteMultipleRegistersPduReq := {
    readStartingAddress := readAddress, readQuantityOfRegisters := UInt16.ofNat readValues.length,
    writeStartingAddress := writeAddress, writeQuantityOfRegisters,
    writeByteCount := UInt8.ofNat (writeQuantityOfRegisters.toNat * 2), values }
  let buffer := List.replicate (readValues.length * 2) 0
  let (ec, resp) ← exchange T slave req true (ReadWriteMultipleRegistersPduResp.new (.ofData buffer))
  if failed ec then return (ec, readValues)
  return (ec, makeRegisters resp.values.data readValues.length)

/-- `read_input_registers(slave, address, span<byte>)`. -/
def readInputRegisterBytes (slave : UInt8) (address : UInt16) (out : List UInt8) :
    Exec Fault σ (ErrorCode × List UInt8) := do
  let req : ReadInputPduReq := { startingAddress := address, quantityOfRegisters := UInt16.ofNat (out.length / 2) }
  let (ec, resp) ← exchange T slave req true (ReadInputPduResp.new (.ofData out))
  return checkByteCount ec resp.byteCount resp.values out

/-- `read_input_registers(slave, address, span<uint16_t>)`. -/
def readInputRegisters (slave : UInt8) (address : UInt16) (out : List UInt16) :
    Exec Fault σ (ErrorCode × List UInt16) := do
  let (ec, buffer) ← readInputRegisterBytes T slave address (List.replicate (out.length * 2) 0)
  if failed ec then return (ec, out)
  return (ec, makeRegisters buffer out.length)

end Master

/-! ## The operations as one type -/

/-- A call of an operation of `master_base`, with its arguments; an output span is given by its contents. -/
inductive Operation where
  | readCoils (address quantity : UInt16) (out : List UInt8)
  | writeSingleCoil (address : UInt16) (value : Bool)
  | writeMultipleCoils (address : UInt16) (values : List UInt8)
  | readDiscreteInputs (address quantity : UInt16) (out : List UInt8)
  | readRegisterBytes (address : UInt16) (out : List UInt8)
  | readRegisters (address : UInt16) (out : List UInt16)
  | writeSingleRegister (address value : UInt16)
  | writeMultipleRegisters (address : UInt16) (values : List UInt16)
  | readWriteMultipleRegisters (readAddress : UInt16) (readValues : List UInt16) (writeAddress : UInt16)
      (writeValues : List UInt16)
  | readInputRegisterBytes (address : UInt16) (out : List UInt8)
  | readInputRegisters (address : UInt16) (out : List UInt16)
  deriving DecidableEq, Repr

/-- The contents of the caller's output span, for the operations that have one. -/
inductive Output where
  | none
  | bytes (out : List UInt8)
  | registers (out : List UInt16)
  deriving DecidableEq, Repr

/-- Call an operation. -/
def Operation.run {σ : Type} (T : Transport σ) (slave : UInt8) : Operation → Exec Fault σ (ErrorCode × Output)
  | readCoils address quantity out => do
    let (ec, out) ← Master.readCoils T slave address quantity out
    return (ec, .bytes out)
  | writeSingleCoil address value => do
    let ec ← Master.writeSingleCoil T slave address value
    return (ec, .none)
  | writeMultipleCoils address values => do
    let ec ← Master.writeMultipleCoils T slave address values
    return (ec, .none)
  | readDiscreteInputs address quantity out => do
    let (ec, out) ← Master.readDiscreteInputs T slave address quantity out
    return (ec, .bytes out)
  | readRegisterBytes address out => do
    let (ec, out) ← Master.readRegisterBytes T slave address out
    return (ec, .bytes out)
  | readRegisters address out => do
    let (ec, out) ← Master.readRegisters T slave address out
    return (ec, .registers out)
  | writeSingleRegister address value => do
    let ec ← Master.writeSingleRegister T slave address value
    return (ec, .none)
  | writeMultipleRegisters address values => do
    let ec ← Master.writeMultipleRegisters T slave address values
    return (ec, .none)
  | readWriteMultipleRegisters readAddress readValues writeAddress writeValues => do
    let (ec, out) ← Master.readWriteMultipleRegisters T slave readAddress readValues writeAddress writeValues
    return (ec, .registers out)
  | readInputRegisterBytes address out => do
    let (ec, out) ← Master.readInputRegisterBytes T slave address out
    return (ec, .bytes out)
  | readInputRegisters address out => do
    let (ec, out) ← Master.readInputRegisters T slave address out
    return (ec, .registers out)

end Mothbus
