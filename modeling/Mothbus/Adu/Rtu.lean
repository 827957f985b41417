import Mothbus.Adu.Buffer
import Mothbus.Adu.Crc

/-!
# Modbus RTU

`include/mothbus/adu/rtu.h`: requests and responses over a serial line, where a frame ends when the line falls silent. What the
line does while a call waits is a sequence of events, each a byte that arrives in time or a timer that expires first; when the
sequence is used up the line stays silent. The durations themselves are not modelled.
-/

namespace Mothbus.Rtu

open ErrorLike (ok failed)

/-- What ends a wait for one byte. -/
inductive LineEvent where
  | byte (b : UInt8)
  | timeout
  deriving DecidableEq, Repr

/-- `stream`: its array, its transaction counter and the serial line. -/
structure Stream where
  messageBuffer : Vector UInt8 320 := Vector.replicate 320 0
  line : List LineEvent := []
  sent : List UInt8 := []
  transactionId : UInt16 := 0

/-- The values the uninitialised locals of `receive_response` happen to hold: `receivedSlave`, `rcvCrcL`, `rcvCrcH` and the
function code byte of the response decoder. -/
structure Indeterminate where
  receivedSlave : UInt8
  rcvCrcL : UInt8
  rcvCrcH : UInt8
  functionCode : UInt8
  deriving DecidableEq, Repr

/-- The frame that `write_request` builds in the array: the slave id, the PDU and the checksum of both, low byte first. -/
def writeAdu {α : Type} [PduWrite α] (slave : UInt8) (request : α) (m : Vector UInt8 320) : Except Fault (Buffer 320) := do
  let sink : Buffer 320 := { messageBuffer := m }
  let sink ← sink.putAll (writeUint8 slave)
  if PduWrite.asserts request = false then throw .assertion
  let sink ← sink.putAll (PduWrite.write request)
  let crc := crc16 (sink.messageBuffer.toList.take sink.outputStart)
  let low := (crc &&& 0xff).toUInt8
  let high := ((crc >>> 8) &&& 0xff).toUInt8
  let sink ← sink.putAll (writeUint8 low)
  let sink ← sink.putAll (writeUint8 high)
  let index := sink.outputStart
  return sink.commit index

namespace Stream

/-- `write_request`. An error of the line is dropped. -/
def writeRequest {α : Type} [PduWrite α] (slave : UInt8) (request : α) : Exec Fault Stream UInt16 := do
  let s ← Exec.state
  let sink ← Exec.ofExcept (writeAdu slave request s.messageBuffer)
  Exec.update (fun s => { s with
    messageBuffer := sink.messageBuffer, sent := s.sent ++ sink.data, transactionId := s.transactionId + 1 })
  return s.transactionId

/-- `read_byte_with_timeout`: one byte at `output_start`, or none when the timer expires first. -/
def readByteWithTimeout (source : Buffer 320) : Exec Fault Stream (Nat × Buffer 320) := do
  let s ← Exec.state
  match s.line with
  | .byte b :: line =>
    Exec.update (fun s => { s with line })
    let source ← Exec.ofExcept (source.receive [b])
    Exec.update (fun s => { s with messageBuffer := source.messageBuffer })
    return (1, source)
  | .timeout :: line =>
    Exec.update (fun s => { s with line })
    return (0, source)
  | [] => return (0, source)

/-- The loop that gathers a frame until the line falls silent. Each pass takes an event off the line, so one pass more than there
are events always gets to the end. -/
def receiveRest : Nat → Buffer 320 → Exec Fault Stream (Buffer 320)
  | 0, source => return source
  | passes + 1, source => do
    let (readSize, source) ← readByteWithTimeout source
    if readSize = 0 then return source
    receiveRest passes (source.commit readSize)

/-- `receive_response`. The errors of the reads of the slave id, of the response and of the two checksum bytes are dropped. -/
def receiveResponse {α : Type} [PduRead α] (indeterminate : Indeterminate) (expectedSlave : UInt8) (out : α) :
    Exec Fault Stream (ErrorCode × α) := do
  if expectedSlave = 0 then return (ok, out)
  let s ← Exec.state
  let (readSize, source) ← readByteWithTimeout { messageBuffer := s.messageBuffer }
  if readSize = 0 then return (timedOut, out)
  let source := source.commit readSize
  let ((_, receivedSlave), source) := (readUint8 indeterminate.receivedSlave).run Buffer.source source
  if receivedSlave ≠ expectedSlave then return (makeErrorCode .slaveIdInvalid, out)
  let s ← Exec.state
  let source ← receiveRest (s.line.length + 1) source
  let ((_, out), source) := (readPduResp indeterminate.functionCode out).run Buffer.source source
  let crc := crc16 (source.messageBuffer.toList.take source.inputStart)
  let ((_, rcvCrcL), source) := (readUint8 indeterminate.rcvCrcL).run Buffer.source source
  let ((_, rcvCrcH), _) := (readUint8 indeterminate.rcvCrcH).run Buffer.source source
  if rcvCrcL ≠ (crc &&& 0xff).toUInt8 ∨ rcvCrcH ≠ ((crc >>> 8) &&& 0xff).toUInt8 then
    return (makeErrorCode .invalidResponse, out)
  return (ok, out)

/-- `read_response`. The transaction id plays no part on a serial line. -/
def readResponse {α : Type} [PduRead α] (indeterminate : Indeterminate) (_ : UInt16) (expectedSlave : UInt8) (out : α) :
    Exec Fault Stream (ErrorCode × α) :=
  receiveResponse indeterminate expectedSlave out

end Stream

end Mothbus.Rtu
