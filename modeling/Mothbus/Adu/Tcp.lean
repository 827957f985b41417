import Mothbus.Adu.Buffer

/-!
# Modbus/TCP

`include/mothbus/adu/tcp.h`: the MBAP header, the two blocking calls of the client, the asynchronous request reader of the
server and its answer. A stream carries the array `m_message_buffer`, which every call reuses, and the connection: the bytes that
have arrived and not been read, and the bytes sent.
-/

namespace Mothbus.Tcp

open ErrorLike (ok failed)
open Decoder

/-- The network layer of a stream: the bytes to read, and the bytes written. -/
structure NextLayer where
  incoming : List UInt8 := []
  outgoing : List UInt8 := []
  deriving DecidableEq, Repr

/-- `mbap_header`. -/
structure MbapHeader where
  transactionId : UInt16 := 0
  protocol : UInt16 := 0
  length : UInt16 := 0
  unitId : UInt8 := 0
  deriving DecidableEq, Repr

namespace MbapHeader

def headerSize : Nat := 7
def maxAduSize : Nat := 260

/-- `is_valid_length`. -/
def isValidLength (h : MbapHeader) : Bool := 2 ≤ h.length.toNat && h.length.toNat + (headerSize - 1) ≤ maxAduSize

end MbapHeader

/-- `parse_header`: the four fields, read without a look at the errors. -/
def parseHeader {n : Nat} (source : Buffer n) (readSize : Nat) : MbapHeader × Buffer n :=
  let fields : ReadProgram ErrorCode UInt8 MbapHeader := do
    let (_, transactionId) ← readUint16 0
    let (_, protocol) ← readUint16 0
    let (_, length) ← readUint16 0
    let (_, unitId) ← readUint8 0
    return { transactionId, protocol, length, unitId }
  fields.run Buffer.source (source.commit readSize)

/-- `parse_body`. -/
def parseBody {n : Nat} (indeterminate : UInt8) (source : Buffer n) (readSize : Nat) (request : PduReq) :
    (ErrorCode × PduReq) × Buffer n :=
  (readPduReq indeterminate request).run Buffer.source (source.commit readSize)

/-- `stream`, without the reference counting: its array, its connection and its transaction counter. -/
structure Stream where
  messageBuffer : Vector UInt8 320 := Vector.replicate 320 0
  nextLayer : NextLayer := {}
  transactionId : UInt16 := 0

/-- `m_protocol`, which no call changes. -/
def protocol : UInt16 := 0

/-- The frame that `write_request` and `write_response` build in the array. The length field is written last, over its place
holder, by moving `output_start` back. -/
def writeAdu {α : Type} [PduWrite α] (transactionId : UInt16) (slave : UInt8) (pdu : α) (m : Vector UInt8 320) :
    Except Fault (Buffer 320) := do
  let sink : Buffer 320 := { messageBuffer := m }
  let sink ← sink.putAll (writeUint16 transactionId)
  let sink ← sink.putAll (writeUint16 protocol)
  let sink ← sink.putAll (writeUint16 0)
  let sink ← sink.putAll (writeUint8 slave)
  if PduWrite.asserts pdu = false then throw .assertion
  let sink ← sink.putAll (PduWrite.write pdu)
  let index := sink.outputStart
  let length := UInt16.ofNat (index - 6)
  let sink := { sink with outputStart := 4 }
  let sink ← sink.putAll (writeUint16 length)
  let sink := { sink with outputStart := index }
  return sink.commit index

namespace Stream

/-- `mothbus::write(m_next_layer, data)`, on a connection that takes all of it. -/
def send (data : List UInt8) (s : Stream) : Stream :=
  { s with nextLayer := { s.nextLayer with outgoing := s.nextLayer.outgoing ++ data } }

/-- `mothbus::read(m_next_layer, source.prepare(size))`: wait for `size` bytes; if the connection ends before, the bytes there
were are stored and an exception is thrown. -/
def receive (source : Buffer 320) (size : Nat) : Exec Fault Stream (Nat × Buffer 320) := do
  let s ← Exec.state
  let bytes := s.nextLayer.incoming.take size
  let source ← Exec.ofExcept (source.receive bytes)
  Exec.update (fun s => { s with
    messageBuffer := source.messageBuffer, nextLayer.incoming := s.nextLayer.incoming.drop size })
  if bytes.length < size then Exec.stop (.systemError endOfFile)
  else return (size, source)

/-! ## The client -/

/-- `write_request`. -/
def writeRequest {α : Type} [PduWrite α] (slave : UInt8) (request : α) : Exec Fault Stream UInt16 := do
  let s ← Exec.state
  let sink ← Exec.ofExcept (writeAdu s.transactionId slave request s.messageBuffer)
  Exec.update (fun s => { s.send sink.data with
    messageBuffer := sink.messageBuffer, transactionId := s.transactionId + 1 })
  return s.transactionId

/-- The header fields as `read_response` reads them, each read checked. -/
def readMbap : Read MbapHeader :=
  (readUint16.focus (·.transactionId) (fun v h => { h with transactionId := v })).checked <|
  (readUint16.focus (·.protocol) (fun v h => { h with protocol := v })).checked <|
  (readUint16.focus (·.length) (fun v h => { h with length := v })).checked <|
  (readUint8.focus (·.unitId) (fun v h => { h with unitId := v })).checked succeed

/-- `read_response`. -/
def readResponse {α : Type} [PduRead α] (indeterminate : UInt8) (expectedTransactionId : UInt16) (expectedSlave : UInt8)
    (out : α) : Exec Fault Stream (ErrorCode × α) := do
  if expectedSlave = 0 then return (makeErrorCode .success, out)
  let s ← Exec.state
  let (readSize, source) ← receive { messageBuffer := s.messageBuffer } MbapHeader.headerSize
  let source := source.commit readSize
  let ((ec, received), source) := (readMbap {}).run Buffer.source source
  if failed ec then return (ec, out)
  if received.transactionId ≠ expectedTransactionId then return (makeErrorCode .transactionIdInvalid, out)
  if received.protocol ≠ protocol then return (makeErrorCode .illegalProtocol, out)
  if received.unitId ≠ expectedSlave then return (makeErrorCode .slaveIdInvalid, out)
  if received.length.toNat + 6 > 255 ∨ received.length.toNat ≤ 1 then return (makeErrorCode .invalidResponse, out)
  let (readSize, source) ← receive source (received.length.toNat - 1)
  let source := source.commit readSize
  let ((ec, out), _) := (readPduResp indeterminate out).run Buffer.source source
  if failed ec then return (ec, out)
  return (makeErrorCode .success, out)

/-! ## The server's answer -/

/-- `write_response`. An error of the connection is dropped. -/
def writeResponse {α : Type} [PduWrite α] (transactionId : UInt16) (slave : UInt8) (response : α) :
    Exec Fault Stream Unit := do
  let s ← Exec.state
  let sink ← Exec.ofExcept (writeAdu transactionId slave response s.messageBuffer)
  Exec.update (fun s => { s.send sink.data with messageBuffer := sink.messageBuffer })

end Stream

/-! ## The server's request reader -/

/-- What the callback of `async_read_request` is invoked with. -/
structure Callback where
  transactionId : UInt16
  slave : UInt8
  ec : ErrorCode
  deriving DecidableEq, Repr

/-- `request_read_op`, without the references it shares with the stream and the caller. -/
structure RequestReadOp where
  source : Buffer 320
  transactionId : UInt16 := 0
  protocol : UInt16 := 0
  length : UInt16 := 0
  slave : UInt8 := 0

/-- The handler an outstanding `async_read` completes with: the lambda of `async_read_request`, or the one of
`request_read_op::parse_header`. -/
inductive Handler where
  | parseHeader (op : RequestReadOp)
  | parseBody (op : RequestReadOp)

def Handler.op : Handler → RequestReadOp
  | .parseHeader op => op
  | .parseBody op => op

def Handler.withSource (source : Buffer 320) : Handler → Handler
  | .parseHeader op => .parseHeader { op with source }
  | .parseBody op => .parseBody { op with source }

/-- An outstanding `async_read`: how many bytes it waits for and the handler it calls. -/
structure PendingRead where
  size : Nat
  handler : Handler

/-- A server: a stream, the caller's request variable, the outstanding read if there is one, and the invocations of the callback
so far. -/
structure Server where
  stream : Stream := {}
  request : PduReq := .request .readCoils ({} : ReadCoilsPduReq)
  pending : Option PendingRead := none
  calls : List Callback := []

namespace Server

/-- `async_read_request`. -/
def asyncReadRequest : Exec Fault Server Unit :=
  Exec.update (fun s => { s with
    pending := some ⟨MbapHeader.headerSize, .parseHeader { source := { messageBuffer := s.stream.messageBuffer } }⟩ })

/-- Invoke the callback. -/
def callback (transactionId : UInt16) (slave : UInt8) (ec : ErrorCode) : Exec Fault Server Unit :=
  Exec.update (fun s => { s with calls := s.calls ++ [⟨transactionId, slave, ec⟩] })

/-- `request_read_op::parse_header`. -/
def opParseHeader (op : RequestReadOp) (size : Nat) : Exec Fault Server Unit :=
  let (header, source) := Tcp.parseHeader op.source size
  if header.isValidLength = false then callback 0 0 (makeErrorCode .requestTooBig)
  else
    let op : RequestReadOp := {
      source, transactionId := header.transactionId, protocol := header.protocol, length := header.length,
      slave := header.unitId }
    Exec.update (fun s => { s with pending := some ⟨header.length.toNat - 1, .parseBody op⟩ })

/-- `request_read_op::parse_body`. -/
def opParseBody (indeterminate : UInt8) (op : RequestReadOp) (size : Nat) : Exec Fault Server Unit := do
  let s ← Exec.state
  let ((ec, request), _) := Tcp.parseBody indeterminate op.source size s.request
  Exec.update (fun s => { s with request })
  callback op.transactionId op.slave ec

/-- A handler, called with the error and the size of its read. -/
def handle (indeterminate : UInt8) (handler : Handler) (ec : ErrorCode) (readSize : Nat) : Exec Fault Server Unit :=
  if failed ec then callback 0 0 ec
  else
    match handler with
    | .parseHeader op => opParseHeader op readSize
    | .parseBody op => opParseBody indeterminate op readSize

/-- The outstanding read completes: with the bytes it waits for, or, when the connection ends before they are there, with an
error. -/
def complete (indeterminate : UInt8) : Exec Fault Server Unit := do
  let s ← Exec.state
  match s.pending with
  | none => return
  | some ⟨size, handler⟩ =>
    let bytes := s.stream.nextLayer.incoming.take size
    -- the operation's buffer refers to the stream's array
    let source := { handler.op.source with messageBuffer := s.stream.messageBuffer }
    let source ← Exec.ofExcept (source.receive bytes)
    Exec.update (fun s => { s with
      pending := none, stream.messageBuffer := source.messageBuffer,
      stream.nextLayer.incoming := s.stream.nextLayer.incoming.drop size })
    if bytes.length < size then handle indeterminate handler endOfFile bytes.length
    else handle indeterminate (handler.withSource source) ok size

/-- One call of `async_read_request`, run until nothing is outstanding: the header read and, unless that ended the call, the body
read. -/
def readRequest (indeterminate : UInt8) : Exec Fault Server Unit := do
  asyncReadRequest
  complete indeterminate
  complete indeterminate

end Server

end Mothbus.Tcp
