import Mothbus.Adu.Serving
import Mothbus.Library.Logged

/-!
# What the receive paths ask of the buffer

`read_response`, `async_read_request` and `request_read_op` once more, with a note of every `prepare`, `commit` and `get` of the buffer.
`length - 1` is computed in `int` and can be negative; here it is an integer until it is used.
-/

namespace Mothbus

open ErrorLike (failed)

/-- An operation of a buffer of `n` bytes: `prepare` with the number asked for, `commit`, and `get` with the error it returns. -/
inductive BufferEvent (n : Nat) where
  | prepare (before : Buffer n) (size : Int)
  | commit (after : Buffer n)
  | get (before : Buffer n) (ec : ErrorCode) (after : Buffer n)

namespace Observed

variable {n : Nat} {σ α : Type}

/-- `commit`. -/
def commit (k : Nat) (b : Buffer n) : Logged Fault σ (BufferEvent n) (Buffer n) := do
  Logged.note [.commit (b.commit k)]
  return b.commit k

/-- Every `get` of a program that reads from a buffer. -/
def gets (p : ReadProgram ErrorCode UInt8 α) (b : Buffer n) : List (BufferEvent n) :=
  (p.visits Buffer.source b).map (fun v => .get v.1 v.2.1 v.2.2)

/-- Run a program that reads from a buffer. -/
def runSource (p : ReadProgram ErrorCode UInt8 α) (b : Buffer n) : Logged Fault σ (BufferEvent n) (α × Buffer n) := do
  Logged.note (gets p b)
  return p.run Buffer.source b

end Observed

namespace Tcp.Observed

open Mothbus.Observed

/-- A computation whose use of the buffer is noted. -/
abbrev Noted (σ α : Type) : Type := Logged Fault σ (BufferEvent 320) α

/-! ## The client -/

/-- `mothbus::read(m_next_layer, source.prepare(size))`. -/
def receive (source : Buffer 320) (size : Int) : Noted Stream (Nat × Buffer 320) := do
  Logged.note [.prepare source size]
  Logged.quiet (Stream.receive source size.toNat)

/-- `read_response`. -/
def readResponse {α : Type} [PduRead α] (indeterminate : UInt8) (expectedTransactionId : UInt16) (expectedSlave : UInt8)
    (out : α) : Noted Stream (ErrorCode × α) := do
  if expectedSlave = 0 then return (makeErrorCode .success, out)
  let s ← Logged.quiet Exec.state
  let (readSize, source) ← receive { messageBuffer := s.messageBuffer } MbapHeader.headerSize
  let source ← commit readSize source
  let ((ec, received), source) ← runSource (Stream.readMbap {}) source
  if failed ec then return (ec, out)
  if received.transactionId ≠ expectedTransactionId then return (makeErrorCode .transactionIdInvalid, out)
  if received.protocol ≠ protocol then return (makeErrorCode .illegalProtocol, out)
  if received.unitId ≠ expectedSlave then return (makeErrorCode .slaveIdInvalid, out)
  if received.length.toNat + 6 > 255 ∨ received.length.toNat ≤ 1 then return (makeErrorCode .invalidResponse, out)
  let (readSize, source) ← receive source ((received.length.toNat : Int) - 1)
  let source ← commit readSize source
  let ((ec, out), _) ← runSource (readPduResp indeterminate out) source
  if failed ec then return (ec, out)
  return (makeErrorCode .success, out)

/-! ## The server -/

/-- `async_read_request`. -/
def asyncReadRequest : Noted Server Unit := do
  let s ← Logged.quiet Exec.state
  Logged.note [.prepare { messageBuffer := s.stream.messageBuffer } MbapHeader.headerSize]
  Logged.quiet Server.asyncReadRequest

/-- `parse_header`. -/
def parseHeader (source : Buffer 320) (readSize : Nat) : Noted Server (MbapHeader × Buffer 320) := do
  let source ← commit readSize source
  let fields : ReadProgram ErrorCode UInt8 MbapHeader := do
    let (_, transactionId) ← readUint16 0
    let (_, protocol) ← readUint16 0
    let (_, length) ← readUint16 0
    let (_, unitId) ← readUint8 0
    return { transactionId, protocol, length, unitId }
  runSource fields source

/-- `request_read_op::parse_header`. -/
def opParseHeader (op : RequestReadOp) (size : Nat) : Noted Server Unit := do
  let (header, source) ← parseHeader op.source size
  if header.isValidLength = false then Logged.quiet (Server.callback 0 0 (makeErrorCode .requestTooBig))
  else
    let op : RequestReadOp := {
      source, transactionId := header.transactionId, protocol := header.protocol, length := header.length,
      slave := header.unitId }
    let length : Int := header.length.toNat
    Logged.note [.prepare source (length - 1)]
    Logged.quiet (Exec.update (fun s => { s with pending := some ⟨(length - 1).toNat, .parseBody op⟩ }))

/-- `parse_body`. -/
def parseBody (indeterminate : UInt8) (source : Buffer 320) (readSize : Nat) (request : PduReq) :
    Noted Server ((ErrorCode × PduReq) × Buffer 320) := do
  let source ← commit readSize source
  runSource (readPduReq indeterminate request) source

/-- `request_read_op::parse_body`. -/
def opParseBody (indeterminate : UInt8) (op : RequestReadOp) (size : Nat) : Noted Server Unit := do
  let s ← Logged.quiet Exec.state
  let ((ec, request), _) ← parseBody indeterminate op.source size s.request
  Logged.quiet (Exec.update (fun s => { s with request }))
  Logged.quiet (Server.callback op.transactionId op.slave ec)

/-- A handler, called with the error and the size of its read. -/
def handle (indeterminate : UInt8) (handler : Handler) (ec : ErrorCode) (readSize : Nat) : Noted Server Unit :=
  if failed ec then Logged.quiet (Server.callback 0 0 ec)
  else
    match handler with
    | .parseHeader op => opParseHeader op readSize
    | .parseBody op => opParseBody indeterminate op readSize

/-- The outstanding read completes. -/
def complete (indeterminate : UInt8) : Noted Server Unit := do
  let s ← Logged.quiet Exec.state
  match s.pending with
  | none => return
  | some ⟨size, handler⟩ =>
    let bytes := s.stream.nextLayer.incoming.take size
    let source := { handler.op.source with messageBuffer := s.stream.messageBuffer }
    let source ← Logged.quiet (Exec.ofExcept (source.receive bytes))
    Logged.quiet (Exec.update (fun s => { s with
      pending := none, stream.messageBuffer := source.messageBuffer,
      stream.nextLayer.incoming := s.stream.nextLayer.incoming.drop size }))
    if bytes.length < size then handle indeterminate handler endOfFile bytes.length
    else handle indeterminate (handler.withSource source) ErrorLike.ok size

/-- What happens to a server. -/
def move : Move → Noted Server Unit
  | .call => do
    let s ← Logged.quiet Exec.state
    if s.pending.isSome then return
    asyncReadRequest
  | .complete indeterminate => complete indeterminate
  | m => Logged.quiet (Server.move m)

/-- A run of a server. -/
def run (moves : List Move) : Noted Server Unit := moves.forM move

end Tcp.Observed

end Mothbus
