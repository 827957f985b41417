import Mothbus.Examples.Handlers

/-!
# The coroutine servers

`handle_message` of `examples/tcpserver_coroutine_with_data.cpp` and `examples/tcpserver_coroutine.cpp`, which differ in their
handler. Between its two `co_await`s the coroutine runs on its own; in them it is given the bytes it waits for in pieces, as they
arrive, and each piece is stored at once.
-/

namespace Mothbus.Examples

open ErrorLike (failed)
open Tcp

/-- A `co_await async_read(socket, source.prepare(size))` under way, with the number of bytes that it has stored. -/
structure AwaitedRead where
  source : Buffer 320
  size : Nat
  transferred : Nat := 0

/-- Store the next bytes. -/
def AwaitedRead.store (bytes : List UInt8) (r : AwaitedRead) : Except Fault AwaitedRead :=
  (Buffer.store r.source.messageBuffer (r.source.outputStart + r.transferred) bytes).map
    (fun m => { r with source.messageBuffer := m, transferred := r.transferred + bytes.length })

/-- Where the coroutine is suspended: at the read of a header, at the read of the body announced by a header, or at its end. -/
inductive Point where
  | header (r : AwaitedRead)
  | body (r : AwaitedRead) (header : MbapHeader)
  | returned

/-- The top of the loop: a new `source` over the vector. -/
def Point.top (messageBuffer : Vector UInt8 320) : Point :=
  .header { source := { messageBuffer }, size := MbapHeader.headerSize }

/-- A coroutine and its socket. The vector `message_buffer` is carried by the read under way. -/
structure Session where
  stream : Stream := {}
  point : Point := .top (Vector.replicate 320 0)

namespace Session

def onStream {α : Type} (m : Exec Fault Stream α) : Exec Fault Session α :=
  Exec.within (·.stream) (fun stream s => { s with stream }) m

def suspend (point : Point) : Exec Fault Session Unit := Exec.update (fun s => { s with point })

/-- The read under way is given up to `k` of the bytes that have arrived. -/
def transfer (k : Nat) (r : AwaitedRead) : Exec Fault Session AwaitedRead := do
  let s ← Exec.state
  let bytes := s.stream.nextLayer.incoming.take (min k (r.size - r.transferred))
  let r ← Exec.ofExcept (r.store bytes)
  Exec.update (fun s => { s with stream.nextLayer.incoming := s.stream.nextLayer.incoming.drop bytes.length })
  return r

/-- From the read of the header to the next `co_await`. The check means to refuse lengths outside 2 to 254; by the precedence of its
operators it refuses those below 2. -/
def afterHeader (r : AwaitedRead) : Exec Fault Session Unit := do
  let (header, source) := parseHeader r.source r.size
  if ¬(2 ≤ header.length.toNat) ∧ header.length.toNat ≤ 254 then
    onStream (writeExceptionResponse ⟨0⟩ .requestTooBig header.transactionId header.unitId)
    suspend (.top source.messageBuffer)
  else suspend (.body { source, size := header.length.toNat - 1 } header)

/-- From the read of the body to the next `co_await`, or to `co_return`. -/
def afterBody (indeterminate : UInt8) (handler : RequestHandler) (r : AwaitedRead) (header : MbapHeader) :
    Exec Fault Session Unit := do
  let ((ec, request), source) := parseBody indeterminate r.source r.size newRequest
  if failed ec then suspend .returned
  else
    onStream (handler header.transactionId header.unitId request)
    suspend (.top source.messageBuffer)

/-- The socket gives the read under way up to `k` bytes. When it has all it waits for, the coroutine goes on. -/
def readSome (indeterminate : UInt8) (handler : RequestHandler) (k : Nat) : Exec Fault Session Unit := do
  let s ← Exec.state
  match s.point with
  | .header r =>
    let r ← transfer k r
    if r.transferred < r.size then suspend (.header r) else afterHeader r
  | .body r header =>
    let r ← transfer k r
    if r.transferred < r.size then suspend (.body r header) else afterBody indeterminate handler r header
  | .returned => return

/-- Bytes arrive at the socket. -/
def arrive (bytes : List UInt8) : Exec Fault Session Unit :=
  Exec.update (fun s => { s with stream.nextLayer.incoming := s.stream.nextLayer.incoming ++ bytes })

/-- What can happen to a coroutine. -/
inductive Move where
  | arrive (bytes : List UInt8)
  | readSome (indeterminate : UInt8) (k : Nat)

def move (handler : RequestHandler) : Move → Exec Fault Session Unit
  | .arrive bytes => Session.arrive bytes
  | .readSome indeterminate k => Session.readSome indeterminate handler k

/-- A run of a coroutine. -/
def run (handler : RequestHandler) (moves : List Move) : Exec Fault Session Unit := moves.forM (move handler)

/-- The bytes that arrive in a run. -/
def arrived (moves : List Move) : List UInt8 :=
  moves.flatMap (fun m => match m with | .arrive bytes => bytes | .readSome _ _ => [])

end Session

end Mothbus.Examples
