import Mothbus.Examples.Handlers
import Mothbus.Adu.Pieces

/-!
# The callback server

`connection` of `examples/tcpserver.cpp`: a chain of `async_read_request` calls, each started by the callback of the one before. The chain
does not depend on what its handler does with a request, and has the handler as a parameter.
-/

namespace Mothbus.Examples

open ErrorLike (failed)
open Tcp

namespace Connection

/-- `connection::async_read`, without the lambda. -/
def asyncRead : Exec Fault Server Unit := Server.asyncReadRequest

/-- `connection::handle`. -/
def handle (handler : RequestHandler) (transactionId : UInt16) (slave : UInt8) : Exec Fault Server Unit := do
  let s ← Exec.state
  Exec.within (·.stream) (fun stream s => { s with stream }) (handler transactionId slave s.request)
  asyncRead

/-- The lambda of `connection::async_read`. After an error it starts no other read, and the connection is dropped. -/
def onRead (handler : RequestHandler) (c : Callback) : Exec Fault Server Unit :=
  if failed c.ec then return else handle handler c.transactionId c.slave

/-- The outstanding read is given up to `k` of the bytes that have arrived, and what the callback is invoked with is handled. -/
def readSome (indeterminate : UInt8) (handler : RequestHandler) (k : Nat) : Exec Fault PieceServer Unit := do
  let before ← Exec.state
  PieceServer.readSome indeterminate k
  let after ← Exec.state
  (after.server.calls.drop before.server.calls.length).forM (fun c => PieceServer.onServer (onRead handler c))

/-- What can happen to a connection. -/
inductive Move where
  | arrive (bytes : List UInt8)
  | readSome (indeterminate : UInt8) (k : Nat)

def move (handler : RequestHandler) : Move → Exec Fault PieceServer Unit
  | .arrive bytes => PieceServer.move (.arrive bytes)
  | .readSome indeterminate k => Connection.readSome indeterminate handler k

/-- A run of an accepted connection. -/
def run (handler : RequestHandler) (moves : List Move) : Exec Fault PieceServer Unit := do
  PieceServer.onServer asyncRead
  moves.forM (move handler)

/-- The bytes that arrive in a run. -/
def arrived (moves : List Move) : List UInt8 :=
  moves.flatMap (fun m => match m with | .arrive bytes => bytes | .readSome _ _ => [])

end Connection

end Mothbus.Examples
