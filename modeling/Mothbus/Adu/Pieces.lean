import Mothbus.Adu.Serving

/-!
# A server that is given its bytes in pieces

`mothbus::async_read` is a composed operation: it stores the bytes of each `async_read_some` as they come, and calls its handler when it
has all it waits for. `Server.complete` does all of that at once. Here a piece is stored when it is there, into the array of the stream,
and in between answers can be written into the same array.
-/

namespace Mothbus.Tcp

open ErrorLike (ok)

/-- A server, and how many bytes its outstanding read has stored. -/
structure PieceServer where
  server : Server := {}
  transferred : Nat := 0

/-- What can happen to it. -/
inductive PieceMove where
  | call
  | arrive (bytes : List UInt8)
  | readSome (indeterminate : UInt8) (k : Nat)
  | close (indeterminate : UInt8)
  | answer (transactionId : UInt16) (slave : UInt8) (response : Answer)

namespace PieceServer

def onServer {α : Type} (m : Exec Fault Server α) : Exec Fault PieceServer α :=
  Exec.within (·.server) (fun server s => { s with server }) m

/-- The outstanding read stores up to `k` of the bytes that have arrived, behind those it has stored. -/
def storeSome (p : PendingRead) (k : Nat) : Exec Fault PieceServer Unit := do
  let s ← Exec.state
  let bytes := s.server.stream.nextLayer.incoming.take (min k (p.size - s.transferred))
  let m ← Exec.ofExcept (Buffer.store s.server.stream.messageBuffer (p.handler.op.source.outputStart + s.transferred) bytes)
  Exec.update (fun s => { s with
    server.stream.messageBuffer := m,
    server.stream.nextLayer.incoming := s.server.stream.nextLayer.incoming.drop bytes.length,
    transferred := s.transferred + bytes.length })

/-- The outstanding read is over, and its handler is called. -/
def finish (indeterminate : UInt8) (p : PendingRead) (ec : ErrorCode) : Exec Fault PieceServer Unit := do
  let s ← Exec.state
  -- the operation's buffer refers to the stream's array
  let source := { p.handler.op.source with messageBuffer := s.server.stream.messageBuffer }
  Exec.update (fun s => { s with server.pending := none, transferred := 0 })
  onServer (Server.handle indeterminate (p.handler.withSource source) ec s.transferred)

/-- The outstanding read is given up to `k` bytes, and is over when it has all it waits for. -/
def readSome (indeterminate : UInt8) (k : Nat) : Exec Fault PieceServer Unit := do
  let s ← Exec.state
  match s.server.pending with
  | none => return
  | some p => do
    storeSome p k
    let s ← Exec.state
    if s.transferred < p.size then return
    else finish indeterminate p ok

/-- The connection has ended, and no more than what has arrived will be there. As long as that is enough, the outstanding read does not
see the end. -/
def close (indeterminate : UInt8) : Exec Fault PieceServer Unit := do
  let s ← Exec.state
  match s.server.pending with
  | none => return
  | some p =>
    if s.transferred + s.server.stream.nextLayer.incoming.length < p.size then do
      storeSome p p.size
      finish indeterminate p endOfFile
    else return

/-- What a move does. -/
def move : PieceMove → Exec Fault PieceServer Unit
  | .call => onServer (Server.move .call)
  | .arrive bytes => onServer (Server.move (.arrive bytes))
  | .readSome indeterminate k => readSome indeterminate k
  | .close indeterminate => close indeterminate
  | .answer transactionId slave response => onServer (Server.move (.answer transactionId slave response))

/-- A run. -/
def run (moves : List PieceMove) : Exec Fault PieceServer Unit := moves.forM move

/-- Answers are written only while the outstanding read, if there is one, has stored nothing. -/
def AnswersBetween : List PieceMove → PieceServer → Prop
  | [], _ => True
  | m :: moves, s => (∀ transactionId slave response, m = .answer transactionId slave response → s.transferred = 0) ∧
    AnswersBetween moves (move m s).2

end PieceServer

/-- The second run is the first with some of its pieces left out and the others taken for completions of the outstanding read. -/
inductive Coarsens : List PieceMove → List Move → Prop
  | nil : Coarsens [] []
  | call {moves : List PieceMove} {moves' : List Move} (h : Coarsens moves moves') : Coarsens (.call :: moves) (.call :: moves')
  | arrive {moves : List PieceMove} {moves' : List Move} (bytes : List UInt8) (h : Coarsens moves moves') :
    Coarsens (.arrive bytes :: moves) (.arrive bytes :: moves')
  | answer {moves : List PieceMove} {moves' : List Move} (transactionId : UInt16) (slave : UInt8) (response : Answer)
    (h : Coarsens moves moves') : Coarsens (.answer transactionId slave response :: moves) (.answer transactionId slave response :: moves')
  | readSome {moves : List PieceMove} {moves' : List Move} (indeterminate : UInt8) (k : Nat) (h : Coarsens moves moves') :
    Coarsens (.readSome indeterminate k :: moves) moves'
  | readLast {moves : List PieceMove} {moves' : List Move} (indeterminate : UInt8) (k : Nat) (h : Coarsens moves moves') :
    Coarsens (.readSome indeterminate k :: moves) (.complete indeterminate :: moves')
  | closeLater {moves : List PieceMove} {moves' : List Move} (indeterminate : UInt8) (h : Coarsens moves moves') :
    Coarsens (.close indeterminate :: moves) moves'
  | close {moves : List PieceMove} {moves' : List Move} (indeterminate : UInt8) (h : Coarsens moves moves') :
    Coarsens (.close indeterminate :: moves) (.complete indeterminate :: moves')

end Mothbus.Tcp
