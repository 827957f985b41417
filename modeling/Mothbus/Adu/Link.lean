import Mothbus.Adu.Tcp

/-!
# A client and a server on one connection

Two streams, one used as a client (`write_request`, `read_response`) and one as a server (`async_read_request`, `write_response`),
on two byte channels that lose and reorder nothing. An exchange is a request of the client, the call of the server that reads it,
the server's answer to each invocation of its callback, and the call of the client that reads the answer.
-/

namespace Mothbus.Tcp

/-- What a server answers with: an exception, or one of the nine response types. -/
inductive Answer where
  | exception (r : PduExceptionResp)
  | response (k : ResponseKind) (r : k.Pdu)

instance : PduWrite Answer where
  write
    | .exception r => PduWrite.write r
    | .response _ r => PduWrite.write r
  asserts
    | .exception r => PduWrite.asserts r
    | .response _ r => PduWrite.asserts r

/-- A client and a server, each with its own stream. -/
structure Link where
  client : Stream := {}
  server : Server := {}

namespace Link

variable {α : Type}

def onClient (m : Exec Fault Stream α) : Exec Fault Link α :=
  Exec.within (·.client) (fun client l => { l with client }) m

def onServer (m : Exec Fault Server α) : Exec Fault Link α :=
  Exec.within (·.server) (fun server l => { l with server }) m

def onServerStream (m : Exec Fault Stream α) : Exec Fault Link α :=
  Exec.within (·.server.stream) (fun stream l => { l with server.stream := stream }) m

/-- What the client does by itself it does on the link. -/
theorem onClient_apply {m : Exec Fault Stream α} {client client' : Stream} {x : Except Fault α} (server : Server)
    (h : m client = (x, client')) : onClient m ⟨client, server⟩ = (x, ⟨client', server⟩) :=
  Exec.within_apply _ h

/-- So does the server. -/
theorem onServer_apply {m : Exec Fault Server α} {server server' : Server} {x : Except Fault α} (client : Stream)
    (h : m server = (x, server')) : onServer m ⟨client, server⟩ = (x, ⟨client, server'⟩) :=
  Exec.within_apply _ h

/-- So does the stream of the server. -/
theorem onServerStream_apply {m : Exec Fault Stream α} {stream stream' : Stream} {x : Except Fault α} {server : Server}
    (client : Stream) (hs : server.stream = stream) (h : m stream = (x, stream')) :
    onServerStream m ⟨client, server⟩ = (x, ⟨client, { server with stream := stream' }⟩) :=
  Exec.within_apply _ (by rw [← hs] at h; exact h)

/-- What the client has sent arrives at the server. -/
def requestArrives : Exec Fault Link Unit :=
  Exec.update (fun l => { l with
    client.nextLayer.outgoing := [],
    server.stream.nextLayer.incoming := l.server.stream.nextLayer.incoming ++ l.client.nextLayer.outgoing })

/-- What the server has sent arrives at the client. -/
def responseArrives : Exec Fault Link Unit :=
  Exec.update (fun l => { l with
    server.stream.nextLayer.outgoing := [],
    client.nextLayer.incoming := l.client.nextLayer.incoming ++ l.server.stream.nextLayer.outgoing })

/-- The client sends a request. -/
def sendRequest [PduWrite α] (slave : UInt8) (request : α) : Exec Fault Link UInt16 := do
  let transactionId ← onClient (Stream.writeRequest slave request)
  requestArrives
  return transactionId

/-- The server reads a request and answers each invocation of its callback, under the ids the callback is invoked with. -/
def serve (indeterminate : UInt8) (answer : Answer) : Exec Fault Link (List Callback) := do
  let before ← Exec.state
  onServer (Server.readRequest indeterminate)
  let after ← Exec.state
  let callbacks := after.server.calls.drop before.server.calls.length
  callbacks.forM (fun c => onServerStream (Stream.writeResponse c.transactionId c.slave answer))
  responseArrives
  return callbacks

/-- What is seen of an exchange: how the server's callback was invoked and what its request variable then held, and what the
client's call returned and left in its object. -/
structure Report (β : Type) where
  callbacks : List Callback
  request : PduReq
  ec : ErrorCode
  response : β

/-- One exchange. `indeterminate` is what the uninitialised locals of the server's and the client's decoder hold. -/
def exchange {β : Type} [PduWrite α] [PduRead β] (indeterminate : UInt8 × UInt8) (slave : UInt8) (request : α) (answer : Answer)
    (out : β) : Exec Fault Link (Report β) := do
  let transactionId ← sendRequest slave request
  let callbacks ← serve indeterminate.1 answer
  let l ← Exec.state
  let (ec, response) ← onClient (Stream.readResponse indeterminate.2 transactionId slave out)
  return { callbacks, request := l.server.request, ec, response }

end Link

end Mothbus.Tcp
