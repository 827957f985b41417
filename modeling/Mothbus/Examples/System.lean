import Mothbus.Examples.Coroutine
import Mothbus.Lemmas.Master
import Mothbus.Library.Simulation

/-!
# Masters and the register server

Any number of masters over `tcp::stream`, each with a connection to the server of `examples/tcpserver_coroutine_with_data.cpp`: one
coroutine for each connection, and the registers that all handlers read and the updating thread writes. The server runs on one
thread, so that a handler or an update is one step; everything else interleaves, and bytes arrive in any pieces.
-/

namespace Mothbus.Examples

open Tcp

/-- A call of a master that waits for its response. -/
structure PendingCall where
  slave : UInt8
  op : Operation
  plan : Plan
  transactionId : UInt16

/-- A call up to the point where it waits: the checks of the arguments, the request, and the response object. -/
def startCall (slave : UInt8) (op : Operation) : Exec Fault Stream PendingCall := do
  let plan ← Exec.ofExcept op.plan
  let transactionId ← Stream.writeRequest slave plan.request
  assert plan.asserts
  return { slave, op, plan, transactionId }

/-- A call from there on. -/
def finishCall (indeterminate : UInt8) (c : PendingCall) : Exec Fault Stream (ErrorCode × Output) := do
  let (ec, resp) ← Stream.readResponse indeterminate c.transactionId c.slave c.plan.response
  return c.plan.finish ec resp

/-- The two parts are the operation. -/
theorem startCall_finishCall (indeterminate : UInt8) (slave : UInt8) (op : Operation) :
    startCall slave op >>= finishCall indeterminate = op.run (Tcp.transport indeterminate) slave := by
  rw [Operation.run_eq_plan]
  unfold startCall finishCall Plan.run Master.exchange
  simp only [bind_assoc, pure_bind]
  rfl

/-- A connection: the stream of the master, the call that waits on it, and the coroutine of the server. What either side has sent and has
not arrived is the `outgoing` of its stream. -/
structure Conversation where
  client : Stream := {}
  call : Option PendingCall := none
  server : Session := {}

/-- The masters, numbered by `ι`, and the server. -/
structure World (ι : Type) where
  registers : List UInt16
  conversation : ι → Conversation

/-- What a master and the updating thread see happen. -/
inductive Event (ι : Type) where
  | invoke (i : ι) (slave : UInt8) (op : Operation)
  | result (i : ι) (ec : ErrorCode) (output : Output)
  | update (registers : List UInt16)

/-- What can happen. -/
inductive WorldMove (ι : Type) where
  | call (i : ι) (slave : UInt8) (op : Operation)
  | requestArrives (i : ι) (k : Nat)
  | serve (i : ι) (indeterminate : UInt8) (k : Nat)
  | responseArrives (i : ι) (k : Nat)
  | complete (i : ι) (indeterminate : UInt8)
  | update (registers : List UInt16)

namespace Conversation

def onClient {α : Type} (m : Exec Fault Stream α) : Exec Fault Conversation α :=
  Exec.within (·.client) (fun client c => { c with client }) m

def onServer {α : Type} (m : Exec Fault Session α) : Exec Fault Conversation α :=
  Exec.within (·.server) (fun server c => { c with server }) m

/-- The master starts a call. -/
def start (slave : UInt8) (op : Operation) : Exec Fault Conversation Unit := do
  let call ← onClient (startCall slave op)
  Exec.update (fun c => { c with call := some call })

/-- Up to `k` bytes that the master has sent arrive at the server. -/
def requestArrives (k : Nat) (c : Conversation) : Conversation :=
  { c with
    client.nextLayer.outgoing := c.client.nextLayer.outgoing.drop k,
    server.stream.nextLayer.incoming := c.server.stream.nextLayer.incoming ++ c.client.nextLayer.outgoing.take k }

/-- The coroutine is given up to `k` of the bytes that have arrived, and the handler sees the registers as they are. -/
def serve (native : Endian) (registers : List UInt16) (indeterminate : UInt8) (k : Nat) : Exec Fault Conversation Unit :=
  onServer (Session.readSome indeterminate (registerHandler native registers) k)

/-- Up to `k` bytes that the server has sent arrive at the master. -/
def responseArrives (k : Nat) (c : Conversation) : Conversation :=
  { c with
    server.stream.nextLayer.outgoing := c.server.stream.nextLayer.outgoing.drop k,
    client.nextLayer.incoming := c.client.nextLayer.incoming ++ c.server.stream.nextLayer.outgoing.take k }

/-- The call returns, if the response that it waits for is there. -/
def complete (indeterminate : UInt8) : Exec Fault Conversation (Option (ErrorCode × Output)) := do
  let c ← Exec.state
  match c.call with
  | none => return none
  | some call =>
    match finishCall indeterminate call c.client with
    | (.ok r, client) => do
      Exec.update (fun c => { c with client, call := none })
      return some r
    -- where a read would find the end of the input, the call is still waiting
    | (.error (.systemError _), _) => return none
    | (.error f, _) => Exec.stop f

end Conversation

namespace World

variable {ι : Type} [DecidableEq ι]

/-- The world with another conversation of a master. -/
def setConversation (w : World ι) (i : ι) (c : Conversation) : World ι :=
  { w with conversation := Function.update w.conversation i c }

/-- Run a computation on one conversation. -/
def onConversation {α : Type} (i : ι) (m : Exec Fault Conversation α) : Exec Fault (World ι) α :=
  Exec.within (fun w => w.conversation i) (fun c w => w.setConversation i c) m

/-- What a move does, and what is seen of it. A master makes one call at a time. -/
def move (native : Endian) : WorldMove ι → Exec Fault (World ι) (List (Event ι))
  | .call i slave op => do
    let w ← Exec.state
    if (w.conversation i).call.isSome then return []
    onConversation i (Conversation.start slave op)
    return [.invoke i slave op]
  | .requestArrives i k => do
    onConversation i (Exec.update (Conversation.requestArrives k))
    return []
  | .serve i indeterminate k => do
    let w ← Exec.state
    onConversation i (Conversation.serve native w.registers indeterminate k)
    return []
  | .responseArrives i k => do
    onConversation i (Exec.update (Conversation.responseArrives k))
    return []
  | .complete i indeterminate => do
    let r ← onConversation i (Conversation.complete indeterminate)
    return r.toList.map (fun r => .result i r.1 r.2)
  | .update registers => do
    Exec.update (fun w => { w with registers })
    return [.update registers]

/-- A run, and what is seen of it. -/
def run (native : Endian) : List (WorldMove ι) → Exec Fault (World ι) (List (Event ι))
  | [] => return []
  | m :: moves => do
    let events ← move native m
    let more ← run native moves
    return events ++ more

/-- The server has been started and the masters have connected. -/
def start (registers : List UInt16) : World ι := { registers, conversation := fun _ => {} }

end World

/-! ## Which calls are made -/

/-- How many registers a call asks the register server for. -/
def registersAsked : Operation → Option UInt16
  | .readRegisterBytes _ out => some (UInt16.ofNat (out.length / 2))
  | .readRegisters _ out => some (UInt16.ofNat out.length)
  | _ => none

/-- The calls that masters make: to a slave that answers, of requests that are sent, and not for 124 or 125 registers, which the server
sends and the client refuses without reading them. -/
def Answerable (slave : UInt8) (op : Operation) : Prop :=
  slave ≠ 0 ∧ op.Sends 313 ∧ ∀ q, registersAsked op = some q → q.toNat ≤ 123 ∨ 125 < q.toNat

/-- Every call of the move is one of these. -/
def WorldMove.Answerable {ι : Type} : WorldMove ι → Prop
  | .call _ slave op => Examples.Answerable slave op
  | _ => True

/-- The masters and the server as a transition system. -/
def worldSystem (ι : Type) [DecidableEq ι] (native : Endian) (registers : List UInt16) : TransitionSystem (World ι) (Event ι) where
  init w := w = World.start registers
  step w events w' := ∃ m : WorldMove ι, m.Answerable ∧ World.move native m w = (.ok events, w')

/-! ## Calls that are not answerable -/

/-- Where the master calls, it is a broadcast. -/
def WorldMove.BroadcastsOnly {ι : Type} (i : ι) : WorldMove ι → Prop
  | .call j slave _ => j = i → slave = 0
  | _ => True

/-- The master does not call. -/
def WorldMove.NoCall {ι : Type} (i : ι) : WorldMove ι → Prop
  | .call j _ _ => j ≠ i
  | _ => True

end Mothbus.Examples
