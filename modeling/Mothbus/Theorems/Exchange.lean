import Mothbus.Adu.Link
import Mothbus.Lemmas.TcpClient
import Mothbus.Lemmas.TcpServer

/-!
# Request and answer over TCP

Client and server of one connection stay in step over any number of exchanges. Between two exchanges nothing is on the connection
in either direction, and the client's transaction id is the number of exchanges made; what an exchange ends with, for the server
and for the client, depends on this exchange alone.
-/

namespace Mothbus.Tcp

open ErrorLike (ok failed)

/-- An exchange: what the client sends and to whom, what the server answers, and the object the client reads the answer into. The
request is one that its writer takes and whose byte count is right, and the two PDUs are not too long. -/
structure Exchange where
  slave : UInt8
  slave_ne : slave ≠ 0
  kind : RequestKind
  request : kind.Pdu
  consistent : kind.Consistent request
  asserts : PduWrite.asserts request = true
  request_length : (PduWrite.write request).length ≤ 253
  answer : Answer
  answer_length : (PduWrite.write answer).length ≤ 248
  expected : ResponseKind
  out : expected.Pdu
  indeterminate : UInt8 × UInt8

/-- What the reader of `pdu_resp` gives on a PDU alone. -/
def decodeResponse {α : Type} [PduRead α] (out : α) (pdu : List UInt8) : ErrorCode × α :=
  ((readPduResp 0 out).run Buffer.input pdu).1

/-- Every request has a function code. -/
theorem length_write_request (k : RequestKind) (r : k.Pdu) : 1 ≤ (PduWrite.write r).length := by
  cases k <;> simp only [PduWrite.write, writeWordPair, List.length_append, length_writeFunctionCode] <;> omega

namespace Link

/-- Nothing is on the connection, and the client's transaction id is a number of exchanges. -/
structure Idle (n : Nat) (l : Link) : Prop where
  transactionId : l.client.transactionId = UInt16.ofNat n
  client : l.client.nextLayer = {}
  server : l.server.stream.nextLayer = {}

end Link

namespace Exchange

def run (e : Exchange) : Exec Fault Link (Link.Report e.expected.Pdu) :=
  Link.exchange e.indeterminate e.slave e.request e.answer e.out

/-- Exchanges one after the other. -/
def session : List Exchange → Exec Fault Link Unit
  | [] => return
  | e :: l => do
    let _ ← e.run
    session l

variable (e : Exchange)

/-- The unit that carries the request of the exchange. -/
def requestAdu (transactionId : UInt16) : Adu :=
  .sent transactionId e.slave (PduWrite.write e.request) ⟨length_write_request e.kind e.request, e.request_length⟩

/-- What is expected of an exchange that is made after `n` others: the callback is invoked once, successfully, with `n` for the
transaction id, the slave and the request that were sent, and the client's outcome and object are those of the reader of
`pdu_resp` on the answer's PDU. -/
structure AsExpected (n : Nat) (r : Link.Report e.expected.Pdu) : Prop where
  callbacks : r.callbacks = [⟨UInt16.ofNat n, e.slave, ok⟩]
  request : r.request = .request e.kind e.request
  ec : r.ec.SameOutcome (decodeResponse e.out (PduWrite.write e.answer)).1
  response : r.response = (decodeResponse e.out (PduWrite.write e.answer)).2

/-- The server reads the request that was sent. -/
theorem outcome_request (indeterminate : UInt8) (req : PduReq) :
    Server.outcome indeterminate req (PduWrite.write e.request) = (ok, .request e.kind e.request) := by
  have hd : (readPduReq indeterminate req).run Buffer.input (PduWrite.write e.request ++ []) =
      ((ok, .request e.kind e.request), []) := decodes_request indeterminate req e.consistent.counted []
  rw [List.append_nil] at hd
  exact congrArg Prod.fst hd

/-- The verdict of the client on an answer is that of the reader of `pdu_resp`. -/
theorem verdict_answer (indeterminate : UInt8) (pdu : List UInt8) :
    (Stream.verdict indeterminate e.out pdu).1.SameOutcome (decodeResponse e.out pdu).1 ∧
      (Stream.verdict indeterminate e.out pdu).2 = (decodeResponse e.out pdu).2 := by
  have hcongr : (readPduResp indeterminate e.out).run Buffer.input pdu = (readPduResp 0 e.out).run Buffer.input pdu :=
    readPduResp_congr Buffer.input_eof_failed _ _ _ _
  unfold Stream.verdict decodeResponse
  rw [hcongr]
  cases hf : failed ((readPduResp 0 e.out).run Buffer.input pdu).1.1 with
  | true =>
    simp only [hf, if_true]
    exact ⟨⟨rfl, fun _ => rfl⟩, trivial⟩
  | false =>
    simp only [hf, Bool.false_eq_true, if_false]
    exact ⟨⟨hf.symm, fun h => nomatch h⟩, trivial⟩

/-- The request of an exchange is sent and arrives. -/
theorem sendRequest_ok (n : Nat) (clientBuffer : Vector UInt8 320) {server : Server} (hserver : server.stream.nextLayer = {}) :
    ∃ m, Link.sendRequest e.slave e.request ⟨⟨clientBuffer, {}, UInt16.ofNat n⟩, server⟩ = (.ok (UInt16.ofNat n),
      ⟨⟨m, {}, UInt16.ofNat (n + 1)⟩,
        { server with stream.nextLayer := { incoming := (e.requestAdu (UInt16.ofNat n)).bytes } }⟩) := by
  have hlen := e.request_length
  obtain ⟨m, hwrite⟩ := Stream.writeRequest_ok e.slave ⟨clientBuffer, {}, UInt16.ofNat n⟩ e.asserts (by omega)
  refine ⟨m, ?_⟩
  unfold Link.sendRequest Link.requestArrives
  rw [Exec.bind_ok (Link.onClient_apply _ hwrite), Exec.bind_update, UInt16.ofNat_add]
  simp only [hserver]
  rfl

/-- The bytes of the answer to an exchange. -/
def answerBytes (transactionId : UInt16) : List UInt8 :=
  (frameHeader transactionId e.slave (PduWrite.write e.answer)).bytes ++ PduWrite.write e.answer

/-- The server reads the request, invokes its callback once, and its answer arrives. -/
theorem serve_ok (n : Nat) (clientBuffer : Vector UInt8 320) (clientId : UInt16) {server : Server}
    (hserver : server.stream.nextLayer = { incoming := (e.requestAdu (UInt16.ofNat n)).bytes }) :
    ∃ m, Link.serve e.indeterminate.1 e.answer ⟨⟨clientBuffer, {}, clientId⟩, server⟩ =
      (.ok [⟨UInt16.ofNat n, e.slave, ok⟩],
        ⟨⟨clientBuffer, { incoming := e.answerBytes (UInt16.ofNat n) }, clientId⟩, { server with
          stream := { server.stream with messageBuffer := m, nextLayer := {} }, pending := none,
          request := .request e.kind e.request, calls := server.calls ++ [⟨UInt16.ofNat n, e.slave, ok⟩] }⟩) := by
  have hlen := e.answer_length
  have hin : server.stream.nextLayer.incoming = (e.requestAdu (UInt16.ofNat n)).bytes ++ [] := by
    rw [hserver, List.append_nil]
  obtain ⟨m, hread⟩ := Server.readRequest_ok e.indeterminate.1 hin
  have hout : Server.outcome e.indeterminate.1 server.request (e.requestAdu (UInt16.ofNat n)).pdu =
    (ok, .request e.kind e.request) := e.outcome_request _ _
  rw [hout] at hread
  obtain ⟨m', hanswer⟩ := Stream.writeResponse_ok (UInt16.ofNat n) e.slave
    { server.stream with messageBuffer := m, nextLayer.incoming := [] } (asserts_answer e.answer) (by omega)
  refine ⟨m', ?_⟩
  unfold Link.serve Link.responseArrives
  rw [Exec.bind_state, Exec.bind_ok (Link.onServer_apply _ hread), Exec.bind_state]
  simp only [List.drop_left]
  refine (Exec.bind_ok (Exec.forM_singleton (Link.onServerStream_apply _ rfl hanswer))).trans ?_
  rw [Exec.bind_update]
  simp only [hserver]
  rfl

/-- An exchange on an idle connection goes as expected and leaves the connection idle. -/
theorem run_idle {n : Nat} {l : Link} (h : l.Idle n) :
    ∃ r l', e.run l = (.ok r, l') ∧ l'.Idle (n + 1) ∧ e.AsExpected n r := by
  obtain ⟨⟨clientBuffer, clientLayer, clientId⟩, server⟩ := l
  obtain ⟨hid, hclient, hserver⟩ := h
  dsimp only at hid hclient hserver
  subst hid hclient
  obtain ⟨m₁, hsend⟩ := e.sendRequest_ok n clientBuffer hserver
  have harrived : ({ server with stream.nextLayer := { incoming := (e.requestAdu (UInt16.ofNat n)).bytes } } : Server).stream.nextLayer =
      { incoming := (e.requestAdu (UInt16.ofNat n)).bytes } := rfl
  obtain ⟨m₂, hserve⟩ := e.serve_ok n m₁ (UInt16.ofNat (n + 1)) harrived
  obtain ⟨m₃, hread⟩ := Stream.readResponse_answer e.indeterminate.2 e.out e.slave_ne
    (s := ⟨m₁, { incoming := e.answerBytes (UInt16.ofNat n) }, UInt16.ofNat (n + 1)⟩) rfl
    ⟨length_write_answer e.answer, e.answer_length⟩
  have hverdict := e.verdict_answer e.indeterminate.2 (PduWrite.write e.answer)
  refine ⟨⟨[⟨UInt16.ofNat n, e.slave, ok⟩], .request e.kind e.request,
      (Stream.verdict e.indeterminate.2 e.out (PduWrite.write e.answer)).1,
      (Stream.verdict e.indeterminate.2 e.out (PduWrite.write e.answer)).2⟩,
    ⟨⟨m₃, {}, UInt16.ofNat (n + 1)⟩, { server with
      stream := { server.stream with messageBuffer := m₂, nextLayer := {} }, pending := none,
      request := .request e.kind e.request, calls := server.calls ++ [⟨UInt16.ofNat n, e.slave, ok⟩] }⟩, ?_, ?_, ?_⟩
  · unfold run Link.exchange
    rw [Exec.bind_ok hsend, Exec.bind_ok hserve, Exec.bind_state, Exec.bind_ok (Link.onClient_apply _ hread)]
    rfl
  · exact ⟨rfl, rfl, rfl⟩
  · exact ⟨rfl, rfl, hverdict.1, hverdict.2⟩

/-- Exchanges on an idle connection leave it idle. -/
theorem session_idle (done : List Exchange) {n : Nat} {l : Link} (h : l.Idle n) :
    ∃ l', session done l = (.ok (), l') ∧ l'.Idle (n + done.length) := by
  induction done generalizing n l with
  | nil => exact ⟨l, rfl, h⟩
  | cons e done ih =>
    obtain ⟨r, l₁, hrun, hidle, -⟩ := e.run_idle h
    obtain ⟨l₂, hsession, hidle'⟩ := ih hidle
    refine ⟨l₂, (Exec.bind_ok hrun).trans hsession, ?_⟩
    rw [List.length_cons, Nat.add_comm done.length 1, ← Nat.add_assoc]
    exact hidle'

/-- From a new connection, any number of exchanges come to their end, and the one after them goes as expected. -/
theorem session_asExpected (done : List Exchange) (e : Exchange) :
    ∃ l r l', session done {} = (.ok (), l) ∧ e.run l = (.ok r, l') ∧ e.AsExpected done.length r := by
  obtain ⟨l, hsession, hidle⟩ := session_idle done (l := {}) ⟨rfl, rfl, rfl⟩
  rw [Nat.zero_add] at hidle
  obtain ⟨r, l', hrun, -, hexpected⟩ := e.run_idle hidle
  exact ⟨l, r, l', hsession, hrun, hexpected⟩

/-- A read of two registers of slave 17, which is answered with exception 2. -/
instance : Inhabited Exchange where
  default := {
    slave := 17
    slave_ne := by decide
    kind := .readHolding
    request := ({ startingAddress := 0, quantityOfRegisters := 2 } : ReadHoldingPduReq)
    consistent := trivial
    asserts := rfl
    request_length := by decide
    answer := .exception ⟨.readHoldingRegisters, .illegalDataAddress⟩
    answer_length := by decide
    expected := .readHolding
    out := ReadHoldingPduResp.new (.ofData [0, 0, 0, 0])
    indeterminate := (0, 0) }

end Exchange

end Mothbus.Tcp
