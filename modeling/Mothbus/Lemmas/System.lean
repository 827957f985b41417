import Mothbus.Lemmas.Coroutine
import Mothbus.Lemmas.RegisterServer

/-!
# A conversation, move by move

A conversation rests, or the request of a call is on its way to the server, or the response to it is on its way back. What a move does
to a conversation in each of these stages is one lemma; together they say that a conversation goes with its call as the registers that
are read at once see it (`Conversation.Matches`).
-/

namespace Mothbus.Examples

open ErrorLike (ok failed)
open Tcp

/-- A request has a function code. -/
theorem length_pos_of_request {pdu : List UInt8} {req : PduReq} (h : requestOf pdu = some req) : 1 ≤ pdu.length := by
  cases pdu with
  | nil => nomatch h
  | cons b pdu => exact Nat.succ_le_succ (Nat.zero_le _)

namespace PendingCall

variable {c : PendingCall}

/-- The PDU of the request. -/
def pdu (c : PendingCall) : List UInt8 := PduWrite.write c.plan.request

/-- The header of its frame. -/
def header (c : PendingCall) : MbapHeader := frameHeader c.transactionId c.slave c.pdu

/-- The frame of the request. -/
def frame (c : PendingCall) : List UInt8 := c.header.bytes ++ c.pdu

/-- The bytes on their way to a server that is at the phase, with those that it has stored: the frame of the request, or its PDU, and what
follows it. -/
def OnTheWay (c : PendingCall) (rest : List UInt8) : Phase → List UInt8 → Prop
  | .header, l => l = c.header.bytes ++ (c.pdu ++ rest)
  | .body h _, l => h = c.header ∧ l = c.pdu ++ rest
  | .closed, _ | .overflowed, _ => False

/-- The request of the call has been sent, and its plan is the one of its operation. -/
structure Sent (c : PendingCall) : Prop where
  plan_eq : c.op.plan = .ok c.plan
  sends : c.plan.Sends 313

/-- The request of a call that has been sent has a function code and fits the array behind a header. -/
theorem Sent.length_pdu (h : c.Sent) : 1 ≤ c.pdu.length ∧ c.pdu.length ≤ 313 := by
  obtain ⟨req, hreq⟩ := exists_request h.plan_eq
  exact ⟨length_pos_of_request hreq, h.sends.2.2⟩

/-- The length field of its header counts the unit id and the PDU. -/
theorem Sent.header_length (h : c.Sent) : c.header.length.toNat = c.pdu.length + 1 := by
  have hlen := h.length_pdu
  exact frameHeader_length _ _ (by omega)

/-- The register server takes its header. -/
theorem Sent.check_header (h : c.Sent) : Loop.coroutine.check c.header = .accept := by
  have hlen := h.length_pdu
  have hheader := h.header_length
  exact if_neg (by omega)

/-- The call is one that masters make, and its plan is the one of its operation. -/
structure Made (c : PendingCall) : Prop where
  answerable : Answerable c.slave c.op
  plan_eq : c.op.plan = .ok c.plan

/-- A call that masters make has been sent. -/
theorem Made.sent (h : c.Made) : c.Sent := by
  obtain ⟨p, hp, hsends⟩ := h.answerable.2.1
  obtain rfl := Except.ok.inj (h.plan_eq.symm.trans hp)
  exact ⟨hp, hsends⟩

end PendingCall

/-- A call of a plan with a request that fits is sent, under the next transaction id. -/
theorem startCall_ok (slave : UInt8) {op : Operation} {p : Plan} (hp : op.plan = .ok p) (hsends : p.Sends 313) (s : Stream) :
    ∃ m, startCall slave op s = (.ok { slave, op, plan := p, transactionId := s.transactionId },
      { s with
        messageBuffer := m, transactionId := s.transactionId + 1,
        nextLayer.outgoing := s.nextLayer.outgoing ++
          PendingCall.frame { slave, op, plan := p, transactionId := s.transactionId } }) := by
  obtain ⟨hassert, hnew, hlen⟩ := hsends
  obtain ⟨m, hwrite⟩ := Stream.writeRequest_ok slave s hassert hlen
  refine ⟨m, ?_⟩
  unfold startCall
  rw [hp]
  show (Stream.writeRequest slave p.request >>= _) s = _
  rw [Exec.bind_ok hwrite, hnew]
  rfl

/-! ## The server -/

namespace Session

variable {reply : Reply} {s : Session} {part : List UInt8}

/-- A step whose transcript stays in the array. -/
theorem StepsTo.exists_reaches {x : Except Fault Unit × Session} {phase : Phase} {rest left : List UInt8} {responses : List Response}
    (h : s.StepsTo x phase rest left responses) (hphase : phase ≠ .overflowed) :
    ∃ s', x = (.ok (), s') ∧ s.Reaches s' phase rest left responses := by
  cases h with
  | reaches h => exact ⟨_, rfl, h⟩
  | overflows => exact absurd rfl hphase

/-- What the step of a server reads and leaves. -/
theorem given_append_rest (s : Session) (k size : Nat) (part tail : List UInt8) :
    (part ++ s.given k size part) ++ (s.incoming.drop (s.given k size part).length ++ tail) = part ++ (s.incoming ++ tail) := by
  rw [List.append_assoc, ← List.append_assoc (s.given k size part), given_append_drop]

/-- A server with nothing to read stays where it is. -/
theorem readSome_nothing (hfits : reply.Fits) (indeterminate : UInt8) (k : Nat) (h : s.Sees [] .header) (hin : s.incoming = []) :
    ∃ s', readSome indeterminate reply.handler k s = (.ok (), s') ∧ s'.Sees [] .header ∧ s'.incoming = [] ∧
      s'.outgoing = s.outgoing := by
  have hgiven : ([] : List UInt8) = s.given k MbapHeader.headerSize [] := by rw [given, hin, List.take_nil]
  have hstep := readSome_sees hfits indeterminate k h hgiven
  rw [List.append_nil, (Consumer.settled_nil _ _).drain] at hstep
  obtain ⟨s', hrun, hreaches⟩ := hstep.exists_reaches (by simp)
  refine ⟨s', hrun, hreaches.sees, hreaches.incoming_eq.trans hin, ?_⟩
  rw [hreaches.outgoing_eq, List.flatMap_nil, List.append_nil]

variable {call : PendingCall} {rest tail : List UInt8}

/-- A server that waits for the header of a request reads on in it, or has read it and waits for the body. -/
theorem readSome_requestHeader (hfits : reply.Fits) (indeterminate : UInt8) (k : Nat) (hsent : call.Sent) (h : s.Sees part .header)
    (hway : call.OnTheWay rest .header (part ++ (s.incoming ++ tail))) :
    ∃ s' phase part', readSome indeterminate reply.handler k s = (.ok (), s') ∧ s'.Sees part' phase ∧
      call.OnTheWay rest phase (part' ++ (s'.incoming ++ tail)) ∧ s'.outgoing = s.outgoing ∧
      (MbapHeader.headerSize ≤ part.length + min k s.incoming.length → phase ≠ .header) := by
  obtain ⟨bytes, hbytes⟩ : ∃ bytes, bytes = s.given k MbapHeader.headerSize part := ⟨_, rfl⟩
  have hstep := readSome_sees hfits indeterminate k h hbytes
  have hrest := s.given_append_rest k MbapHeader.headerSize part tail
  have hgiven : (s.given k MbapHeader.headerSize part).length = min (min k (MbapHeader.headerSize - part.length)) s.incoming.length :=
    List.length_take
  rw [← hbytes] at hrest hgiven
  have hpart : part.length < MbapHeader.headerSize := by
    obtain ⟨r, -, -, hpart⟩ := h
    exact hpart
  have hframe : (part ++ bytes) ++ (s.incoming.drop bytes.length ++ tail) = call.header.bytes ++ (call.pdu ++ rest) := hrest.trans hway
  have hlen : (part ++ bytes).length = part.length + bytes.length := List.length_append
  by_cases hmore : (part ++ bytes).length < MbapHeader.headerSize
  · rw [Consumer.drain_waiting rfl hmore] at hstep
    obtain ⟨s', hrun, hreaches⟩ := hstep.exists_reaches (by simp)
    refine ⟨s', .header, part ++ bytes, hrun, hreaches.sees, ?_, ?_, by omega⟩
    · rw [hreaches.incoming_eq]
      exact hframe
    · rw [hreaches.outgoing_eq, List.flatMap_nil, List.append_nil]
  · obtain ⟨hheader, hpdu⟩ := List.append_inj hframe (by rw [call.header.length_bytes]; omega)
    have hdrain := Consumer.drain_append_step (C := Loop.coroutine.server reply) rfl call.header.length_bytes
      ((Loop.step_header call.header).trans (Loop.afterHeader_accept hsent.check_header)) []
    rw [Consumer.prepend_nil, (Consumer.settled_nil _ _).drain, List.append_nil] at hdrain
    rw [hheader, hdrain] at hstep
    obtain ⟨s', hrun, hreaches⟩ := hstep.exists_reaches (by simp)
    refine ⟨s', _, [], hrun, hreaches.sees, ⟨rfl, ?_⟩, ?_, fun _ => by simp⟩
    · rw [hreaches.incoming_eq]
      exact hpdu
    · rw [hreaches.outgoing_eq, List.flatMap_nil, List.append_nil]

/-- A server that waits for the body of a request reads on in it, or has read it and answered it. -/
theorem readSome_requestBody (hfits : reply.Fits) (indeterminate : UInt8) (k : Nat) (hsent : call.Sent) {req : PduReq}
    (hreq : requestOf call.pdu = some req) {h : MbapHeader} {two_le : 2 ≤ h.length.toNat} (hsees : s.Sees part (.body h two_le))
    (hway : call.OnTheWay rest (.body h two_le) (part ++ (s.incoming ++ tail))) :
    ∃ s', readSome indeterminate reply.handler k s = (.ok (), s') ∧
      ((∃ part', s'.Sees part' (.body h two_le) ∧ call.OnTheWay rest (.body h two_le) (part' ++ (s'.incoming ++ tail)) ∧
          s'.outgoing = s.outgoing ∧ part.length + min k s.incoming.length < call.pdu.length) ∨
        s'.Sees [] .header ∧ s'.incoming ++ tail = rest ∧
          s'.outgoing = s.outgoing ++ (Response.mk call.transactionId call.slave (reply req)).bytes) := by
  obtain ⟨rfl, hpdu⟩ := hway
  have hlength := hsent.length_pdu
  have hsize : call.header.length.toNat - 1 = call.pdu.length := by
    rw [hsent.header_length]
    omega
  have hneed : (Loop.coroutine.server reply).need (.body call.header two_le) = some call.pdu.length := by
    rw [Loop.need_body (by omega), hsize]
  obtain ⟨bytes, hbytes⟩ : ∃ bytes, bytes = s.given k (call.header.length.toNat - 1) part := ⟨_, rfl⟩
  have hstep := readSome_sees hfits indeterminate k hsees hbytes
  have hrest := s.given_append_rest k (call.header.length.toNat - 1) part tail
  have hgiven : (s.given k (call.header.length.toNat - 1) part).length =
      min (min k (call.header.length.toNat - 1 - part.length)) s.incoming.length := List.length_take
  rw [← hbytes] at hrest hgiven
  have hpart : part.length < call.header.length.toNat - 1 := by
    obtain ⟨r, -, -, hpart⟩ := hsees
    exact hpart
  rw [hpdu] at hrest
  have hlen : (part ++ bytes).length = part.length + bytes.length := List.length_append
  by_cases hmore : (part ++ bytes).length < call.pdu.length
  · rw [Consumer.drain_waiting hneed hmore] at hstep
    obtain ⟨s', hrun, hreaches⟩ := hstep.exists_reaches (by simp)
    refine ⟨s', hrun, Or.inl ⟨part ++ bytes, hreaches.sees, ⟨rfl, ?_⟩, ?_, by omega⟩⟩
    · rw [hreaches.incoming_eq]
      exact hrest
    · rw [hreaches.outgoing_eq, List.flatMap_nil, List.append_nil]
  · obtain ⟨hbody, hleft⟩ := List.append_inj hrest (by omega)
    have hdrain := Consumer.drain_append_step (C := Loop.coroutine.server reply) hneed rfl (afterBody_request (by omega) hreq) []
    rw [(Consumer.settled_nil _ _).drain, List.append_nil] at hdrain
    rw [hbody, hdrain] at hstep
    obtain ⟨s', hrun, hreaches⟩ := hstep.exists_reaches (by simp [Consumer.prepend])
    refine ⟨s', hrun, Or.inr ⟨hreaches.sees, by rw [hreaches.incoming_eq, hleft], ?_⟩⟩
    rw [hreaches.outgoing_eq, Consumer.prepend, List.append_nil, List.flatMap_singleton]
    rfl

end Session

/-! ## Stages -/

namespace Conversation

/-- Nobody waits, and nothing is on its way. -/
structure Rests (c : Conversation) : Prop where
  call_eq : c.call = none
  sees : c.server.Sees [] .header
  read_eq : c.server.incoming = []
  sent_eq : c.client.nextLayer.outgoing = []
  received_eq : c.client.nextLayer.incoming = []
  answered_eq : c.server.outgoing = []

/-- The call waits, and the server has not read the whole of its request. -/
structure Requesting (c : Conversation) (call : PendingCall) (phase : Phase) (part : List UInt8) : Prop where
  call_eq : c.call = some call
  made : call.Made
  sees : c.server.Sees part phase
  onTheWay : call.OnTheWay [] phase (part ++ (c.server.incoming ++ c.client.nextLayer.outgoing))
  received_eq : c.client.nextLayer.incoming = []
  answered_eq : c.server.outgoing = []

/-- The call waits, and the server has answered it. -/
structure Responding (c : Conversation) (call : PendingCall) (answer : Answer) : Prop where
  call_eq : c.call = some call
  slave_ne : call.slave ≠ 0
  sees : c.server.Sees [] .header
  read_eq : c.server.incoming = []
  sent_eq : c.client.nextLayer.outgoing = []
  onTheWay : c.client.nextLayer.incoming ++ c.server.outgoing = (Response.mk call.transactionId call.slave answer).bytes

/-- A conversation for the status of its call. What is on its way back when the call is done is what it returns the result for. -/
def Matches (c : Conversation) : Status → Prop
  | .idle => c.Rests
  | .called op => ∃ call phase part, call.op = op ∧ c.Requesting call phase part
  | .done ec output => ∃ call answer, c.Responding call answer ∧ Returns call.plan answer (ec, output)

variable {c : Conversation} {call : PendingCall} {phase : Phase} {part : List UInt8} {answer : Answer}

/-- A master that rests can make a call. -/
theorem Rests.start (h : c.Rests) {slave : UInt8} {op : Operation} (hanswerable : Answerable slave op) :
    ∃ c' call, Conversation.start slave op c = (.ok (), c') ∧ call.op = op ∧ c'.Requesting call .header [] := by
  obtain ⟨p, hp, hsends⟩ := hanswerable.2.1
  obtain ⟨m, hstart⟩ := startCall_ok slave hp hsends c.client
  let call : PendingCall := { slave, op, plan := p, transactionId := c.client.transactionId }
  refine ⟨_, call, Exec.bind_ok (Exec.within_apply _ hstart), rfl, rfl, ⟨hanswerable, hp⟩, h.sees, ?_, h.received_eq, h.answered_eq⟩
  show [] ++ (c.server.incoming ++ (c.client.nextLayer.outgoing ++ call.frame)) = call.header.bytes ++ (call.pdu ++ [])
  rw [h.read_eq, h.sent_eq, List.append_nil]
  rfl

/-! ## Bytes arrive -/

/-- Where the master has sent nothing, nothing arrives at the server. -/
theorem requestArrives_of_sent (h : c.client.nextLayer.outgoing = []) (k : Nat) : c.requestArrives k = c := by
  unfold requestArrives
  rw [h, List.drop_nil, List.take_nil, List.append_nil, ← h]

/-- Where the server has answered nothing, nothing arrives at the master. -/
theorem responseArrives_of_answered (h : c.server.outgoing = []) (k : Nat) : c.responseArrives k = c := by
  unfold Session.outgoing at h
  unfold responseArrives
  rw [h, List.drop_nil, List.take_nil, List.append_nil, ← h]

/-- A request that arrives is still on its way to being read. -/
theorem Requesting.requestArrives (h : c.Requesting call phase part) (k : Nat) : (c.requestArrives k).Requesting call phase part :=
  { h with
    sees := by
      cases phase <;> exact h.sees
    onTheWay := by
      have hway := h.onTheWay
      rw [← List.take_append_drop k c.client.nextLayer.outgoing, ← List.append_assoc c.server.incoming] at hway
      exact hway }

/-- A response that arrives is still to be read. -/
theorem Responding.responseArrives (h : c.Responding call answer) (k : Nat) : (c.responseArrives k).Responding call answer :=
  { h with
    onTheWay := by
      show (c.client.nextLayer.incoming ++ c.server.outgoing.take k) ++ c.server.outgoing.drop k = _
      rw [List.append_assoc, List.take_append_drop, h.onTheWay] }

/-- That bytes arrive at the server does not change the status of a call. -/
theorem Matches.requestArrives {status : Status} (h : c.Matches status) (k : Nat) : (c.requestArrives k).Matches status := by
  cases status with
  | idle =>
    rw [requestArrives_of_sent (Rests.sent_eq h)]
    exact h
  | called op =>
    obtain ⟨call, phase, part, hop, hrequest⟩ := h
    exact ⟨call, phase, part, hop, hrequest.requestArrives k⟩
  | done ec output =>
    obtain ⟨call, answer, hresponse, hreturns⟩ := h
    rw [requestArrives_of_sent hresponse.sent_eq]
    exact ⟨call, answer, hresponse, hreturns⟩

/-- Nor does it that bytes arrive at the master. -/
theorem Matches.responseArrives {status : Status} (h : c.Matches status) (k : Nat) : (c.responseArrives k).Matches status := by
  cases status with
  | idle =>
    rw [responseArrives_of_answered (Rests.answered_eq h)]
    exact h
  | called op =>
    obtain ⟨call, phase, part, hop, hrequest⟩ := h
    rw [responseArrives_of_answered hrequest.answered_eq]
    exact ⟨call, phase, part, hop, hrequest⟩
  | done ec output =>
    obtain ⟨call, answer, hresponse, hreturns⟩ := h
    exact ⟨call, answer, hresponse.responseArrives k, hreturns⟩

/-- Bytes travel between the two sides, or the server reads. -/
inductive Travels (native : Endian) : Conversation → Conversation → Prop
  | requestArrives {c : Conversation} (k : Nat) : Travels native c (c.requestArrives k)
  | serve {c c' : Conversation} (registers : List UInt16) (indeterminate : UInt8) (k : Nat)
    (h : serve native registers indeterminate k c = (.ok (), c')) : Travels native c c'
  | responseArrives {c : Conversation} (k : Nat) : Travels native c (c.responseArrives k)

/-- While bytes travel the call is the same. -/
theorem call_of_travels {native : Endian} {c' : Conversation} (h : c.Travels native c') : c'.call = c.call := by
  cases h with
  | requestArrives k => rfl
  | responseArrives k => rfl
  | serve registers indeterminate k h =>
    obtain ⟨-, rfl⟩ := Prod.mk.inj h
    rfl

/-! ## The server reads -/

variable (native : Endian) (registers : List UInt16) (indeterminate : UInt8) (k : Nat)

/-- The server reads on by itself; the side of the master stays as it is. -/
theorem serve_ok {s' : Session} (h : Session.readSome indeterminate (registerReply registers).handler k c.server = (.ok (), s')) :
    serve native registers indeterminate k c = (.ok (), { c with server := s' }) := by
  unfold serve
  rw [registerHandler_eq]
  exact Exec.within_apply _ h

/-- A server that has nothing to read rests. -/
theorem Rests.serve (h : c.Rests) : ∃ c', Conversation.serve native registers indeterminate k c = (.ok (), c') ∧ c'.Rests := by
  obtain ⟨s', hrun, hsees, hin, hout⟩ := Session.readSome_nothing (registerReply_fits registers) indeterminate k h.sees h.read_eq
  exact ⟨_, serve_ok native registers indeterminate k hrun,
    { h with sees := hsees, read_eq := hin, answered_eq := hout.trans h.answered_eq }⟩

/-- So does one that has answered. -/
theorem Responding.serve (h : c.Responding call answer) :
    ∃ c', Conversation.serve native registers indeterminate k c = (.ok (), c') ∧ c'.Responding call answer := by
  obtain ⟨s', hrun, hsees, hin, hout⟩ := Session.readSome_nothing (registerReply_fits registers) indeterminate k h.sees h.read_eq
  refine ⟨_, serve_ok native registers indeterminate k hrun, { h with sees := hsees, read_eq := hin, onTheWay := ?_ }⟩
  rw [← h.onTheWay]
  exact congrArg _ hout

/-- While it waits for the header of the request; it has read it, if enough of it is there. -/
theorem Requesting.serve_header (h : c.Requesting call .header part) :
    ∃ c' phase part', Conversation.serve native registers indeterminate k c = (.ok (), c') ∧ c'.Requesting call phase part' ∧
      c'.client = c.client ∧ (MbapHeader.headerSize ≤ part.length + min k c.server.incoming.length → phase ≠ .header) := by
  obtain ⟨s', phase, part', hrun, hsees, hway, hout, hfull⟩ :=
    Session.readSome_requestHeader (registerReply_fits registers) indeterminate k h.made.sent h.sees h.onTheWay
  exact ⟨_, phase, part', serve_ok native registers indeterminate k hrun,
    { h with sees := hsees, onTheWay := hway, answered_eq := hout.trans h.answered_eq }, rfl, hfull⟩

/-- While it waits for the body; it has answered by the registers as they are, if all of it is there. -/
theorem Requesting.serve_body {hdr : MbapHeader} {two_le : 2 ≤ hdr.length.toNat} (h : c.Requesting call (.body hdr two_le) part) :
    ∃ c', Conversation.serve native registers indeterminate k c = (.ok (), c') ∧
      ((∃ part', c'.Requesting call (.body hdr two_le) part' ∧ part.length + min k c.server.incoming.length < call.pdu.length) ∨
        ∃ answer, c'.Responding call answer ∧ Returns call.plan answer (effect registers call.op)) := by
  obtain ⟨req, hreq, hreturns⟩ := exists_answer h.made.answerable h.made.plan_eq
  obtain ⟨s', hrun, hstage⟩ :=
    Session.readSome_requestBody (registerReply_fits registers) indeterminate k h.made.sent hreq h.sees h.onTheWay
  refine ⟨_, serve_ok native registers indeterminate k hrun, ?_⟩
  rcases hstage with ⟨part', hsees, hway, hout, hless⟩ | ⟨hsees, hleft, hout⟩
  · exact Or.inl ⟨part', { h with sees := hsees, onTheWay := hway, answered_eq := hout.trans h.answered_eq }, hless⟩
  · obtain ⟨hin, htail⟩ := List.append_eq_nil_iff.mp hleft
    refine Or.inr ⟨_, {
        call_eq := h.call_eq, slave_ne := h.made.answerable.1, sees := hsees, read_eq := hin, sent_eq := htail, onTheWay := ?_ },
      hreturns registers⟩
    show c.client.nextLayer.incoming ++ s'.outgoing = _
    rw [h.received_eq, hout, h.answered_eq]
    rfl

/-- A conversation keeps its status, or a call that was made takes effect. -/
theorem Matches.serve {status : Status} (h : c.Matches status) :
    ∃ c', Conversation.serve native registers indeterminate k c = (.ok (), c') ∧
      (c'.Matches status ∨
        ∃ op, status = .called op ∧ c'.Matches (.done (effect registers op).1 (effect registers op).2)) := by
  cases status with
  | idle =>
    obtain ⟨c', hrun, hrests⟩ := Rests.serve native registers indeterminate k h
    exact ⟨c', hrun, Or.inl hrests⟩
  | done ec output =>
    obtain ⟨call, answer, hresponse, hreturns⟩ := h
    obtain ⟨c', hrun, hresponse'⟩ := hresponse.serve native registers indeterminate k
    exact ⟨c', hrun, Or.inl ⟨call, answer, hresponse', hreturns⟩⟩
  | called op =>
    obtain ⟨call, phase, part, rfl, hrequest⟩ := h
    cases phase with
    | header =>
      obtain ⟨c', phase', part', hrun, hrequest', -⟩ := hrequest.serve_header native registers indeterminate k
      exact ⟨c', hrun, Or.inl ⟨call, phase', part', rfl, hrequest'⟩⟩
    | body hdr two_le =>
      obtain ⟨c', hrun, ⟨part', hrequest', -⟩ | ⟨answer, hresponse, hreturns⟩⟩ :=
        hrequest.serve_body native registers indeterminate k
      · exact ⟨c', hrun, Or.inl ⟨call, _, part', rfl, hrequest'⟩⟩
      · exact ⟨c', hrun, Or.inr ⟨call.op, rfl, call, answer, hresponse, hreturns⟩⟩
    | closed => exact hrequest.onTheWay.elim
    | overflowed => exact hrequest.onTheWay.elim

/-- Once all of the request has arrived, the server has answered it after two reads of as many bytes as its array has. -/
theorem Requesting.answered (h : c.Requesting call phase part) (hsent : c.client.nextLayer.outgoing = []) :
    ∃ c' answer, (Conversation.serve native registers indeterminate 320 >>= fun _ =>
        Conversation.serve native registers indeterminate 320) c = (.ok (), c') ∧
      c'.Responding call answer ∧ Returns call.plan answer (effect registers call.op) := by
  have hpdu := h.made.sent.length_pdu
  have h7 : MbapHeader.headerSize = 7 := rfl
  have hbody : ∀ {c : Conversation} {hdr : MbapHeader} {two_le : 2 ≤ hdr.length.toNat} {part : List UInt8},
      c.Requesting call (.body hdr two_le) part → c.client.nextLayer.outgoing = [] →
      ∃ c' answer, Conversation.serve native registers indeterminate 320 c = (.ok (), c') ∧ c'.Responding call answer ∧
        Returns call.plan answer (effect registers call.op) := fun {c hdr two_le part} h hsent => by
    obtain ⟨c', hrun, ⟨part', -, hless⟩ | ⟨answer, hresponse, hreturns⟩⟩ := h.serve_body native registers indeterminate 320
    · have hall := congrArg List.length h.onTheWay.2
      rw [hsent, List.append_nil, List.append_nil, List.length_append] at hall
      omega
    · exact ⟨c', answer, hrun, hresponse, hreturns⟩
  cases phase with
  | header =>
    obtain ⟨c₁, phase', part', hrun₁, hrequest, hclient, hfull⟩ := h.serve_header native registers indeterminate 320
    have hall : (part ++ (c.server.incoming ++ c.client.nextLayer.outgoing)).length = (call.header.bytes ++ (call.pdu ++ [])).length :=
      congrArg List.length h.onTheWay
    rw [hsent, List.append_nil, List.append_nil, List.length_append, List.length_append, call.header.length_bytes] at hall
    cases phase' with
    | header => exact absurd rfl (hfull (by omega))
    | body hdr two_le =>
      obtain ⟨c₂, answer, hrun₂, hresponse, hreturns⟩ := hbody hrequest (by rw [hclient, hsent])
      exact ⟨c₂, answer, (Exec.bind_ok hrun₁).trans hrun₂, hresponse, hreturns⟩
    | closed => exact hrequest.onTheWay.elim
    | overflowed => exact hrequest.onTheWay.elim
  | body hdr two_le =>
    obtain ⟨c₁, answer, hrun₁, hresponse₁, hreturns⟩ := hbody h hsent
    obtain ⟨c₂, hrun₂, hresponse₂⟩ := hresponse₁.serve native registers indeterminate 320
    exact ⟨c₂, answer, (Exec.bind_ok hrun₁).trans hrun₂, hresponse₂, hreturns⟩
  | closed => exact h.onTheWay.elim
  | overflowed => exact h.onTheWay.elim

/-- A request is no longer than the array. -/
theorem Requesting.length_sent (h : c.Requesting call phase part) : c.client.nextLayer.outgoing.length ≤ 320 := by
  have hpdu := h.made.sent.length_pdu
  have hway := h.onTheWay
  cases phase with
  | header =>
    have hall : (part ++ (c.server.incoming ++ c.client.nextLayer.outgoing)).length = (call.header.bytes ++ (call.pdu ++ [])).length :=
      congrArg List.length hway
    rw [List.append_nil, List.length_append, List.length_append, List.length_append, call.header.length_bytes] at hall
    have h7 : MbapHeader.headerSize = 7 := rfl
    omega
  | body hdr two_le =>
    have hall := congrArg List.length hway.2
    rw [List.append_nil, List.length_append, List.length_append] at hall
    omega
  | closed => exact hway.elim
  | overflowed => exact hway.elim

/-! ## The call returns -/

/-- A call whose read returns is over. -/
theorem complete_returns (hcall : c.call = some call) {result : ErrorCode × Output} {client : Stream}
    (hfinish : finishCall indeterminate call c.client = (.ok result, client)) :
    complete indeterminate c = (.ok (some result), { c with client, call := none }) := by
  unfold complete
  rw [Exec.bind_state]
  simp only [hcall, hfinish]
  rfl

/-- A call whose read would find the end of the input waits. -/
theorem complete_waits (hcall : c.call = some call) {client : Stream}
    (hread : Stream.readResponse indeterminate call.transactionId call.slave call.plan.response c.client =
      (.error (.systemError endOfFile), client)) : complete indeterminate c = (.ok none, c) := by
  have hfinish : finishCall indeterminate call c.client = (.error (.systemError endOfFile), client) := Exec.bind_error hread
  unfold complete
  rw [Exec.bind_state]
  simp only [hcall, hfinish]
  rfl

/-- Where no call waits, nothing returns. -/
theorem complete_idle (hcall : c.call = none) : complete indeterminate c = (.ok none, c) := by
  unfold complete
  rw [Exec.bind_state]
  simp only [hcall]
  rfl

/-- A call whose request has not been answered waits. -/
theorem Requesting.complete (h : c.Requesting call phase part) : Conversation.complete indeterminate c = (.ok none, c) := by
  obtain ⟨m, hread⟩ := Stream.readResponse_noHeader indeterminate call.transactionId call.plan.response h.made.answerable.1
    (s := c.client) (by rw [h.received_eq]; decide)
  exact complete_waits indeterminate h.call_eq hread

/-- A call that is done waits, or all of its response is there and it returns its result. -/
theorem Responding.complete (h : c.Responding call answer) {result : ErrorCode × Output} (hreturns : Returns call.plan answer result) :
    (c.server.outgoing ≠ [] ∧ Conversation.complete indeterminate c = (.ok none, c)) ∨
      ∃ c', Conversation.complete indeterminate c = (.ok (some result), c') ∧ c'.Rests := by
  have hway : c.client.nextLayer.incoming ++ c.server.outgoing =
      (frameHeader call.transactionId call.slave (PduWrite.write answer)).bytes ++ PduWrite.write answer := h.onTheWay
  have hslave := h.slave_ne
  have hlength := hreturns.length
  by_cases hout : c.server.outgoing = []
  · rw [hout, List.append_nil] at hway
    obtain ⟨m, hread⟩ := Stream.readResponse_answer indeterminate call.plan.response hslave hway hlength
    have hfinish : finishCall indeterminate call c.client =
        (.ok (call.plan.tcpResult indeterminate (PduWrite.write answer)),
          { c.client with messageBuffer := m, nextLayer.incoming := [] }) := Exec.bind_ok hread
    rw [hreturns.tcpResult_eq] at hfinish
    refine Or.inr ⟨_, complete_returns indeterminate h.call_eq hfinish, ?_⟩
    exact { call_eq := rfl, sees := h.sees, read_eq := h.read_eq, sent_eq := h.sent_eq, received_eq := rfl, answered_eq := hout }
  · refine Or.inl ⟨hout, ?_⟩
    have hpos := List.length_pos_iff.mpr hout
    by_cases hshort : c.client.nextLayer.incoming.length < MbapHeader.headerSize
    · obtain ⟨m, hread⟩ := Stream.readResponse_noHeader indeterminate call.transactionId call.plan.response hslave hshort
      exact complete_waits indeterminate h.call_eq hread
    · obtain ⟨hdr, tail, hin⟩ := MbapHeader.exists_bytes (Nat.not_lt.mp hshort)
      rw [hin, List.append_assoc] at hway
      obtain ⟨rfl, htail⟩ := MbapHeader.bytes_append_inj hway
      have hpdu : (PduWrite.write answer).length < 65535 := by omega
      have htotal := congrArg List.length htail
      rw [List.length_append] at htotal
      obtain ⟨m, hread⟩ := Stream.readResponse_short indeterminate call.plan.response hslave hin
        (by rw [frameHeader_length _ _ hpdu]; omega) ((expected_frameHeader _ _ hpdu).mpr hlength)
      exact complete_waits indeterminate h.call_eq hread

/-- A call returns the result that its status has, or nothing. -/
theorem Matches.complete {status : Status} (h : c.Matches status) :
    Conversation.complete indeterminate c = (.ok none, c) ∨
      ∃ ec output c', status = .done ec output ∧ Conversation.complete indeterminate c = (.ok (some (ec, output)), c') ∧
        c'.Matches .idle := by
  cases status with
  | idle => exact Or.inl (complete_idle indeterminate (Rests.call_eq h))
  | called op =>
    obtain ⟨call, phase, part, -, hrequest⟩ := h
    exact Or.inl (hrequest.complete indeterminate)
  | done ec output =>
    obtain ⟨call, answer, hresponse, hreturns⟩ := h
    rcases hresponse.complete indeterminate hreturns with ⟨-, hrun⟩ | ⟨c', hrun, hrests⟩
    · exact Or.inl hrun
    · exact Or.inr ⟨ec, output, c', rfl, hrun, hrests⟩

/-- A call that waits returns after five moves: the request arrives, the server reads it in two steps, the response arrives, and the
master reads it. -/
theorem Matches.finish {status : Status} (h : c.Matches status) (hstatus : status ≠ .idle) :
    ∃ c₁ ec output c', (Conversation.serve native registers indeterminate 320 >>= fun _ =>
          Conversation.serve native registers indeterminate 320) (c.requestArrives 320) = (.ok (), c₁) ∧
      Conversation.complete indeterminate (c₁.responseArrives 320) = (.ok (some (ec, output)), c') ∧ c'.Rests := by
  obtain ⟨c₁, call, answer, result, hserved, hresponse, hreturns⟩ : ∃ c₁ call answer result,
      (Conversation.serve native registers indeterminate 320 >>= fun _ =>
        Conversation.serve native registers indeterminate 320) (c.requestArrives 320) = (.ok (), c₁) ∧
      c₁.Responding call answer ∧ Returns call.plan answer result := by
    cases status with
    | idle => exact absurd rfl hstatus
    | called op =>
      obtain ⟨call, phase, part, -, hrequest⟩ := h
      obtain ⟨c₁, answer, hserved, hresponse, hreturns⟩ :=
        (hrequest.requestArrives 320).answered native registers indeterminate (List.drop_of_length_le hrequest.length_sent)
      exact ⟨c₁, call, answer, _, hserved, hresponse, hreturns⟩
    | done ec output =>
      obtain ⟨call, answer, hresponse, hreturns⟩ := h
      rw [requestArrives_of_sent hresponse.sent_eq]
      obtain ⟨c₁, hrun₁, hresponse₁⟩ := hresponse.serve native registers indeterminate 320
      obtain ⟨c₂, hrun₂, hresponse₂⟩ := hresponse₁.serve native registers indeterminate 320
      exact ⟨c₂, call, answer, _, (Exec.bind_ok hrun₁).trans hrun₂, hresponse₂, hreturns⟩
  obtain ⟨ec, output⟩ := result
  rcases (hresponse.responseArrives 320).complete indeterminate hreturns with ⟨hout, -⟩ | ⟨c', hrun, hrests⟩
  · refine absurd (List.drop_of_length_le ?_) hout
    have hall : (c₁.client.nextLayer.incoming ++ c₁.server.outgoing).length =
        ((frameHeader call.transactionId call.slave (PduWrite.write answer)).bytes ++ PduWrite.write answer).length :=
      congrArg List.length hresponse.onTheWay
    rw [List.length_append, List.length_append, MbapHeader.length_bytes] at hall
    have hlength := hreturns.length
    have h7 : MbapHeader.headerSize = 7 := rfl
    show c₁.server.outgoing.length ≤ 320
    omega
  · exact ⟨c₁, ec, output, c', hserved, hrun, hrests⟩

/-- Whether a call waits is what its status says. -/
theorem Matches.call_isSome {status : Status} (h : c.Matches status) : c.call.isSome = true ↔ status ≠ .idle := by
  cases status with
  | idle =>
    rw [Rests.call_eq h]
    exact ⟨nofun, fun hne => absurd rfl hne⟩
  | called op =>
    obtain ⟨call, phase, part, -, hrequest⟩ := h
    rw [hrequest.call_eq]
    exact ⟨fun _ => nofun, fun _ => rfl⟩
  | done ec output =>
    obtain ⟨call, answer, hresponse, -⟩ := h
    rw [hresponse.call_eq]
    exact ⟨fun _ => nofun, fun _ => rfl⟩

end Conversation

end Mothbus.Examples
