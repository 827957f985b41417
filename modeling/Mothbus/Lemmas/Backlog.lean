import Mathlib.Data.List.Forall2
import Mothbus.Lemmas.World

/-!
# Responses that the master has not read

A master that does not read a response, or not the whole of it, leaves bytes behind that its next call takes for a header. What there is
between a master and the server is then some stale bytes, the responses to the calls that have been answered, and the requests of the
others (`Conversation.Backlog`). If the first of these bytes are a header that the call refuses, that is what it returns, whatever else
happens (`Conversation.Refuses`).
-/

namespace Mothbus.Examples

open ErrorLike (ok failed)
open Tcp

namespace PendingCall

/-- The response is one that the server has for the call: its reply by the registers as they were when it replied. -/
def AnsweredBy (c : PendingCall) (r : Response) : Prop :=
  ∃ registers req, requestOf c.pdu = some req ∧ r = ⟨c.transactionId, c.slave, registerReply registers req⟩

end PendingCall

/-! ## Several requests on the way -/

/-- The bytes on their way to a server that is at the phase, with those that it has stored: the requests of some calls. -/
def Queued : List PendingCall → Phase → List UInt8 → Prop
  | [], phase, l => phase = .header ∧ l = []
  | call :: rest, phase, l => call.OnTheWay (rest.flatMap PendingCall.frame) phase l

/-- Before the header of the first, the requests are on their way as they were sent. -/
theorem queued_header (calls : List PendingCall) : Queued calls .header (calls.flatMap PendingCall.frame) := by
  cases calls with
  | nil => exact ⟨rfl, rfl⟩
  | cons call rest =>
    rw [List.flatMap_cons, PendingCall.frame, List.append_assoc]
    rfl

/-- One more request is sent. -/
theorem Queued.send {calls : List PendingCall} {phase : Phase} {l : List UInt8} (h : Queued calls phase l) (call : PendingCall) :
    Queued (calls ++ [call]) phase (l ++ call.frame) := by
  cases calls with
  | nil =>
    obtain ⟨rfl, rfl⟩ := h
    show call.frame = call.header.bytes ++ (call.pdu ++ [])
    rw [List.append_nil]
    rfl
  | cons first rest =>
    have hframes : (rest ++ [call]).flatMap PendingCall.frame = rest.flatMap PendingCall.frame ++ call.frame := by
      rw [List.flatMap_append, List.flatMap_singleton]
    show first.OnTheWay ((rest ++ [call]).flatMap PendingCall.frame) phase (l ++ call.frame)
    rw [hframes]
    cases phase with
    | header =>
      obtain rfl : l = first.header.bytes ++ (first.pdu ++ rest.flatMap PendingCall.frame) := h
      show _ = first.header.bytes ++ (first.pdu ++ (rest.flatMap PendingCall.frame ++ call.frame))
      rw [List.append_assoc, List.append_assoc]
    | body hdr two_le =>
      obtain ⟨hhdr, rfl⟩ := h
      exact ⟨hhdr, List.append_assoc _ _ _⟩
    | closed => exact h.elim
    | overflowed => exact h.elim

namespace Session

variable {s : Session} {calls : List PendingCall} {phase : Phase} {part tail : List UInt8}

/-- A server reads on in the first of the requests on their way, or has read it and answered it. When the first request is there, a
read of as many bytes as the array has takes it from the header to the body, and from the body to the answer. -/
theorem readSome_queued (registers : List UInt16) (indeterminate : UInt8) (k : Nat) (hsent : ∀ call ∈ calls, call.Sent)
    (hsees : s.Sees part phase) (h : Queued calls phase (part ++ (s.incoming ++ tail))) :
    ∃ s' phase' part', readSome indeterminate (registerReply registers).handler k s = (.ok (), s') ∧ s'.Sees part' phase' ∧
      ((Queued calls phase' (part' ++ (s'.incoming ++ tail)) ∧ s'.outgoing = s.outgoing ∧
          ∀ call rest, calls = call :: rest → tail.length ≤ (rest.flatMap PendingCall.frame).length → 320 ≤ k →
            phase = .header ∧ phase' ≠ .header) ∨
        ∃ call rest r, calls = call :: rest ∧ call.AnsweredBy r ∧ Queued rest phase' (part' ++ (s'.incoming ++ tail)) ∧
          s'.outgoing = s.outgoing ++ r.bytes) := by
  have hfits := registerReply_fits registers
  cases calls with
  | nil =>
    obtain ⟨rfl, hnil⟩ := h
    obtain ⟨rfl, hrest⟩ := List.append_eq_nil_iff.mp hnil
    obtain ⟨hin, rfl⟩ := List.append_eq_nil_iff.mp hrest
    obtain ⟨s', hrun, hsees', hin', hout⟩ := readSome_nothing hfits indeterminate k hsees hin
    have hqueued : Queued [] .header ([] ++ (s'.incoming ++ [])) := ⟨rfl, by rw [hin']; rfl⟩
    exact ⟨s', .header, [], hrun, hsees', Or.inl ⟨hqueued, hout, fun call rest hnil => absurd hnil (List.cons_ne_nil call rest).symm⟩⟩
  | cons call rest =>
    have hcall := hsent call List.mem_cons_self
    have hlength := hcall.length_pdu
    have h7 : MbapHeader.headerSize = 7 := rfl
    cases phase with
    | header =>
      obtain ⟨s', phase', part', hrun, hsees', hway, hout, hfull⟩ := readSome_requestHeader hfits indeterminate k hcall hsees h
      refine ⟨s', phase', part', hrun, hsees', Or.inl ⟨hway, hout, ?_⟩⟩
      rintro _ _ heq htail hk
      obtain ⟨rfl, rfl⟩ := List.cons.inj heq
      refine ⟨rfl, hfull ?_⟩
      have hall : (part ++ (s.incoming ++ tail)).length = (call.header.bytes ++ (call.pdu ++ rest.flatMap PendingCall.frame)).length :=
        congrArg List.length h
      simp only [List.length_append, call.header.length_bytes] at hall
      omega
    | body hdr two_le =>
      obtain ⟨req, hreq⟩ := exists_request hcall.plan_eq
      obtain ⟨s', hrun, ⟨part', hsees', hway, hout, hless⟩ | ⟨hsees', hleft, hout⟩⟩ :=
        readSome_requestBody hfits indeterminate k hcall hreq hsees h
      · refine ⟨s', _, part', hrun, hsees', Or.inl ⟨hway, hout, ?_⟩⟩
        rintro _ _ heq htail hk
        obtain ⟨rfl, rfl⟩ := List.cons.inj heq
        have hall := congrArg List.length h.2
        simp only [List.length_append] at hall
        omega
      · refine ⟨s', .header, [], hrun, hsees', Or.inr ⟨call, rest, _, rfl, ⟨registers, req, hreq, rfl⟩, ?_, hout⟩⟩
        rw [List.nil_append, hleft]
        exact queued_header rest
    | closed => exact h.elim
    | overflowed => exact h.elim

/-- The coroutine waits for the rest of a header. -/
def WaitsForHeader (s : Session) : Prop := ∃ r, s.point = .header r

/-- Only in the phase before a header does the coroutine wait for one. -/
theorem Sees.waitsForHeader_iff (h : s.Sees part phase) : s.WaitsForHeader ↔ phase = .header := by
  cases phase with
  | header =>
    obtain ⟨r, hpoint, -⟩ := h
    exact ⟨fun _ => rfl, fun _ => ⟨r, hpoint⟩⟩
  | body hdr two_le =>
    obtain ⟨r, hpoint, -⟩ := h
    refine ⟨?_, nofun⟩
    rintro ⟨r', hpoint'⟩
    rw [hpoint] at hpoint'
    nomatch hpoint'
  | closed =>
    refine ⟨?_, nofun⟩
    rintro ⟨r', hpoint'⟩
    rw [h.1] at hpoint'
    nomatch hpoint'
  | overflowed => exact h.elim

end Session

/-! ## The call that is sent -/

/-- A call is only sent with a request that fits. -/
theorem sent_of_startCall {slave : UInt8} {op : Operation} {call : PendingCall} {s s' : Stream}
    (h : startCall slave op s = (.ok call, s')) : ∃ p, op.plan = .ok p ∧ p.Sends 313 := by
  obtain ⟨p, s₁, hp, hrest⟩ := Exec.bind_eq_ok h
  obtain ⟨transactionId, s₂, hwrite, hrest⟩ := Exec.bind_eq_ok hrest
  obtain ⟨u, s₃, hassert, -⟩ := Exec.bind_eq_ok hrest
  refine ⟨p, (Prod.mk.inj hp).1, ?_⟩
  have hnot : ¬(PduWrite.asserts p.request = false ∨ 313 < (PduWrite.write p.request).length) := fun hfault => by
    obtain ⟨f, herror, -⟩ := Stream.writeRequest_error slave s₁ hfault
    rw [herror] at hwrite
    nomatch hwrite
  rw [not_or, Bool.not_eq_false, Nat.not_lt] at hnot
  refine ⟨hnot.1, ?_, hnot.2⟩
  cases hasserts : p.asserts with
  | true => rfl
  | false =>
    rw [hasserts] at hassert
    nomatch hassert

/-! ## Between a master and the server -/

namespace Conversation

/-- What there is between the master and the server: stale bytes that are the first that the master reads, a response to each of the calls
that have been served, and the requests of the others. -/
structure Backlog (c : Conversation) (stale : List UInt8) (served queued : List PendingCall) : Prop where
  sent : ∀ call ∈ queued, call.Sent
  requests : ∃ part phase, c.server.Sees part phase ∧
    Queued queued phase (part ++ (c.server.incoming ++ c.client.nextLayer.outgoing))
  unread : ∃ responses, List.Forall₂ PendingCall.AnsweredBy served responses ∧
    c.client.nextLayer.incoming ++ c.server.outgoing = stale ++ responses.flatMap Response.bytes

variable {c c' : Conversation} {stale : List UInt8} {served queued : List PendingCall} {call : PendingCall}

/-- Where a master rests there is no backlog. -/
theorem Rests.backlog (h : c.Rests) : c.Backlog [] [] [] where
  sent _ hmem := absurd hmem List.not_mem_nil
  requests := by
    have hqueued : Queued [] .header ([] ++ (c.server.incoming ++ c.client.nextLayer.outgoing)) :=
      ⟨rfl, by rw [h.read_eq, h.sent_eq]; rfl⟩
    exact ⟨[], .header, h.sees, hqueued⟩
  unread := by
    refine ⟨[], .nil, ?_⟩
    rw [h.received_eq, h.answered_eq]
    rfl

/-- The backlog is the same when requests arrive. -/
theorem Backlog.requestArrives (h : c.Backlog stale served queued) (k : Nat) : (c.requestArrives k).Backlog stale served queued :=
  { h with
    requests := by
      obtain ⟨part, phase, hsees, hqueued⟩ := h.requests
      rw [← List.take_append_drop k c.client.nextLayer.outgoing, ← List.append_assoc c.server.incoming] at hqueued
      refine ⟨part, phase, ?_, hqueued⟩
      cases phase <;> exact hsees }

/-- So it is when responses arrive. -/
theorem Backlog.responseArrives (h : c.Backlog stale served queued) (k : Nat) : (c.responseArrives k).Backlog stale served queued :=
  { h with
    unread := by
      obtain ⟨responses, hserved, hunread⟩ := h.unread
      refine ⟨responses, hserved, ?_⟩
      show (c.client.nextLayer.incoming ++ c.server.outgoing.take k) ++ c.server.outgoing.drop k = _
      rw [List.append_assoc, List.take_append_drop, hunread] }

/-- The server reads on in the first request, or answers it. -/
theorem Backlog.serve (h : c.Backlog stale served queued) (native : Endian) (registers : List UInt16) (indeterminate : UInt8) (k : Nat) :
    ∃ c', Conversation.serve native registers indeterminate k c = (.ok (), c') ∧ c'.client = c.client ∧ c'.call = c.call ∧
      ((c'.Backlog stale served queued ∧ ∀ call rest, queued = call :: rest →
          c.client.nextLayer.outgoing.length ≤ (rest.flatMap PendingCall.frame).length → 320 ≤ k →
            c.server.WaitsForHeader ∧ ¬c'.server.WaitsForHeader) ∨
        ∃ call rest, queued = call :: rest ∧ c'.Backlog stale (served ++ [call]) rest) := by
  obtain ⟨part, phase, hsees, hqueued⟩ := h.requests
  obtain ⟨responses, hserved, hunread⟩ := h.unread
  obtain ⟨s', phase', part', hrun, hsees', hstep⟩ := Session.readSome_queued registers indeterminate k h.sent hsees hqueued
  refine ⟨_, serve_ok native registers indeterminate k hrun, rfl, rfl, ?_⟩
  rcases hstep with ⟨hqueued', hout, hfull⟩ | ⟨call, rest, r, rfl, hr, hqueued', hout⟩
  · refine Or.inl ⟨⟨h.sent, ⟨part', phase', hsees', hqueued'⟩, responses, hserved, ?_⟩, fun call rest hcall htail hk => ?_⟩
    · rw [← hunread]
      exact congrArg _ hout
    · rw [hsees.waitsForHeader_iff, hsees'.waitsForHeader_iff]
      exact hfull call rest hcall htail hk
  · refine Or.inr ⟨call, rest, rfl, fun other hother => h.sent other (List.mem_cons_of_mem _ hother),
      ⟨part', phase', hsees', hqueued'⟩, responses ++ [r], List.rel_append hserved (.cons hr .nil), ?_⟩
    show c.client.nextLayer.incoming ++ s'.outgoing = _
    rw [hout, ← List.append_assoc]
    show (c.client.nextLayer.incoming ++ c.server.outgoing) ++ r.bytes = _
    rw [hunread, List.flatMap_append, List.flatMap_singleton, List.append_assoc]

/-- Whatever travels, the calls are the same. -/
theorem Backlog.travels {native : Endian} (h : c.Backlog stale served queued) (hstep : c.Travels native c') :
    c'.call = c.call ∧ c'.client.transactionId = c.client.transactionId ∧
      ∃ served' queued', served' ++ queued' = served ++ queued ∧ c'.Backlog stale served' queued' := by
  cases hstep with
  | requestArrives k => exact ⟨rfl, rfl, served, queued, rfl, h.requestArrives k⟩
  | responseArrives k => exact ⟨rfl, rfl, served, queued, rfl, h.responseArrives k⟩
  | serve registers indeterminate k hserve =>
    obtain ⟨c₁, hrun, hclient, hcall, hbacklog⟩ := h.serve native registers indeterminate k
    obtain ⟨-, rfl⟩ := Exec.ok_unique hrun hserve
    refine ⟨hcall, by rw [hclient], ?_⟩
    rcases hbacklog with ⟨hbacklog, -⟩ | ⟨first, rest, rfl, hbacklog⟩
    · exact ⟨served, queued, rfl, hbacklog⟩
    · exact ⟨served ++ [first], rest, (List.append_cons served first rest).symm, hbacklog⟩

/-- A call that is made is the last one that waits for the server. -/
theorem Backlog.start (h : c.Backlog stale served queued) {slave : UInt8} {op : Operation}
    (hstart : Conversation.start slave op c = (.ok (), c')) :
    ∃ call, c'.call = some call ∧ call.op = op ∧ call.slave = slave ∧ call.transactionId = c.client.transactionId ∧ call.Sent ∧
      c'.Backlog stale served (queued ++ [call]) := by
  obtain ⟨call, c₁, hcall, hset⟩ := Exec.bind_eq_ok hstart
  obtain ⟨hresult, rfl⟩ := Prod.mk.inj hcall
  obtain ⟨p, hp, hsends⟩ := sent_of_startCall (s := c.client) (Prod.ext hresult rfl)
  obtain ⟨m, hok⟩ := startCall_ok slave hp hsends c.client
  rw [hok] at hresult hset
  obtain rfl := Except.ok.inj hresult
  obtain ⟨-, rfl⟩ := Prod.mk.inj hset
  have hsent : PendingCall.Sent { slave, op, plan := p, transactionId := c.client.transactionId } := ⟨hp, hsends⟩
  refine ⟨_, rfl, rfl, rfl, rfl, hsent, ?_, ?_, h.unread⟩
  · intro call hmem
    rcases List.mem_append.mp hmem with hmem | hmem
    · exact h.sent call hmem
    · obtain rfl := List.mem_singleton.mp hmem
      exact hsent
  · obtain ⟨part, phase, hsees, hqueued⟩ := h.requests
    refine ⟨part, phase, hsees, ?_⟩
    have hqueued' := hqueued.send { slave, op, plan := p, transactionId := c.client.transactionId }
    rw [List.append_assoc, List.append_assoc] at hqueued'
    exact hqueued'

/-! ## The next header -/

variable (indeterminate : UInt8)

/-- A call whose response would start with a header that it refuses returns the error and leaves the span as it was; only the header has
been read. -/
theorem complete_refused (hcall : c.call = some call) (hplan : call.op.plan = .ok call.plan) (hslave : call.slave ≠ 0) {hdr : MbapHeader}
    {unread : List UInt8} (hfront : c.client.nextLayer.incoming ++ c.server.outgoing = hdr.bytes ++ unread) {code : ModbusExceptionCode}
    (hcode : hdr.refusal call.transactionId call.slave = some code) :
    (c.client.nextLayer.incoming.length < MbapHeader.headerSize ∧ complete indeterminate c = (.ok none, c)) ∨
      ∃ tail m, tail ++ c.server.outgoing = unread ∧ complete indeterminate c = (.ok (some (makeErrorCode code, call.op.output)),
        { c with client := { c.client with messageBuffer := m, nextLayer.incoming := tail }, call := none }) := by
  by_cases hshort : c.client.nextLayer.incoming.length < MbapHeader.headerSize
  · obtain ⟨m, hread⟩ := Stream.readResponse_noHeader indeterminate call.transactionId call.plan.response hslave hshort
    exact Or.inl ⟨hshort, complete_waits indeterminate hcall hread⟩
  · obtain ⟨hdr', tail, hin⟩ := MbapHeader.exists_bytes (Nat.not_lt.mp hshort)
    rw [hin, List.append_assoc] at hfront
    obtain ⟨rfl, htail⟩ := MbapHeader.bytes_append_inj hfront
    obtain ⟨m, hread⟩ := Stream.readResponse_refused indeterminate call.plan.response hslave hin hcode
    have hfinish : finishCall indeterminate call c.client = (.ok (makeErrorCode code, call.op.output),
        { c.client with messageBuffer := m, nextLayer.incoming := tail }) := by
      rw [← (Operation.ends hplan).failure _ (MbapHeader.refusal_failed hcode)]
      exact Exec.bind_ok hread
    exact Or.inr ⟨tail, m, htail, complete_returns indeterminate hcall hfinish⟩

/-- A call to slave 0 returns at once, and reads nothing. -/
theorem complete_broadcast (hcall : c.call = some call) (hslave : call.slave = 0) :
    ∃ result, complete indeterminate c = (.ok (some result), { c with call := none }) := by
  have hread : Stream.readResponse indeterminate call.transactionId call.slave call.plan.response c.client =
      (.ok (makeErrorCode .success, call.plan.response), c.client) := by
    unfold Stream.readResponse
    rw [if_pos hslave]
    rfl
  exact ⟨_, complete_returns indeterminate hcall (Exec.bind_ok hread)⟩

/-- The header that a call reads first is one that it refuses: it is stale, or that of the response to another call. -/
def FirstRefused (call : PendingCall) (code : ModbusExceptionCode) (stale : List UInt8) (calls : List PendingCall) : Prop :=
  (∃ (hdr : MbapHeader) (unread : List UInt8), stale = hdr.bytes ++ unread ∧ hdr.refusal call.transactionId call.slave = some code) ∨
    stale = [] ∧ ∃ first rest, calls = first :: rest ∧ ∀ pdu,
      (frameHeader first.transactionId first.slave pdu).refusal call.transactionId call.slave = some code

/-- The call that waits is to be refused, whatever else happens. -/
structure Refuses (c : Conversation) (call : PendingCall) (code : ModbusExceptionCode) (stale : List UInt8)
    (served queued : List PendingCall) : Prop where
  call_eq : c.call = some call
  plan_eq : call.op.plan = .ok call.plan
  slave_ne : call.slave ≠ 0
  backlog : c.Backlog stale served queued
  first : FirstRefused call code stale (served ++ queued)

variable {code : ModbusExceptionCode}

/-- The header is there, or the server has still to answer the first of the requests. -/
theorem Refuses.front (h : c.Refuses call code stale served queued) :
    (∃ (hdr : MbapHeader) (unread : List UInt8), c.client.nextLayer.incoming ++ c.server.outgoing = hdr.bytes ++ unread ∧
      hdr.refusal call.transactionId call.slave = some code) ∨
    (c.client.nextLayer.incoming ++ c.server.outgoing = [] ∧ stale = [] ∧ served = [] ∧ queued ≠ []) := by
  obtain ⟨responses, hserved, hunread⟩ := h.backlog.unread
  rcases h.first with ⟨hdr, unread, rfl, hcode⟩ | ⟨rfl, first, rest, hcalls, hcode⟩
  · rw [List.append_assoc] at hunread
    exact Or.inl ⟨hdr, _, hunread, hcode⟩
  · cases hserved with
    | nil =>
      rw [List.nil_append] at hcalls
      exact Or.inr ⟨hunread, rfl, rfl, by rw [hcalls]; exact List.cons_ne_nil first rest⟩
    | cons hr hmore =>
      obtain ⟨rfl, -⟩ := List.cons.inj hcalls
      obtain ⟨registers, req, -, rfl⟩ := hr
      rw [List.nil_append, List.flatMap_cons, Response.bytes, List.append_assoc] at hunread
      exact Or.inl ⟨_, _, hunread, hcode _⟩

/-- It waits on, or returns the error. -/
theorem Refuses.complete (h : c.Refuses call code stale served queued) :
    Conversation.complete indeterminate c = (.ok none, c) ∨ ∃ c', c'.call = none ∧
      Conversation.complete indeterminate c = (.ok (some (makeErrorCode code, call.op.output)), c') := by
  rcases h.front with ⟨hdr, unread, hfront, hcode⟩ | ⟨hnothing, -⟩
  · rcases complete_refused indeterminate h.call_eq h.plan_eq h.slave_ne hfront hcode with ⟨-, hrun⟩ | ⟨tail, m, -, hrun⟩
    · exact Or.inl hrun
    · exact Or.inr ⟨_, rfl, hrun⟩
  · obtain ⟨hin, -⟩ := List.append_eq_nil_iff.mp hnothing
    obtain ⟨m, hread⟩ := Stream.readResponse_noHeader indeterminate call.transactionId call.plan.response h.slave_ne
      (s := c.client) (by rw [hin]; decide)
    exact Or.inl (complete_waits indeterminate h.call_eq hread)

theorem Refuses.requestArrives (h : c.Refuses call code stale served queued) (k : Nat) :
    (c.requestArrives k).Refuses call code stale served queued :=
  { h with backlog := h.backlog.requestArrives k }

theorem Refuses.responseArrives (h : c.Refuses call code stale served queued) (k : Nat) :
    (c.responseArrives k).Refuses call code stale served queued :=
  { h with backlog := h.backlog.responseArrives k }

/-- Whatever travels, the call is still to be refused. -/
theorem Refuses.travels {native : Endian} (h : c.Refuses call code stale served queued) (hstep : c.Travels native c') :
    ∃ served' queued', c'.Refuses call code stale served' queued' := by
  obtain ⟨hcall, -, served', queued', hcalls, hbacklog⟩ := h.backlog.travels hstep
  exact ⟨served', queued', hcall.trans h.call_eq, h.plan_eq, h.slave_ne, hbacklog, by rw [hcalls]; exact h.first⟩

/-- So it is when the server reads on. As long as no call has been answered then, the server has only got from the header of the first
request to its body. -/
theorem Refuses.serve (h : c.Refuses call code stale served queued) (native : Endian) (registers : List UInt16) (k : Nat) :
    ∃ c' served' queued', Conversation.serve native registers indeterminate k c = (.ok (), c') ∧
      c'.Refuses call code stale served' queued' ∧ c'.client = c.client ∧
      (served ++ queued = served' ++ queued') ∧ (served' = [] → served = [] ∧ ∀ call rest, queued = call :: rest →
          c.client.nextLayer.outgoing.length ≤ (rest.flatMap PendingCall.frame).length → 320 ≤ k →
            c.server.WaitsForHeader ∧ ¬c'.server.WaitsForHeader) := by
  obtain ⟨c', hrun, hclient, hcall, ⟨hbacklog, hfull⟩ | ⟨first, rest, rfl, hbacklog⟩⟩ := h.backlog.serve native registers indeterminate k
  · have hrefuses : c'.Refuses call code stale served queued := { h with call_eq := hcall.trans h.call_eq, backlog := hbacklog }
    exact ⟨c', served, queued, hrun, hrefuses, hclient, rfl, fun hnil => ⟨hnil, hfull⟩⟩
  · have hcalls : served ++ first :: rest = (served ++ [first]) ++ rest := List.append_cons served first rest
    refine ⟨c', served ++ [first], rest, hrun, ⟨hcall.trans h.call_eq, h.plan_eq, h.slave_ne, hbacklog, ?_⟩, hclient, hcalls, ?_⟩
    · rw [← hcalls]
      exact h.first
    · intro hnil
      exact absurd hnil (List.append_ne_nil_of_right_ne_nil served (List.cons_ne_nil first []))

/-- What the master has sent and has not arrived is no more than the first request and the others. -/
theorem Backlog.length_sent {rest : List PendingCall} (h : c.Backlog stale served (call :: rest)) :
    c.client.nextLayer.outgoing.length ≤ 320 + (rest.flatMap PendingCall.frame).length := by
  obtain ⟨part, phase, -, hqueued⟩ := h.requests
  have hlength := (h.sent call List.mem_cons_self).length_pdu
  have h7 : MbapHeader.headerSize = 7 := rfl
  cases phase with
  | header =>
    have hall : (part ++ (c.server.incoming ++ c.client.nextLayer.outgoing)).length =
        (call.header.bytes ++ (call.pdu ++ rest.flatMap PendingCall.frame)).length := congrArg List.length hqueued
    simp only [List.length_append, call.header.length_bytes] at hall
    omega
  | body hdr two_le =>
    have hall := congrArg List.length hqueued.2
    simp only [List.length_append] at hall
    omega
  | closed => exact hqueued.elim
  | overflowed => exact hqueued.elim

/-- The call returns by the five moves by which the others return. -/
theorem Refuses.finish (h : c.Refuses call code stale served queued) (native : Endian) (registers : List UInt16) :
    ∃ c₁ c', (Conversation.serve native registers indeterminate 320 >>= fun _ =>
          Conversation.serve native registers indeterminate 320) (c.requestArrives 320) = (.ok (), c₁) ∧
      Conversation.complete indeterminate (c₁.responseArrives 320) = (.ok (some (makeErrorCode code, call.op.output)), c') := by
  have harrived : ∀ call rest, queued = call :: rest →
      (c.requestArrives 320).client.nextLayer.outgoing.length ≤ (rest.flatMap PendingCall.frame).length := by
    rintro call rest rfl
    have hlen := h.backlog.length_sent
    show (c.client.nextLayer.outgoing.drop 320).length ≤ _
    rw [List.length_drop]
    omega
  obtain ⟨c₀, served₀, queued₀, hrun₀, h₀, hclient₀, hcalls₀, hfull₀⟩ := (h.requestArrives 320).serve indeterminate native registers 320
  obtain ⟨c₁, served₁, queued₁, hrun₁, h₁, -, hcalls₁, hfull₁⟩ := h₀.serve indeterminate native registers 320
  refine ⟨c₁, ?_⟩
  have hfront : ∃ (hdr : MbapHeader) (unread : List UInt8), c₁.client.nextLayer.incoming ++ c₁.server.outgoing = hdr.bytes ++ unread ∧
      hdr.refusal call.transactionId call.slave = some code := by
    rcases h₁.front with hfront | ⟨-, -, hnil₁, hqueued₁⟩
    · exact hfront
    · -- neither read has answered the first request: the first has stopped at its body, and the second there again
      obtain ⟨hnil₀, hwaits₁⟩ := hfull₁ hnil₁
      obtain ⟨hnil, hwaits₀⟩ := hfull₀ hnil₀
      rw [hnil₁, hnil₀, List.nil_append, List.nil_append] at hcalls₁
      rw [hnil₀, hnil, List.nil_append, List.nil_append] at hcalls₀
      obtain ⟨first, rest, hfirst⟩ := List.exists_cons_of_ne_nil hqueued₁
      have hqueued : queued = first :: rest := hcalls₀.trans (hcalls₁.trans hfirst)
      have hsent := harrived first rest hqueued
      have hbody := (hwaits₀ first rest hqueued hsent (Nat.le_refl 320)).2
      rw [← hclient₀] at hsent
      exact absurd (hwaits₁ first rest (hcalls₁.trans hfirst) hsent (Nat.le_refl 320)).1 hbody
  obtain ⟨hdr, unread, hfront, hcode⟩ := hfront
  have hfront' : (c₁.responseArrives 320).client.nextLayer.incoming ++ (c₁.responseArrives 320).server.outgoing = hdr.bytes ++ unread := by
    rw [← hfront]
    show (c₁.client.nextLayer.incoming ++ c₁.server.outgoing.take 320) ++ c₁.server.outgoing.drop 320 = _
    rw [List.append_assoc, List.take_append_drop]
  have hreturns := complete_refused indeterminate (h₁.responseArrives 320).call_eq h₁.plan_eq h₁.slave_ne hfront' hcode
  rcases hreturns with ⟨hshort, -⟩ | ⟨tail, m, -, hrun⟩
  · have hall := congrArg List.length hfront
    have hless : (c₁.client.nextLayer.incoming ++ c₁.server.outgoing.take 320).length < MbapHeader.headerSize := hshort
    have h7 : MbapHeader.headerSize = 7 := rfl
    simp only [List.length_append, List.length_take, hdr.length_bytes] at hall hless
    omega
  · exact ⟨_, (Exec.bind_ok hrun₀).trans hrun₁, hrun⟩

/-! ## Reads of 124 and 125 registers -/

/-- What a read of 124 or 125 registers leaves behind: nothing, when there are not so many registers, and else the body of the response,
which starts with the function code and the byte count. -/
def LeftBehind (quantity : UInt16) (ec : ErrorCode) (stale : List UInt8) : Prop :=
  ec = makeErrorCode .illegalDataAddress ∧ stale = [] ∨
    ec = makeErrorCode .invalidResponse ∧ ∃ (hdr : MbapHeader) (unread : List UInt8), stale = hdr.bytes ++ unread ∧
      hdr.transactionId = 0x0300 + 2 * quantity

end Conversation

end Mothbus.Examples
