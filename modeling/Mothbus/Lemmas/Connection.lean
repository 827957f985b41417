import Mothbus.Examples.Connection
import Mothbus.Examples.Transcript
import Mothbus.Lemmas.Pieces

/-!
# The callback server follows its transcript

As for the coroutine, but looked at as if the bytes of a read that is not over were still at the socket: each completion then takes one
header or one body. The callback answers where nothing is outstanding, so that nothing that has been stored is written over.
-/

namespace Mothbus.Examples.Connection

open ErrorLike (ok failed)
open Tcp

/-- Where a connection is in its loop. -/
def Sees (s : Server) : Phase → Prop
  | .header => ∃ op, s.pending = some ⟨MbapHeader.headerSize, .parseHeader op⟩ ∧ op.source.Drained 0
  | .body h _ => h.length.toNat - 1 ≤ 313 ∧ ∃ op, s.pending = some ⟨h.length.toNat - 1, .parseBody op⟩ ∧
      op.source.Drained MbapHeader.headerSize ∧ op.transactionId = h.transactionId ∧ op.slave = h.unitId
  | .closed => s.pending = none
  | .overflowed => False

/-- A connection that reads waits for a header. -/
theorem sees_asyncRead (s : Server) : ∃ s', asyncRead s = (.ok (), s') ∧ Sees s' .header ∧ s'.stream = s.stream :=
  ⟨_, rfl, ⟨_, rfl, Buffer.drained_empty _⟩, rfl⟩

/-- The outstanding read completes at once, and what the callback is invoked with is handled. -/
def complete (indeterminate : UInt8) (handler : RequestHandler) : Exec Fault Server Unit := do
  let before ← Exec.state
  Server.complete indeterminate
  let after ← Exec.state
  (after.calls.drop before.calls.length).forM (onRead handler)

/-- A connection that has come to its state by the bytes that have arrived. -/
structure Follows (reply : Reply) (s : Server) (arrived : List UInt8) (phase : Phase) (responses : List Response) : Prop where
  sees : Sees s phase
  outgoing_eq : s.stream.nextLayer.outgoing = responses.flatMap Response.bytes
  transcript_eq : ∀ more, Loop.connection.transcript reply (arrived ++ more) =
    Consumer.prepend responses ((Loop.connection.server reply).drain phase (s.stream.nextLayer.incoming ++ more))

/-- What a completion does: it takes some bytes and does with them what the loop does. -/
structure Reaches (reply : Reply) (s s' : Server) (phase phase' : Phase) : Prop where
  sees : Sees s' phase'
  exists_step : ∃ bytes rest responses, s.stream.nextLayer.incoming = bytes ++ rest ∧ s'.stream.nextLayer.incoming = rest ∧
    (Loop.connection.server reply).need phase = some bytes.length ∧
    (Loop.connection.server reply).step phase bytes = (phase', responses) ∧
    s'.stream.nextLayer.outgoing = s.stream.nextLayer.outgoing ++ responses.flatMap Response.bytes

variable {reply : Reply} {s : Server}

/-- The callback is invoked with a request: it is answered, and the next read is outstanding. -/
theorem onRead_request (hfits : reply.Fits) {c : Callback} (hc : failed c.ec = false) (s : Server) :
    ∃ s', onRead reply.handler c s = (.ok (), s') ∧ Sees s' .header ∧
      s'.stream.nextLayer.incoming = s.stream.nextLayer.incoming ∧
      s'.stream.nextLayer.outgoing = s.stream.nextLayer.outgoing ++ (Response.mk c.transactionId c.slave (reply s.request)).bytes := by
  obtain ⟨m, hwrite⟩ := hfits.handler_ok c.transactionId c.slave s.request s.stream
  unfold onRead handle
  rw [hc]
  simp only [Bool.false_eq_true, if_false]
  rw [Exec.bind_state, Exec.bind_ok (Exec.within_apply _ hwrite)]
  exact ⟨_, rfl, ⟨_, rfl, Buffer.drained_empty _⟩, rfl, rfl⟩

/-- The header read completes. -/
theorem complete_header (indeterminate : UInt8) (h : Sees s .header)
    (hthere : MbapHeader.headerSize ≤ s.stream.nextLayer.incoming.length) :
    ∃ s' phase', complete indeterminate reply.handler s = (.ok (), s') ∧ Reaches reply s s' .header phase' := by
  obtain ⟨op, hpending, hdrained⟩ := h
  obtain ⟨hdr, tail, hin⟩ := MbapHeader.exists_bytes hthere
  unfold complete
  rw [Exec.bind_state]
  by_cases hvalid : hdr.isValidLength = true
  · have hcheck : Loop.connection.check hdr = .accept := if_pos hvalid
    have hsize := (hdr.isValidLength_iff).mp hvalid
    obtain ⟨source, hsource, hrun⟩ := Server.complete_header indeterminate hpending hdrained hin hvalid
    rw [Exec.bind_ok hrun, Exec.bind_state]
    simp only [List.drop_length]
    refine ⟨_, .body hdr (Loop.connection.two_le hdr hcheck), rfl, ?_, hdr.bytes, tail, [], hin, rfl, rfl, ?_, ?_⟩
    · exact ⟨by omega, _, rfl, hsource, rfl, rfl⟩
    · exact (Loop.step_header hdr).trans (Loop.afterHeader_accept hcheck)
    · exact (List.append_nil _).symm
  · have hcheck : Loop.connection.check hdr = .close := if_neg hvalid
    obtain ⟨m, hrun⟩ := Server.complete_invalid indeterminate hpending hdrained hin (Bool.not_eq_true _ ▸ hvalid)
    rw [Exec.bind_ok hrun, Exec.bind_state]
    simp only [List.drop_left]
    refine ⟨_, .closed, rfl, rfl, hdr.bytes, tail, [], hin, rfl, rfl, ?_, ?_⟩
    · exact (Loop.step_header hdr).trans (Loop.afterHeader_close hcheck)
    · exact (List.append_nil _).symm

/-- The body read completes. -/
theorem complete_body (hfits : reply.Fits) (indeterminate : UInt8) {h : MbapHeader} {two_le : 2 ≤ h.length.toNat}
    (hsees : Sees s (.body h two_le)) (hthere : h.length.toNat - 1 ≤ s.stream.nextLayer.incoming.length) :
    ∃ s' phase', complete indeterminate reply.handler s = (.ok (), s') ∧ Reaches reply s s' (.body h two_le) phase' := by
  obtain ⟨hroom, op, hpending, hdrained, htransaction, hslave⟩ := hsees
  have hin : s.stream.nextLayer.incoming =
      s.stream.nextLayer.incoming.take (h.length.toNat - 1) ++ s.stream.nextLayer.incoming.drop (h.length.toNat - 1) :=
    (List.take_append_drop _ _).symm
  have hlen : (s.stream.nextLayer.incoming.take (h.length.toNat - 1)).length = h.length.toNat - 1 := by
    rw [List.length_take]
    omega
  unfold complete
  rw [Exec.bind_state]
  generalize s.stream.nextLayer.incoming.take (h.length.toNat - 1) = pdu at hin hlen
  generalize s.stream.nextLayer.incoming.drop (h.length.toNat - 1) = tail at hin
  have h7 : MbapHeader.headerSize = 7 := rfl
  rw [← hlen] at hpending
  obtain ⟨m, hrun⟩ := Server.complete_body indeterminate hpending hdrained hin (by omega)
  rw [Exec.bind_ok hrun, Exec.bind_state]
  simp only [List.drop_left]
  cases hreq : requestOf pdu with
  | none =>
    have houtcome := outcome_of_nonrequest indeterminate s.request hreq
    have hstop : ∀ t, onRead reply.handler ⟨op.transactionId, op.slave, (Server.outcome indeterminate s.request pdu).1⟩ t = (.ok (), t) := by
      intro t
      unfold onRead
      rw [houtcome]
      rfl
    refine ⟨_, .closed, Exec.forM_singleton (hstop _), rfl, pdu, tail, [], hin, rfl, ?_, ?_, ?_⟩
    · rw [Loop.need_body hroom, hlen]
    · exact afterBody_undecodable hroom hreq
    · exact (List.append_nil _).symm
  | some req =>
    have houtcome := outcome_of_request indeterminate s.request hreq
    rw [houtcome]
    obtain ⟨s', honRead, hsees', hincoming, houtgoing⟩ := onRead_request hfits (c := ⟨op.transactionId, op.slave, ok⟩) rfl
      { s with
        pending := none, stream.messageBuffer := m, stream.nextLayer.incoming := tail, request := req,
        calls := s.calls ++ [⟨op.transactionId, op.slave, ok⟩] }
    refine ⟨s', .header, Exec.forM_singleton honRead, hsees', pdu, tail, [⟨h.transactionId, h.unitId, reply req⟩], hin, hincoming, ?_, ?_, ?_⟩
    · rw [Loop.need_body hroom, hlen]
    · exact afterBody_request hroom hreq
    · rw [houtgoing, List.flatMap_singleton, htransaction, hslave]

/-! ## Runs -/

variable {arrived : List UInt8} {phase : Phase} {responses : List Response}

/-- A completion takes a connection along its transcript. -/
theorem Follows.complete (hfits : reply.Fits) (indeterminate : UInt8) (h : Follows reply s arrived phase responses) {p : PendingRead}
    (hp : s.pending = some p) (hthere : p.size ≤ s.stream.nextLayer.incoming.length) :
    ∃ s' phase' responses', Connection.complete indeterminate reply.handler s = (.ok (), s') ∧
      Follows reply s' arrived phase' responses' := by
  have hsees := h.sees
  obtain ⟨s', phase', hrun, hreaches⟩ : ∃ s' phase', Connection.complete indeterminate reply.handler s = (.ok (), s') ∧
      Reaches reply s s' phase phase' := by
    cases phase with
    | overflowed => exact hsees.elim
    | closed => cases hp.symm.trans hsees
    | header =>
      obtain ⟨op, hpending, -⟩ := id hsees
      obtain rfl := Option.some.inj (hpending.symm.trans hp)
      exact complete_header indeterminate hsees hthere
    | body hdr two_le =>
      obtain ⟨-, op, hpending, -⟩ := id hsees
      obtain rfl := Option.some.inj (hpending.symm.trans hp)
      exact complete_body hfits indeterminate hsees hthere
  obtain ⟨hsees', bytes, rest, out, hin, hrest, hneed, hnext, hout⟩ := hreaches
  refine ⟨s', phase', responses ++ out, hrun, hsees', ?_, fun more => ?_⟩
  · rw [hout, h.outgoing_eq, List.flatMap_append]
  · rw [h.transcript_eq, hin, hrest, List.append_assoc, Consumer.drain_append_step hneed rfl hnext, ← Consumer.prepend_append]

/-- What the array holds does not matter. -/
theorem Follows.withArray (h : Follows reply s arrived phase responses) (m : Vector UInt8 320) :
    Follows reply { s with stream.messageBuffer := m } arrived phase responses where
  sees := by
    cases phase <;> exact h.sees
  outgoing_eq := h.outgoing_eq
  transcript_eq := h.transcript_eq

/-- Where bytes arrive, the transcript is that of these bytes too. -/
theorem Follows.arrive (h : Follows reply s arrived phase responses) (bytes : List UInt8) :
    Follows reply { s with stream.nextLayer.incoming := s.stream.nextLayer.incoming ++ bytes } (arrived ++ bytes) phase responses where
  sees := by
    cases phase <;> exact h.sees
  outgoing_eq := h.outgoing_eq
  transcript_eq more := by
    rw [List.append_assoc, h.transcript_eq, List.append_assoc]

/-- A read that has just been started has stored nothing, and fits. -/
theorem ready_of_sees (h : Sees s phase) : PieceServer.Ready ⟨s, 0⟩ := by
  have hsize : ∀ p, s.pending = some p → 0 < p.size ∧ p.handler.op.source.outputStart + p.size ≤ 320 := by
    intro p hp
    cases phase with
    | overflowed => exact h.elim
    | closed => cases hp.symm.trans h
    | header =>
      obtain ⟨op, hpending, hdrained⟩ := h
      obtain rfl := Option.some.inj (hpending.symm.trans hp)
      refine ⟨by show 0 < 7; decide, ?_⟩
      show op.source.outputStart + 7 ≤ 320
      rw [hdrained.outputStart_eq]
      decide
    | body hdr two_le =>
      obtain ⟨hroom, op, hpending, hdrained, -⟩ := h
      obtain rfl := Option.some.inj (hpending.symm.trans hp)
      refine ⟨by show 0 < hdr.length.toNat - 1; omega, ?_⟩
      show op.source.outputStart + (hdr.length.toNat - 1) ≤ 320
      rw [hdrained.outputStart_eq]
      show 7 + _ ≤ 320
      omega
  exact ⟨fun _ => rfl, fun p hp => (hsize p hp).1, fun p hp => (hsize p hp).2⟩

/-- What is done on the server of a server in pieces, done for each of some items. -/
theorem forM_onServer {α : Type} {f : α → Exec Fault Server PUnit} (l : List α) (s : Server) (n : Nat) :
    l.forM (fun a => PieceServer.onServer (f a)) ⟨s, n⟩ = ((l.forM f s).1, ⟨(l.forM f s).2, n⟩) := by
  induction l generalizing s with
  | nil => rfl
  | cons a l ih =>
    show (PieceServer.onServer (f a) >>= fun _ => l.forM fun a => PieceServer.onServer (f a)) ⟨s, n⟩ =
      (((f a >>= fun _ => l.forM f) s).1, ⟨((f a >>= fun _ => l.forM f) s).2, n⟩)
    rcases hrun : f a s with ⟨e | u, t⟩
    · have hrun' : PieceServer.onServer (f a) ⟨s, n⟩ = (.error e, ⟨t, n⟩) := by
        rw [PieceServer.onServer, Exec.within, hrun]
      rw [Exec.bind_error hrun, Exec.bind_error hrun']
    · have hrun' : PieceServer.onServer (f a) ⟨s, n⟩ = (.ok u, ⟨t, n⟩) := by
        rw [PieceServer.onServer, Exec.within, hrun]
      rw [Exec.bind_ok hrun, Exec.bind_ok hrun', ih]

/-- Being given some bytes takes a connection along its transcript. -/
theorem readSome_follows (hfits : reply.Fits) (indeterminate : UInt8) (k : Nat) {s : PieceServer} (hready : s.Ready)
    (h : Follows reply s.flat arrived phase responses) :
    ∃ s' phase' responses', readSome indeterminate reply.handler k s = (.ok (), s') ∧ s'.Ready ∧
      Follows reply s'.flat arrived phase' responses' := by
  have hquiet : ∀ {s' : PieceServer}, PieceServer.readSome indeterminate k s = (.ok (), s') → s'.server.calls = s.server.calls →
      readSome indeterminate reply.handler k s = (.ok (), s') := by
    intro s' hrun hcalls
    unfold readSome
    rw [Exec.bind_state, Exec.bind_ok hrun, Exec.bind_state, hcalls, List.drop_length]
    rfl
  cases hp : s.server.pending with
  | none => exact ⟨s, phase, responses, hquiet (PieceServer.readSome_none indeterminate hp k) rfl, hready, h⟩
  | some p =>
    by_cases hmore : s.transferred + min k s.server.stream.nextLayer.incoming.length < p.size
    · obtain ⟨m, s', hrun, hready', hflat, -⟩ := PieceServer.readSome_more indeterminate hready hp hmore
      have hcalls : s'.flat.calls = s.flat.calls := by rw [hflat]
      refine ⟨s', phase, responses, hquiet hrun hcalls, hready', ?_⟩
      rw [hflat]
      exact h.withArray m
    · have hlast := Nat.not_lt.mp hmore
      have hthere : p.size ≤ s.flat.stream.nextLayer.incoming.length := by
        have hheld := PieceServer.length_held hp (by have := hready.fits p hp; have := hready.waiting p hp; omega)
        show _ ≤ (s.held ++ s.server.stream.nextLayer.incoming).length
        rw [List.length_append, hheld]
        omega
      obtain ⟨m, hrun⟩ := PieceServer.readSome_last indeterminate hready hp hlast
      obtain ⟨s', phase', responses', hcomplete, hfollows⟩ := (h.withArray m).complete hfits indeterminate hp hthere
      refine ⟨⟨s', 0⟩, phase', responses', ?_, ready_of_sees hfollows.sees, ?_⟩
      · unfold complete at hcomplete
        rw [Exec.bind_state] at hcomplete
        obtain ⟨u, t, hserver, hafter⟩ := Exec.bind_eq_ok hcomplete
        have hcallbacks : (t.calls.drop s.server.calls.length).forM (onRead reply.handler) t = (.ok (), s') := hafter
        rw [hserver] at hrun
        unfold readSome
        rw [Exec.bind_state, Exec.bind_ok hrun, Exec.bind_state, forM_onServer, hcallbacks]
      · rwa [PieceServer.flat_of_zero rfl]

/-- Whatever happens to a connection in whatever order, it follows its transcript. -/
theorem moves_follow (hfits : reply.Fits) (moves : List Move) {s : PieceServer} (hready : s.Ready)
    (h : Follows reply s.flat arrived phase responses) :
    ∃ s' phase' responses', moves.forM (move reply.handler) s = (.ok (), s') ∧ s'.Ready ∧
      Follows reply s'.flat (arrived ++ Connection.arrived moves) phase' responses' := by
  induction moves generalizing s arrived phase responses with
  | nil =>
    refine ⟨s, phase, responses, rfl, hready, ?_⟩
    rw [Connection.arrived, List.flatMap_nil, List.append_nil]
    exact h
  | cons m moves ih =>
    rw [Connection.arrived, List.flatMap_cons, ← List.append_assoc]
    cases m with
    | arrive bytes =>
      have harrive : Follows reply (PieceServer.move (.arrive bytes) s).2.flat (arrived ++ bytes) phase responses := by
        rw [s.flat_arrive bytes]
        exact h.arrive bytes
      exact ih ⟨hready.idle, hready.waiting, hready.fits⟩ harrive
    | readSome indeterminate k =>
      obtain ⟨s₁, phase₁, responses₁, hrun, hready₁, hfollows⟩ := readSome_follows hfits indeterminate k hready h
      obtain ⟨s', phase', responses', hrest, hready', hfollows'⟩ := ih hready₁ hfollows
      rw [List.append_nil]
      exact ⟨s', phase', responses', (Exec.bind_ok hrun).trans hrest, hready', hfollows'⟩

/-- No run of a connection faults, and every run follows its transcript. -/
theorem run_follows (hfits : reply.Fits) (moves : List Move) :
    ∃ s' phase' responses', run reply.handler moves {} = (.ok (), s') ∧ s'.Ready ∧
      Follows reply s'.flat (Connection.arrived moves) phase' responses' := by
  obtain ⟨s, hstart, hsees, hstream⟩ := sees_asyncRead {}
  have hfollows : Follows reply s [] .header [] := by
    refine ⟨hsees, by rw [hstream]; rfl, fun more => ?_⟩
    rw [hstream]
    rfl
  have hstart' : PieceServer.onServer asyncRead {} = (.ok (), ⟨s, 0⟩) := by
    rw [PieceServer.onServer, Exec.within, hstart]
  obtain ⟨s', phase', responses', hrun, hready, h⟩ := moves_follow hfits moves (ready_of_sees hsees)
    (by rw [PieceServer.flat_of_zero rfl]; exact hfollows)
  exact ⟨s', phase', responses', (Exec.bind_ok hstart').trans hrun, hready, h⟩

/-- There is nothing more to read, or nobody reads. -/
def Idle (s : PieceServer) : Prop := s.server.stream.nextLayer.incoming = [] ∨ s.server.pending = none

/-- An idle connection has got where its transcript ends, and has written all of it. -/
theorem Follows.idle {s : PieceServer} (hready : s.Ready) (h : Follows reply s.flat arrived phase responses) (hidle : Idle s) :
    Loop.connection.transcript reply arrived = (phase, s.flat.stream.nextLayer.incoming, responses) := by
  have htranscript := h.transcript_eq []
  have hsees := h.sees
  rw [List.append_nil, List.append_nil] at htranscript
  have hless : ∀ p, s.flat.pending = some p → s.flat.stream.nextLayer.incoming.length < p.size := by
    intro p hp
    rcases hidle with hin | hnone
    · have hwaiting := hready.waiting p hp
      have hheld := PieceServer.length_held hp (by have := hready.fits p hp; omega)
      show (s.held ++ s.server.stream.nextLayer.incoming).length < _
      rwa [hin, List.append_nil, hheld]
    · cases hp.symm.trans hnone
  have hsettled : (Loop.connection.server reply).drain phase s.flat.stream.nextLayer.incoming =
      (phase, s.flat.stream.nextLayer.incoming, []) := by
    cases phase with
    | overflowed => exact hsees.elim
    | closed => exact Consumer.drain_stopped rfl _
    | header =>
      obtain ⟨op, hpending, -⟩ := hsees
      exact Consumer.drain_waiting rfl (hless _ hpending)
    | body hdr two_le =>
      obtain ⟨hroom, op, hpending, -⟩ := hsees
      exact Consumer.drain_waiting (Loop.need_body hroom) (hless _ hpending)
  rw [htranscript, hsettled, Consumer.prepend, List.append_nil]

/-- A connection has no read outstanding exactly if it has been dropped. -/
theorem sees_none_iff (h : Sees s phase) : s.pending = none ↔ phase = .closed := by
  cases phase with
  | closed => exact ⟨fun _ => rfl, fun _ => h⟩
  | overflowed => exact h.elim
  | header =>
    obtain ⟨op, hpending, -⟩ := h
    rw [hpending]
    exact ⟨nofun, nofun⟩
  | body hdr two_le =>
    obtain ⟨-, op, hpending, -⟩ := h
    rw [hpending]
    exact ⟨nofun, nofun⟩

end Mothbus.Examples.Connection
