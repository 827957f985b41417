import Mothbus.Lemmas.Pieces

/-!
# Reads that come in pieces

Whether the bytes of a read are stored as they come or all at once makes no difference to a server that answers only while nothing has
been stored. An answer that is written while a header has arrived in part takes the place of that part, and what follows is handed over
under the ids of the answer, or is cut into units by the length of the answer.
-/

namespace Mothbus.Tcp

/-- A run of a server in pieces that has come to the same as a run of a server whose reads complete at once: the same result, callbacks,
request and answers, and the same bytes to be read yet. -/
structure PieceServer.SameAs (r : Except Fault Unit × PieceServer) (r' : Except Fault Unit × Server) : Prop where
  result_eq : r.1 = r'.1
  calls_eq : r.2.server.calls = r'.2.calls
  request_eq : r.2.server.request = r'.2.request
  outgoing_eq : r.2.server.stream.nextLayer.outgoing = r'.2.stream.nextLayer.outgoing
  incoming_eq : r.2.held ++ r.2.server.stream.nextLayer.incoming = r'.2.stream.nextLayer.incoming

/-- Runs that end in servers that show the same have come to the same. -/
theorem PieceServer.Like.sameAs {r : Except Fault Unit × PieceServer} {r' : Except Fault Unit × Server} (hresult : r.1 = r'.1)
    (h : r.2.Like r'.2) : SameAs r r' where
  result_eq := hresult
  calls_eq := congrArg ServerView.calls h.view_eq
  request_eq := congrArg ServerView.request h.view_eq
  outgoing_eq := congrArg (fun v => v.stream.nextLayer.outgoing) h.view_eq
  incoming_eq := congrArg (fun v => v.stream.nextLayer.incoming) h.view_eq

/-- Where no read is outstanding, a server is as it should be, in pieces too. -/
theorem PieceServer.sound_of_none {s : Server} (hs : s.pending = none) : Sound ⟨s, 0⟩ := by
  refine sound_of_zero (Server.ready_of_none hs) fun a ha => ?_
  rw [Server.view_awaited hs] at ha
  cases ha

/-- Every run of a server in pieces that answers only while nothing has been stored comes to the same as a run of the server whose reads
complete at once, with some of the pieces for the completions; and every run of that server is such a run. -/
theorem pieces_asCompletions {s : Server} (hs : s.pending = none) :
    (∀ moves, PieceServer.AnswersBetween moves ⟨s, 0⟩ →
      ∃ moves', Coarsens moves moves' ∧ PieceServer.SameAs (PieceServer.run moves ⟨s, 0⟩) (Server.run moves' s)) ∧
    ∀ moves', ∃ moves, Coarsens moves moves' ∧ PieceServer.AnswersBetween moves ⟨s, 0⟩ ∧
      PieceServer.SameAs (PieceServer.run moves ⟨s, 0⟩) (Server.run moves' s) := by
  have hlike : PieceServer.Like ⟨s, 0⟩ s :=
    ⟨PieceServer.sound_of_none hs, Server.ready_of_none hs, by rw [PieceServer.flat_of_zero rfl]⟩
  constructor
  · intro moves hbetween
    obtain ⟨moves', hcoarsens, hresult, h⟩ := hlike.run moves hbetween
    exact ⟨moves', hcoarsens, h.sameAs hresult⟩
  · intro moves'
    obtain ⟨moves, hcoarsens, hbetween, hresult, h⟩ := hlike.exists_run moves' rfl
    exact ⟨moves, hcoarsens, hbetween, h.sameAs hresult⟩

theorem pieces_asCompletions_started :
    (∀ moves, PieceServer.AnswersBetween moves ⟨{}, 0⟩ →
      ∃ moves', Coarsens moves moves' ∧ PieceServer.SameAs (PieceServer.run moves ⟨{}, 0⟩) (Server.run moves' {})) ∧
    ∀ moves', ∃ moves, Coarsens moves moves' ∧ PieceServer.AnswersBetween moves ⟨{}, 0⟩ ∧
      PieceServer.SameAs (PieceServer.run moves ⟨{}, 0⟩) (Server.run moves' {}) :=
  pieces_asCompletions rfl

/-- In any run, while the header of the next unit has arrived in part and the rest of the unit is there to be read: the server hands the
unit over under its own ids; but after an answer, under the transaction id of the answer, if two to five bytes had arrived. In either case
what follows the unit is read next. If six had arrived, it waits for as many bytes as the PDU of the answer has and hands these over, and
what is read next is what follows the unit exactly if the two PDUs are of one length. -/
theorem answer_takesHeader {s₀ : Server} (hs₀ : s₀.pending = none) {moves : List PieceMove} {s : PieceServer}
    (hrun : PieceServer.run moves ⟨s₀, 0⟩ = (.ok (), s)) (hheader : s.server.view.awaited = some .header) {a : Adu} {rest : List UInt8}
    (hin : s.held ++ s.server.stream.nextLayer.incoming = a.bytes ++ rest) (transactionId : UInt16) (slave : UInt8) {response : Answer}
    (hfits : (PduWrite.write response).length ≤ 253) (indeterminate : UInt8) :
    (∃ s', PieceServer.run [.readSome indeterminate 320, .readSome indeterminate 320] s = (.ok (), s') ∧
      s'.server.calls = s.server.calls ++ [⟨a.transactionId, a.unitId, (Server.outcome 0 s.server.request a.pdu).1⟩] ∧
      s'.server.stream.nextLayer.incoming = rest) ∧
    (2 ≤ s.transferred → s.transferred ≤ 5 →
      ∃ s', PieceServer.run [.answer transactionId slave response, .readSome indeterminate 320, .readSome indeterminate 320] s =
          (.ok (), s') ∧
        s'.server.calls = s.server.calls ++ [⟨transactionId, a.unitId, (Server.outcome 0 s.server.request a.pdu).1⟩] ∧
        s'.server.stream.nextLayer.incoming = rest) ∧
    (s.transferred = 6 →
      (∃ s' h, PieceServer.run [.answer transactionId slave response, .readSome indeterminate 320] s = (.ok (), s') ∧
        s'.server.view.awaited = some (.body h) ∧ h.length.toNat - 1 = (PduWrite.write response).length) ∧
      ((PduWrite.write response).length ≤ (a.pdu ++ rest).length →
        ∃ s', PieceServer.run [.answer transactionId slave response, .readSome indeterminate 320, .readSome indeterminate 320] s =
            (.ok (), s') ∧
          s'.server.calls = s.server.calls ++ [⟨transactionId, a.unitId,
            (Server.outcome 0 s.server.request ((a.pdu ++ rest).take (PduWrite.write response).length)).1⟩] ∧
          (s'.server.stream.nextLayer.incoming = rest ↔ (PduWrite.write response).length = a.pdu.length))) := by
  have hsound : s.Sound := by
    have h := (PieceServer.sound_of_none hs₀).run moves
    rwa [hrun] at h
  have hroom : (PduWrite.write response).length ≤ 313 := by omega
  obtain ⟨hheld, s₁, hanswer, hsound₁, hheader₁, hcalls, hrequest, hin₁⟩ := hsound.answer_header hheader transactionId slave hroom
  have hunread : s.transferred ≤ a.bytes.length → s.server.stream.nextLayer.incoming = a.bytes.drop s.transferred ++ rest := by
    intro hshort
    have hdrop := congrArg (List.drop s.transferred) hin
    rwa [List.drop_left' hheld, List.drop_append_of_le_length hshort] at hdrop
  have hlen : 7 ≤ a.bytes.length := by
    rw [a.length_bytes, a.header_length]
    have := a.pdu_length
    omega
  refine ⟨?_, fun hmin hmax => ?_, fun hsix => ?_⟩
  · obtain ⟨s', hrun', hcalls', -, hleft⟩ := hsound.readUnit hheader hin indeterminate
    exact ⟨s', hrun', hcalls', hleft⟩
  · obtain ⟨protocol, hrelabelled⟩ := PieceServer.exists_relabelled a transactionId slave hfits hmin hmax
    rw [hunread (by omega), ← List.append_assoc, hrelabelled] at hin₁
    obtain ⟨s', hrun', hcalls', -, hleft⟩ := hsound₁.readUnit hheader₁ hin₁ indeterminate
    rw [hcalls, hrequest] at hcalls'
    exact ⟨s', (Exec.bind_ok hanswer).trans hrun', hcalls', hleft⟩
  · let h : MbapHeader := { frameHeader transactionId slave (PduWrite.write response) with unitId := a.unitId }
    rw [hunread (by omega), hsix] at hin₁
    have hbytes : s₁.held ++ s₁.server.stream.nextLayer.incoming = h.bytes ++ (a.pdu ++ rest) := hin₁
    have hpdu := length_write_answer response
    have hvalid : h.isValidLength = true := (isValidLength_frameHeader transactionId slave (by omega)).mpr ⟨hpdu, hfits⟩
    have hsize : h.length.toNat - 1 = (PduWrite.write response).length := by
      show (frameHeader transactionId slave (PduWrite.write response)).length.toNat - 1 = _
      rw [frameHeader_length transactionId slave (by omega)]
      omega
    refine ⟨?_, fun hthere => ?_⟩
    · have hflat : s₁.flat.view.stream.nextLayer.incoming = h.bytes ++ (a.pdu ++ rest) := hbytes
      obtain ⟨s', hrun', -, -, hview⟩ := hsound₁.readSome_view hheader₁
        (by rw [hflat, List.length_append, h.length_bytes]; exact Nat.le_add_right _ _) (k := 320) (by decide) indeterminate
      rw [ServerView.complete_header (v := s₁.flat.view) hheader₁ hflat, if_neg (by rw [hvalid]; decide)] at hview
      refine ⟨s', h, ?_, by rw [hview], hsize⟩
      show (PieceServer.move _ >>= fun _ => PieceServer.readSome indeterminate 320 >>= fun _ => pure PUnit.unit) s = _
      rw [Exec.bind_ok hanswer, bind_pure_unit, hrun']
    · have htake : ((a.pdu ++ rest).take (PduWrite.write response).length).length = (PduWrite.write response).length :=
        List.length_take_of_le hthere
      rw [← List.take_append_drop (PduWrite.write response).length (a.pdu ++ rest)] at hbytes
      obtain ⟨s', hrun', hcalls', -, hleft⟩ :=
        hsound₁.readFrame hheader₁ hbytes hvalid (hsize.trans htake.symm) (by omega) indeterminate
      rw [hcalls, hrequest] at hcalls'
      refine ⟨s', (Exec.bind_ok hanswer).trans hrun', hcalls', ?_⟩
      rw [hleft]
      constructor
      · intro hrest
        have hlength := congrArg List.length hrest
        rw [List.length_append] at hthere
        rw [List.length_drop, List.length_append] at hlength
        omega
      · intro hsame
        exact List.drop_left' hsame.symm

/-- A request to write 7 to register 1. -/
def nextRequest : Adu where
  transactionId := 7
  protocol := 0
  unitId := 9
  pdu := [6, 0, 1, 0, 7]
  pdu_length := by decide

/-- A server that has stored three bytes of its header. -/
def halfHeader : PieceServer := (PieceServer.run [.call, .arrive nextRequest.bytes, .readSome 0 3] ⟨{}, 0⟩).2

theorem answer_takesHeader_halfHeader :
    let response : Answer := .exception { fc := .readCoils, exceptionCode := .illegalFunction }
    (∃ s', PieceServer.run [.readSome 0 320, .readSome 0 320] halfHeader = (.ok (), s') ∧
      s'.server.calls = halfHeader.server.calls ++
        [⟨nextRequest.transactionId, nextRequest.unitId, (Server.outcome 0 halfHeader.server.request nextRequest.pdu).1⟩] ∧
      s'.server.stream.nextLayer.incoming = []) ∧
    (2 ≤ halfHeader.transferred → halfHeader.transferred ≤ 5 →
      ∃ s', PieceServer.run [.answer 6 9 response, .readSome 0 320, .readSome 0 320] halfHeader = (.ok (), s') ∧
        s'.server.calls = halfHeader.server.calls ++
          [⟨6, nextRequest.unitId, (Server.outcome 0 halfHeader.server.request nextRequest.pdu).1⟩] ∧
        s'.server.stream.nextLayer.incoming = []) ∧
    (halfHeader.transferred = 6 →
      (∃ s' h, PieceServer.run [.answer 6 9 response, .readSome 0 320] halfHeader = (.ok (), s') ∧
        s'.server.view.awaited = some (.body h) ∧ h.length.toNat - 1 = (PduWrite.write response).length) ∧
      ((PduWrite.write response).length ≤ (nextRequest.pdu ++ []).length →
        ∃ s', PieceServer.run [.answer 6 9 response, .readSome 0 320, .readSome 0 320] halfHeader = (.ok (), s') ∧
          s'.server.calls = halfHeader.server.calls ++ [⟨6, nextRequest.unitId,
            (Server.outcome 0 halfHeader.server.request ((nextRequest.pdu ++ []).take (PduWrite.write response).length)).1⟩] ∧
          (s'.server.stream.nextLayer.incoming = [] ↔ (PduWrite.write response).length = nextRequest.pdu.length))) := by
  intro response
  have hrun : PieceServer.run [.call, .arrive nextRequest.bytes, .readSome 0 3] ⟨{}, 0⟩ = (.ok (), halfHeader) := Prod.ext rfl rfl
  have hin : halfHeader.held ++ halfHeader.server.stream.nextLayer.incoming = nextRequest.bytes ++ [] := rfl
  exact answer_takesHeader rfl hrun rfl hin 6 9 (by decide) 0

end Mothbus.Tcp
