import Mothbus.Lemmas.Connection
import Mothbus.Lemmas.RegisterServer
import Mothbus.Theorems.Coroutine

/-!
# The two server loops

The coroutine and the chain of callbacks read with different code, the one checking the length field itself and reading into its own
vector, the other through `request_read_op` into the array of the stream. On units they do the same; on other headers they part.
-/

namespace Mothbus.Examples

open ErrorLike (ok)
open Tcp

/-- On a stream of units, arriving and read in any pieces, either loop with the same handler never faults, and once it has read everything
it has written the same answers and ended or not ended at the same unit. -/
theorem loops_agree_on_units {reply : Reply} (hfits : reply.Fits) (units : List Adu) (moves : List Session.Move)
    (moves' : List Connection.Move) (harrived : Session.arrived moves = units.flatMap Adu.bytes)
    (harrived' : Connection.arrived moves' = units.flatMap Adu.bytes) :
    ∃ s s', Session.run reply.handler moves {} = (.ok (), s) ∧ Connection.run reply.handler moves' {} = (.ok (), s') ∧
      (s.Idle → s.outgoing = (answers reply units).flatMap Response.bytes ∧
        (s.point = .returned ↔ ¬∀ a ∈ units, IsRequest a)) ∧
      (Connection.Idle s' → s'.server.stream.nextLayer.outgoing = (answers reply units).flatMap Response.bytes ∧
        (s'.server.pending = none ↔ ¬∀ a ∈ units, IsRequest a)) := by
  have hclosed : ∀ phase : Phase, phase = (if ∀ a ∈ units, IsRequest a then Phase.header else .closed) →
      (phase = .closed ↔ ¬∀ a ∈ units, IsRequest a) := by
    rintro phase rfl
    by_cases hall : ∀ a ∈ units, IsRequest a
    · rw [if_pos hall]
      exact ⟨nofun, fun h => absurd hall h⟩
    · rw [if_neg hall]
      exact ⟨fun _ => hall, fun _ => rfl⟩
  have hserver := answersItsTranscript_of_fits hfits
  obtain ⟨hresponses, hphase⟩ := Loop.transcript_units reply Loop.check_coroutine units
  obtain ⟨hresponses', hphase'⟩ := Loop.transcript_units reply Loop.check_connection units
  rw [← harrived] at hresponses hphase
  rw [← harrived'] at hresponses' hphase'
  obtain ⟨s, hrun⟩ := hserver.run_ok (by rw [hphase]; split <;> nofun)
  obtain ⟨s', phase, responses, hrun', hready, hfollows⟩ := Connection.run_follows hfits moves'
  refine ⟨s, s', hrun, hrun', fun hidle => ?_, fun hidle => ?_⟩
  · obtain ⟨hout, hreturned, -⟩ := hserver.complete moves s hrun hidle
    exact ⟨hout.trans (by rw [hresponses]), hreturned.trans (hclosed _ hphase)⟩
  · have htranscript := hfollows.idle hready hidle
    rw [htranscript] at hresponses' hphase'
    exact ⟨hfollows.outgoing_eq.trans (by rw [← hresponses']), (Connection.sees_none_iff hfollows.sees).trans (hclosed _ hphase')⟩

theorem loops_agree_on_units_twoRegisters :
    let moves : List Session.Move := [.arrive [0, 1, 0, 0], .readSome 0 9, .arrive [0, 6, 9, 3, 0, 0, 0, 2], .readSome 0 3, .readSome 0 9]
    let moves' : List Connection.Move := [.arrive [0, 1], .readSome 0 9, .arrive [0, 0, 0, 6, 9, 3, 0, 0, 0, 2], .readSome 0 2, .readSome 0 99]
    ∃ s s', Session.run zeroReply.handler moves {} = (.ok (), s) ∧ Connection.run zeroReply.handler moves' {} = (.ok (), s') ∧
      (s.Idle → s.outgoing = (answers zeroReply [twoRegisters]).flatMap Response.bytes ∧
        (s.point = .returned ↔ ¬∀ a ∈ [twoRegisters], IsRequest a)) ∧
      (Connection.Idle s' → s'.server.stream.nextLayer.outgoing = (answers zeroReply [twoRegisters]).flatMap Response.bytes ∧
        (s'.server.pending = none ↔ ¬∀ a ∈ [twoRegisters], IsRequest a)) := by
  intro moves moves'
  exact loops_agree_on_units zeroReply_fits [twoRegisters] moves moves' (by decide) (by decide)

/-- In whatever state a connection waits for the body of a request for holding registers: with the handler of the example it stores
outside the array of its stream, and sends nothing, exactly if 156 registers or more are asked for from address 100 on behind unit 255;
any other such request is answered with one frame under its ids, and the next read is outstanding. -/
theorem gateway_answers_or_leavesArray {handler : RequestHandler}
    (hhandler : ∀ transactionId slave req, handler transactionId slave (.request .readHolding req) =
      gatewayReadHolding transactionId slave req)
    {s : PieceServer} (hready : s.Ready) {h : MbapHeader} {two_le : 2 ≤ h.length.toNat} (hsees : Connection.Sees s.flat (.body h two_le))
    {req : ReadHoldingPduReq} {rest : List UInt8} (hsize : h.length.toNat - 1 = (PduWrite.write req).length)
    (hin : s.held ++ s.server.stream.nextLayer.incoming = PduWrite.write req ++ rest) (indeterminate : UInt8) :
    (∃ s', Connection.readSome indeterminate handler 320 s = (.error (.outOfBounds 320), s') ∧
        s'.server.stream.nextLayer.outgoing = s.server.stream.nextLayer.outgoing ∧
        h.unitId = 255 ∧ req.startingAddress = 100 ∧ 156 ≤ req.quantityOfRegisters.toNat) ∨
    ∃ s', Connection.readSome indeterminate handler 320 s = (.ok (), s') ∧ Connection.Sees s'.flat .header ∧
        s'.server.stream.nextLayer.outgoing = s.server.stream.nextLayer.outgoing ++
          (Response.mk h.transactionId h.unitId (gatewayReply h.unitId req)).bytes ∧
        ¬(h.unitId = 255 ∧ req.startingAddress = 100 ∧ 156 ≤ req.quantityOfRegisters.toNat) := by
  obtain ⟨hroom, op, hpending, hdrained, htransaction, hslave⟩ := hsees
  have hlast : h.length.toNat - 1 ≤ s.transferred + min 320 s.server.stream.nextLayer.incoming.length := by
    have hfits : op.source.outputStart + (h.length.toNat - 1) ≤ 320 := hready.fits _ hpending
    have hwaiting : s.transferred < h.length.toNat - 1 := hready.waiting _ hpending
    have hheld := PieceServer.length_held hpending (show op.source.outputStart + s.transferred ≤ 320 by omega)
    have hlen := congrArg List.length hin
    rw [List.length_append, List.length_append, hheld] at hlen
    omega
  obtain ⟨m, hrun⟩ := PieceServer.readSome_last indeterminate hready hpending hlast
  rw [hsize] at hpending
  have hfit : MbapHeader.headerSize + (PduWrite.write req).length ≤ 320 := by
    have h7 : MbapHeader.headerSize = 7 := rfl
    omega
  obtain ⟨m', hcomplete⟩ := Server.complete_body indeterminate (s := { s.flat with stream.messageBuffer := m }) hpending hdrained hin hfit
  have hrequest : requestOf (PduWrite.write req) = some (.request .readHolding req) := by
    have h := requestOf_write (k := .readHolding) (q := req) trivial []
    rwa [List.append_nil] at h
  rw [outcome_of_request indeterminate _ hrequest, htransaction, hslave] at hcomplete
  rw [hcomplete] at hrun
  let t : Server := { s.server with
    pending := none, stream.messageBuffer := m', stream.nextLayer.incoming := rest, request := .request .readHolding req,
    calls := s.server.calls ++ [⟨h.transactionId, h.unitId, ok⟩] }
  have hhandled : Connection.readSome indeterminate handler 320 s =
      ((Connection.handle handler h.transactionId h.unitId t).1, ⟨(Connection.handle handler h.transactionId h.unitId t).2, 0⟩) := by
    have hcallback : [(⟨h.transactionId, h.unitId, ok⟩ : Callback)].forM (Connection.onRead handler) t =
        Connection.handle handler h.transactionId h.unitId t := by
      show (Connection.handle handler h.transactionId h.unitId >>= fun _ => pure PUnit.unit) t = _
      rw [bind_pure_unit]
    have hdrop : t.calls.drop s.server.calls.length = [⟨h.transactionId, h.unitId, ok⟩] := List.drop_left
    unfold Connection.readSome
    rw [Exec.bind_state, Exec.bind_ok hrun, Exec.bind_state]
    show (t.calls.drop s.server.calls.length).forM (fun c => PieceServer.onServer (Connection.onRead handler c)) ⟨t, 0⟩ = _
    rw [hdrop, Connection.forM_onServer, hcallback]
  rw [hhandled]
  unfold Connection.handle
  rw [Exec.bind_state, hhandler, gatewayReadHolding_eq]
  by_cases hlong : h.unitId = 255 ∧ req.startingAddress = 100 ∧ 156 ≤ req.quantityOfRegisters.toNat
  · have hwrite := Stream.writeResponse_full h.transactionId h.unitId t.stream (asserts_answer _)
      ((gatewayReply_long_iff h.unitId req).mpr hlong)
    left
    rw [Exec.bind_error (Exec.within_apply _ hwrite)]
    exact ⟨_, rfl, rfl, hlong⟩
  · obtain ⟨m'', hwrite⟩ := Stream.writeResponse_ok h.transactionId h.unitId t.stream (asserts_answer _)
      (Nat.not_lt.mp fun hless => hlong ((gatewayReply_long_iff h.unitId req).mp hless))
    right
    rw [Exec.bind_ok (Exec.within_apply _ hwrite)]
    refine ⟨_, rfl, ?_, rfl, hlong⟩
    rw [PieceServer.flat_of_zero rfl]
    exact ⟨_, rfl, Buffer.drained_empty _⟩

/-- The handler of the example for holding registers, and the one of the coroutine for the rest. -/
def gatewayOrZero : RequestHandler
  | transactionId, slave, .request .readHolding (req : ReadHoldingPduReq) => gatewayReadHolding transactionId slave req
  | transactionId, slave, req => zeroHandler transactionId slave req

/-- A request for 200 registers from address 100 on. -/
def manyRegisters : ReadHoldingPduReq := { startingAddress := 100, quantityOfRegisters := 200 }

/-- The header of that request. -/
def manyRegistersHeader : MbapHeader := { transactionId := 4, length := 6, unitId := 255 }

/-- A connection that has read the header, and has the body to read. -/
def waitingForBody : PieceServer where
  server := {
    stream.nextLayer.incoming := PduWrite.write manyRegisters
    pending := some ⟨5, .parseBody {
      source := { messageBuffer := Vector.replicate 320 0, inputStart := 7, inputEnd := 7, outputStart := 7 }
      transactionId := 4, length := 6, slave := 255 }⟩ }

theorem gateway_answers_or_leavesArray_200 :
    (∃ s', Connection.readSome 0 gatewayOrZero 320 waitingForBody = (.error (.outOfBounds 320), s') ∧
        s'.server.stream.nextLayer.outgoing = waitingForBody.server.stream.nextLayer.outgoing ∧
        manyRegistersHeader.unitId = 255 ∧ manyRegisters.startingAddress = 100 ∧ 156 ≤ manyRegisters.quantityOfRegisters.toNat) ∨
    ∃ s', Connection.readSome 0 gatewayOrZero 320 waitingForBody = (.ok (), s') ∧ Connection.Sees s'.flat .header ∧
        s'.server.stream.nextLayer.outgoing = waitingForBody.server.stream.nextLayer.outgoing ++
          (Response.mk manyRegistersHeader.transactionId manyRegistersHeader.unitId
            (gatewayReply manyRegistersHeader.unitId manyRegisters)).bytes ∧
        ¬(manyRegistersHeader.unitId = 255 ∧ manyRegisters.startingAddress = 100 ∧ 156 ≤ manyRegisters.quantityOfRegisters.toNat) := by
  have hsees : Connection.Sees waitingForBody.server (.body manyRegistersHeader (by decide)) :=
    ⟨by decide, _, rfl, ⟨rfl, rfl, rfl⟩, rfl, rfl⟩
  have hready : waitingForBody.Ready := Connection.ready_of_sees hsees
  have hin : waitingForBody.held ++ waitingForBody.server.stream.nextLayer.incoming = PduWrite.write manyRegisters ++ [] := rfl
  exact gateway_answers_or_leavesArray (fun _ _ _ => rfl) hready hsees rfl hin 0

end Mothbus.Examples
