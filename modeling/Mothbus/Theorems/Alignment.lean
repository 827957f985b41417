import Mothbus.Lemmas.Master
import Mothbus.Lemmas.TcpClient
import Mothbus.Lemmas.TcpServer
import Mothbus.Library.FramedRun

/-!
# Frame alignment on a TCP connection

The server reads one unit per call, whatever is in it. The client reads one unit per call only as long as it refuses no header: the
exits that refuse one are taken before the rest of the unit is read, and the next call takes that rest for a header.
-/

namespace Mothbus.Tcp

open ErrorLike (ok failed)
open ReadProgram

/-! ## The client -/

/-- A call of an operation of a master that gets as far as `read_response`: not a broadcast, its assertions hold and its request is
sent. -/
structure Call where
  slave : UInt8
  slave_ne : slave ≠ 0
  operation : Operation
  plan : Plan
  plan_eq : operation.plan = .ok plan
  sends : plan.Sends 313
  /-- What the uninitialised local of the response decoder holds. -/
  indeterminate : UInt8

namespace Call

/-- The stream after the call, whatever the call returned. -/
def step (i : Call × Adu) (s : Stream) : Stream :=
  (i.1.operation.run (Tcp.transport i.1.indeterminate) i.1.slave s).2

/-- The bytes to be read. -/
def incoming (s : Stream) : List UInt8 := s.nextLayer.incoming

/-- The bytes of the unit that is next when the call is made. -/
def unit (i : Call × Adu) : List UInt8 := i.2.bytes

/-- A call reads a response under the transaction id that the stream had. -/
theorem step_eq (i : Call × Adu) (s : Stream) :
    ∃ m out, step i s = ((Stream.readResponse i.1.indeterminate s.transactionId i.1.slave i.1.plan.response >>=
      fun r => pure (i.1.plan.finish r.1 r.2))
        { s with messageBuffer := m, transactionId := s.transactionId + 1, nextLayer.outgoing := out }).2 := by
  obtain ⟨m, hrun⟩ := Plan.run_tcp i.1.indeterminate i.1.slave i.1.sends s
  refine ⟨m, s.nextLayer.outgoing ++
    ((frameHeader s.transactionId i.1.slave (PduWrite.write i.1.plan.request)).bytes ++ PduWrite.write i.1.plan.request), ?_⟩
  unfold step
  rw [Operation.run_eq_plan, i.1.plan_eq]
  exact congrArg Prod.snd hrun

/-- A call moves the transaction id on, whatever it reads. -/
theorem transactionId_step (i : Call × Adu) (s : Stream) : (step i s).transactionId = s.transactionId + 1 := by
  obtain ⟨m, out, hstep⟩ := step_eq i s
  rw [hstep]
  exact Exec.Keeps.bind (Stream.readResponse_keeps _ _ _ _) (fun r => Exec.Keeps.pure _) _

/-- A run moves the transaction id on by the number of its calls. -/
theorem transactionId_run (l : List (Call × Adu)) (s : Stream) :
    (FramedRun.run step l s).transactionId = s.transactionId + UInt16.ofNat l.length := by
  induction l generalizing s with
  | nil => exact (UInt16.add_zero s.transactionId).symm
  | cons i l ih =>
    rw [FramedRun.run_cons, ih, transactionId_step, List.length_cons, UInt16.ofNat_add, UInt16.add_assoc,
      UInt16.add_comm 1]
    rfl

/-- A call on a unit with the expected header reads the unit; on another one it leaves the PDU of the unit behind. -/
theorem step_incoming (i : Call × Adu) {s : Stream} {tail : List UInt8} (hs : incoming s = unit i ++ tail) :
    incoming (step i s) = if i.2.header.refusal s.transactionId i.1.slave = none then tail else i.2.pdu ++ tail := by
  obtain ⟨m, out, hstep⟩ := step_eq i s
  have hin : s.nextLayer.incoming = i.2.header.bytes ++ (i.2.pdu ++ tail) := by
    rw [← List.append_assoc]
    exact hs
  rw [hstep]
  cases hc : i.2.header.refusal s.transactionId i.1.slave with
  | none =>
    obtain ⟨m', hrun⟩ := Stream.readResponse_accepted i.1.indeterminate i.1.plan.response i.1.slave_ne
      (s := { s with messageBuffer := m, transactionId := s.transactionId + 1, nextLayer.outgoing := out }) hin
      i.2.header_length ((MbapHeader.refusal_eq_none_iff _ _ _).mp hc)
    rw [Exec.bind_ok hrun]
    rfl
  | some c =>
    obtain ⟨m', hrun⟩ := Stream.readResponse_refused i.1.indeterminate i.1.plan.response i.1.slave_ne
      (s := { s with messageBuffer := m, transactionId := s.transactionId + 1, nextLayer.outgoing := out }) hin hc
    rw [Exec.bind_ok hrun]
    rfl

/-- A call reads exactly the unit at whose start it is made if and only if the header of the unit is the expected one. -/
theorem step_reads_unit_iff (s : Stream) (i : Call × Adu) (tail : List UInt8) (hs : incoming s = unit i ++ tail) :
    incoming (step i s) = tail ↔ i.2.header.Expected s.transactionId i.1.slave := by
  rw [step_incoming i hs, ← MbapHeader.refusal_eq_none_iff]
  have hpdu := i.2.pdu_length.1
  constructor
  · intro h
    by_contra hc
    rw [if_neg hc] at h
    have hlen := congrArg List.length h
    rw [List.length_append] at hlen
    omega
  · intro hc
    rw [if_pos hc]

/-- The calls of a run stay aligned with the units on the connection if and only if every unit is the response to the call it is
read by: its transaction id, unit id and protocol are those of the request, and its length field is at most 249. -/
theorem run_aligned_iff (l : List (Call × Adu)) (rest : List UInt8) (s : Stream) (hs : incoming s = l.flatMap unit ++ rest) :
    FramedRun.Aligned step incoming unit s l rest ↔
      ∀ done i todo, l = done ++ i :: todo →
        i.2.header.Expected (s.transactionId + UInt16.ofNat done.length) i.1.slave := by
  rw [FramedRun.aligned_iff (fun s i => i.2.header.Expected s.transactionId i.1.slave) step_reads_unit_iff l s hs]
  constructor
  · intro h done i todo hl
    rw [← transactionId_run]
    exact h done i todo hl
  · intro h done i todo hl
    rw [transactionId_run]
    exact h done i todo hl

/-- A write of one register to slave 1. -/
def writeRegister (address value : UInt16) : Call where
  slave := 1
  slave_ne := by decide
  operation := .writeSingleRegister address value
  plan := {
    kind := .writeSingleRegister, request := ({ address, value } : WriteSingleRegisterPduReq),
    asserts := true, expected := .writeSingleRegister, response := ({ address, value } : WriteSingleRegisterPduResp),
    finish := fun ec _ => (Master.checkError ec, .none) }
  plan_eq := rfl
  sends := ⟨rfl, rfl, by show 5 ≤ 313; decide⟩
  indeterminate := 0

end Call

/-- The answer to a write of 7 to register 0, under a transaction id. -/
def registerWritten (transactionId : UInt16) : Adu :=
  .sent transactionId 1 [0x06, 0, 0, 0, 7] (by decide)

/-- The late answer to an earlier request is refused, and the call leaves its PDU to be read as a header. -/
theorem lateResponse_notAligned :
    ¬FramedRun.Aligned Call.step Call.incoming Call.unit
      { nextLayer := { incoming := (registerWritten 9).bytes ++ (registerWritten 0).bytes } }
      [(.writeRegister 0 7, registerWritten 9), (.writeRegister 0 7, registerWritten 0)] [] := by
  intro haligned
  have hread := haligned [(.writeRegister 0 7, registerWritten 9)] [(.writeRegister 0 7, registerWritten 0)] rfl
  have hexp := (Call.step_reads_unit_iff
    { nextLayer := { incoming := (registerWritten 9).bytes ++ (registerWritten 0).bytes } }
    (.writeRegister 0 7, registerWritten 9) (registerWritten 0).bytes rfl).mp hread
  exact absurd hexp.1 (by decide)

theorem run_aligned_registerWritten :
    FramedRun.Aligned Call.step Call.incoming Call.unit { nextLayer := { incoming := (registerWritten 0).bytes } }
      [(.writeRegister 0 7, registerWritten 0)] [] ↔
      ∀ done i todo, [(Call.writeRegister 0 7, registerWritten 0)] = done ++ i :: todo →
        i.2.header.Expected (0 + UInt16.ofNat done.length) i.1.slave :=
  Call.run_aligned_iff [(.writeRegister 0 7, registerWritten 0)] []
    { nextLayer := { incoming := (registerWritten 0).bytes } } rfl

/-! ## The server -/

/-- The request decoded from a PDU, with its error code. -/
def decodeRequest (pdu : List UInt8) : ErrorCode × PduReq := Server.outcome 0 (.notImplemented {}) pdu

/-- What the callback is to be invoked with for a unit. -/
def Adu.callback (a : Adu) : Callback := ⟨a.transactionId, a.unitId, (decodeRequest a.pdu).1⟩

namespace Server

/-- The server after a call of `async_read_request`, the first component being what the uninitialised function code holds. -/
def step (i : UInt8 × Adu) (s : Server) : Server := (readRequest i.1 s).2

/-- The bytes to be read. -/
def incoming (s : Server) : List UInt8 := s.stream.nextLayer.incoming

/-- The bytes of the unit that is next when the call is made. -/
def unit (i : UInt8 × Adu) : List UInt8 := i.2.bytes

/-- A call of `async_read_request` does what is expected of it for a unit, of which `tail` is what follows. -/
structure ReadsUnit (indeterminate : UInt8) (a : Adu) (tail : List UInt8) (s : Server) : Prop where
  returns : (readRequest indeterminate s).1 = .ok ()
  /-- Nothing is left outstanding. -/
  idle : (readRequest indeterminate s).2.pending = none
  /-- The unit is read, and no more. -/
  reads : incoming (readRequest indeterminate s).2 = tail
  /-- The callback is invoked once. -/
  calls : (readRequest indeterminate s).2.calls = s.calls ++ [a.callback]
  request : failed (decodeRequest a.pdu).1 = false → (readRequest indeterminate s).2.request = (decodeRequest a.pdu).2

/-- A call on a unit does what is expected of it, whatever the PDU. -/
theorem readsUnit (indeterminate : UInt8) {a : Adu} {tail : List UInt8} {s : Server} (hs : incoming s = a.bytes ++ tail) :
    ReadsUnit indeterminate a tail s := by
  obtain ⟨m, hrun⟩ := readRequest_ok indeterminate hs
  obtain ⟨hec, hreq⟩ := readPduReq_congr 0 indeterminate (.notImplemented {}) s.request a.pdu
  refine ⟨by rw [hrun], by rw [hrun], by rw [hrun]; rfl, ?_, fun hok => ?_⟩
  · rw [hrun]
    unfold Adu.callback decodeRequest outcome
    rw [hec]
  · rw [hrun]
    exact (hreq hok).symm

/-- The calls of the callback after a run that starts each of its calls at a unit. -/
theorem calls_run (l : List (UInt8 × Adu)) (rest : List UInt8) (s : Server) (hs : incoming s = l.flatMap unit ++ rest) :
    (FramedRun.run step l s).calls = s.calls ++ l.map (·.2.callback) := by
  induction l generalizing s with
  | nil => rw [FramedRun.run_nil, List.map_nil, List.append_nil]
  | cons i l ih =>
    rw [List.flatMap_cons, List.append_assoc] at hs
    have hread := readsUnit i.1 hs
    rw [FramedRun.run_cons, ih (step i s) hread.reads, List.map_cons]
    show (readRequest i.1 s).2.calls ++ _ = _
    rw [hread.calls, List.append_assoc]
    rfl

/-- The calls of a run stay aligned with the units on the connection. -/
theorem run_aligned (l : List (UInt8 × Adu)) (rest : List UInt8) (s : Server) (hs : incoming s = l.flatMap unit ++ rest) :
    FramedRun.Aligned step incoming unit s l rest :=
  FramedRun.aligned_of_step (fun _ i _ hi => (readsUnit i.1 hi).reads) l s hs

/-- On a connection with units of any content, each call of `async_read_request` starts at a unit, reads exactly this unit and
invokes its callback once, with the ids of the unit and what its PDU alone decodes to; before it, there was one invocation for
each unit read. -/
theorem readRequest_eachUnit (l : List (UInt8 × Adu)) (rest : List UInt8) (s : Server)
    (hs : incoming s = l.flatMap unit ++ rest) (done : List (UInt8 × Adu)) (i : UInt8 × Adu) (todo : List (UInt8 × Adu))
    (hl : l = done ++ i :: todo) :
    incoming (FramedRun.run step done s) = unit i ++ (todo.flatMap unit ++ rest) ∧
    (FramedRun.run step done s).calls = s.calls ++ done.map (·.2.callback) ∧
    ReadsUnit i.1 i.2 (todo.flatMap unit ++ rest) (FramedRun.run step done s) := by
  have hat : incoming (FramedRun.run step done s) = unit i ++ (todo.flatMap unit ++ rest) := by
    rw [run_aligned l rest s hs done (i :: todo) hl, List.flatMap_cons, List.append_assoc]
  have hdone : incoming s = done.flatMap unit ++ ((i :: todo).flatMap unit ++ rest) := by
    rw [hs, hl, List.flatMap_append, List.append_assoc]
  exact ⟨hat, calls_run done _ s hdone, readsUnit i.1 hat⟩

/-- Two units, one with an unknown function code and one with a byte too many. -/
def twoUnits : List (UInt8 × Adu) :=
  [(0, .sent 4 1 [0x2B, 0] (by decide)), (0, .sent 5 1 [0x06, 0, 0, 0, 7, 0] (by decide))]

theorem readRequest_eachUnit_twoUnits :
    incoming (FramedRun.run step (twoUnits.take 1) { stream.nextLayer.incoming := twoUnits.flatMap unit }) =
      unit twoUnits[1] ++ [] ∧
    (FramedRun.run step (twoUnits.take 1) { stream.nextLayer.incoming := twoUnits.flatMap unit }).calls =
      [] ++ (twoUnits.take 1).map (·.2.callback) ∧
    ReadsUnit 0 twoUnits[1].2 []
      (FramedRun.run step (twoUnits.take 1) { stream.nextLayer.incoming := twoUnits.flatMap unit }) :=
  readRequest_eachUnit twoUnits [] { stream.nextLayer.incoming := twoUnits.flatMap unit } rfl (twoUnits.take 1) twoUnits[1] [] rfl

end Server

end Mothbus.Tcp
