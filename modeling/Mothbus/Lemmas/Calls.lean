import Mothbus.Lemmas.Master
import Mothbus.Lemmas.RtuClient
import Mothbus.Lemmas.TcpClient

/-!
# What a call returns

A call that gets as far as a response returns what its operation makes of the verdict of the client on the PDU. Over either
transport, whether all successes of a call are good is then a question about the frame that is next: its slave id, its header, and
what the operation makes of its PDU (`Operation.succeedsOnly_tcp_iff`, `Operation.succeedsOnly_rtu_iff`).
-/

namespace Mothbus

open ErrorLike (ok failed)

/-- Between two states of a connection a frame was read, and `pdu` is its PDU. -/
def Tcp.Received (s s' : Tcp.Stream) (pdu : List UInt8) : Prop :=
  ∃ h : Tcp.MbapHeader, h.length.toNat = pdu.length + 1 ∧ s.nextLayer.incoming = h.bytes ++ (pdu ++ s'.nextLayer.incoming)

/-- Between two states of a line a frame of a slave was gathered, and `body` is what came after the slave id, with the checksum. -/
def Rtu.Received (slave : UInt8) (s s' : Rtu.Stream) (body : List UInt8) : Prop :=
  Rtu.frameBytes s.line = slave :: body ∧ s'.line = Rtu.afterFrame s.line

/-- The PDU of the frame that was read is determined by the two states. -/
theorem Tcp.Received.eq_of_incoming {s s' : Tcp.Stream} {pdu body rest : List UInt8} {h : Tcp.MbapHeader}
    (hr : Tcp.Received s s' pdu) (hin : s.nextLayer.incoming = h.bytes ++ (body ++ rest)) (hrest : s'.nextLayer.incoming = rest) :
    pdu = body := by
  obtain ⟨h', -, hin'⟩ := hr
  rw [hrest] at hin'
  obtain ⟨-, htail⟩ := Tcp.MbapHeader.bytes_append_inj (hin'.symm.trans hin)
  exact List.append_cancel_right htail

namespace Plan

/-- What a call that waits for a response returns over TCP when it is answered with a PDU. -/
def tcpResult (p : Plan) (x : UInt8) (pdu : List UInt8) : ErrorCode × Output :=
  let v := Tcp.Stream.verdict x p.response pdu
  p.finish v.1 v.2

/-- What a call that waits for a response returns over RTU when a frame of its slave arrives, of which `body` is what comes after the
slave id. -/
def lineResult (p : Plan) (y : Rtu.Indeterminate) (slave : UInt8) (body : List UInt8) : ErrorCode × Output :=
  let v := Rtu.Stream.verdict y slave p.response body
  p.finish v.1 v.2

variable {p : Plan} {slave : UInt8}

/-- A call that returns has made its result of an error code and an object. -/
theorem run_eq_finish {σ : Type} {T : Transport σ} {s s' : σ} {result : ErrorCode × Output}
    (h : p.run T slave s = (.ok result, s')) : ∃ ec r, result = p.finish ec r := by
  obtain ⟨r, s₁, -, hr⟩ := Exec.bind_eq_ok h
  exact ⟨r.1, r.2, (Exec.ok_inj hr).1.symm⟩

/-- A call that made a success of what it waited for has waited for a success. -/
theorem awaited_of_finish {σ : Type} {op : Operation} (hp : op.plan = .ok p) {m : Exec Fault σ (ErrorCode × p.expected.Pdu)}
    {s s' : σ} {ec : ErrorCode} {output : Output}
    (h : (m >>= fun r => pure (p.finish r.1 r.2)) s = (.ok (ec, output), s')) (hok : failed ec = false) :
    ∃ v, m s = (.ok v, s') ∧ failed v.1 = false ∧ (ec, output) = p.finish v.1 v.2 := by
  obtain ⟨v, s₁, hm, hfinish⟩ := Exec.bind_eq_ok h
  obtain ⟨(hresult : p.finish v.1 v.2 = (ec, output)), rfl⟩ := Exec.ok_inj hfinish
  refine ⟨v, hm, Operation.ok_of_finish hp (r := v.2) ?_, hresult.symm⟩
  rw [hresult]
  exact hok

/-- Over TCP, with a frame on the connection that has the expected header. -/
theorem run_tcp_frame (x : UInt8) (hslave : slave ≠ 0) (hsends : p.Sends 313) {s : Tcp.Stream} {h : Tcp.MbapHeader}
    {pdu rest : List UInt8} (hlen : h.length.toNat = pdu.length + 1) (hin : s.nextLayer.incoming = h.bytes ++ (pdu ++ rest))
    (hexp : h.Expected s.transactionId slave) :
    ∃ s', p.run (Tcp.transport x) slave s = (.ok (p.tcpResult x pdu), s') ∧ s'.nextLayer.incoming = rest := by
  obtain ⟨m, hrun⟩ := p.run_tcp x slave hsends s
  obtain ⟨m', hread⟩ := Tcp.Stream.readResponse_accepted x p.response hslave
    (s := { s with
      messageBuffer := m, transactionId := s.transactionId + 1,
      nextLayer.outgoing := s.nextLayer.outgoing ++
        ((Tcp.frameHeader s.transactionId slave (PduWrite.write p.request)).bytes ++ PduWrite.write p.request) })
    hin hlen hexp
  exact ⟨_, hrun.trans (Exec.bind_ok hread), rfl⟩

/-- Over RTU, with a frame of the slave on the line that fits the array. -/
theorem run_rtu_frame (y : Rtu.Indeterminate) (hslave : slave ≠ 0) (hsends : p.Sends 317) {s : Rtu.Stream} {body : List UInt8}
    (hframe : Rtu.frameBytes s.line = slave :: body) (hfit : 1 + body.length ≤ 320) :
    ∃ s', p.run (Rtu.transport y) slave s = (.ok (p.lineResult y slave body), s') ∧ s'.line = Rtu.afterFrame s.line := by
  obtain ⟨m, hrun⟩ := p.run_rtu y slave hsends s
  obtain ⟨line, hline, rfl⟩ := Rtu.frameBytes_eq_cons hframe
  obtain ⟨m', hread⟩ := Rtu.Stream.receiveResponse_frame y p.response hslave
    (s := { s with
      messageBuffer := m, transactionId := s.transactionId + 1, sent := s.sent ++ Rtu.frame slave (PduWrite.write p.request) })
    hline hfit
  refine ⟨_, hrun.trans (Exec.bind_ok hread), ?_⟩
  rw [hline]
  rfl

/-- A call that returned without an error over TCP has read a frame with the expected header. -/
theorem frame_of_run_tcp {op : Operation} (hp : op.plan = .ok p) {x : UInt8} (hslave : slave ≠ 0) {s s' : Tcp.Stream}
    {ec : ErrorCode} {output : Output} (hrun : p.run (Tcp.transport x) slave s = (.ok (ec, output), s')) (hok : failed ec = false) :
    p.Sends 313 ∧ ∃ (h : Tcp.MbapHeader) (pdu : List UInt8), h.length.toNat = pdu.length + 1 ∧
      s.nextLayer.incoming = h.bytes ++ (pdu ++ s'.nextLayer.incoming) ∧ h.Expected s.transactionId slave ∧
      (ec, output) = p.tcpResult x pdu := by
  by_cases hsends : p.Sends 313
  · refine ⟨hsends, ?_⟩
    obtain ⟨m, hplan⟩ := p.run_tcp x slave hsends s
    rw [hplan] at hrun
    obtain ⟨v, hread, hv, hresult⟩ := awaited_of_finish hp hrun hok
    rcases Tcp.readResponse_cases x s.transactionId p.response hslave _ with
      ⟨s₂, hc⟩ | ⟨c, s₂, hc, hread'⟩ | ⟨h, pdu, rest, m', hlen, hin, hexp, hread'⟩
    · rw [hc] at hread
      cases hread
    · rw [hread'] at hread
      cases hread
      exact absurd (hv.symm.trans hc) (by decide)
    · rw [hread'] at hread
      cases hread
      exact ⟨h, pdu, hlen, hin, hexp, hresult⟩
  · obtain ⟨f, s₂, herror⟩ := p.run_tcp_error x slave hsends s
    rw [herror] at hrun
    cases hrun

/-- A call that returned without an error over RTU has gathered a frame of its slave. -/
theorem frame_of_run_rtu {op : Operation} (hp : op.plan = .ok p) {y : Rtu.Indeterminate} (hslave : slave ≠ 0) {s s' : Rtu.Stream}
    {ec : ErrorCode} {output : Output} (hrun : p.run (Rtu.transport y) slave s = (.ok (ec, output), s')) (hok : failed ec = false) :
    p.Sends 317 ∧ ∃ body, Rtu.frameBytes s.line = slave :: body ∧ 1 + body.length ≤ 320 ∧ s'.line = Rtu.afterFrame s.line ∧
      (ec, output) = p.lineResult y slave body := by
  by_cases hsends : p.Sends 317
  · refine ⟨hsends, ?_⟩
    obtain ⟨m, hplan⟩ := p.run_rtu y slave hsends s
    rw [hplan] at hrun
    obtain ⟨v, hread, hv, hresult⟩ := awaited_of_finish hp hrun hok
    rcases Rtu.Stream.receiveResponse_cases y p.response hslave _ with
      ⟨f, s₂, hc⟩ | ⟨c, s₂, hc, hread'⟩ | ⟨body, m', hframe, hfit, hread'⟩
    · rw [hc] at hread
      cases hread
    · rw [hread'] at hread
      cases hread
      exact absurd (hv.symm.trans hc) (by decide)
    · rw [hread'] at hread
      cases hread
      exact ⟨body, hframe, hfit, rfl, hresult⟩
  · obtain ⟨f, s₂, herror⟩ := p.run_rtu_error y slave hsends s
    rw [herror] at hrun
    cases hrun

end Plan

namespace Operation

variable {op : Operation} {slave : UInt8}

/-- Every success of a call is a good one: what it leaves in the caller's span is `good` for a PDU received during the call. -/
def SucceedsOnly {σ : Type} (op : Operation) (T : Transport σ) (slave : UInt8) (received : σ → σ → List UInt8 → Prop)
    (good : List UInt8 → Output → Prop) (s : σ) : Prop :=
  ∀ ec output s', op.run T slave s = (.ok (ec, output), s') → failed ec = false → ∃ pdu, received s s' pdu ∧ good pdu output

/-- The checksum of a frame passes, for the response object of the operation. -/
def ChecksumPasses (op : Operation) (y : Rtu.Indeterminate) (slave : UInt8) (body : List UInt8) : Prop :=
  ∃ p, op.plan = .ok p ∧ Rtu.Stream.ChecksumPasses y slave p.response body

/-- For an operation, the checksum passes as it does for the response object of its plan. -/
theorem checksumPasses_iff {p : Plan} (hp : op.plan = .ok p) (y : Rtu.Indeterminate) (body : List UInt8) :
    op.ChecksumPasses y slave body ↔ Rtu.Stream.ChecksumPasses y slave p.response body := by
  constructor
  · rintro ⟨p', hp', h⟩
    obtain rfl := Except.ok.inj (hp.symm.trans hp')
    exact h
  · intro h
    exact ⟨p, hp, h⟩

/-- A call that returned went by a plan. -/
theorem exists_plan {σ : Type} {T : Transport σ} {s s' : σ} {result : ErrorCode × Output}
    (h : op.run T slave s = (.ok result, s')) : ∃ p, op.plan = .ok p ∧ p.run T slave s = (.ok result, s') := by
  rcases hp : op.plan with f | p
  · rw [run_of_plan_error T slave s hp] at h
    cases h
  · rw [run_of_plan T slave s hp] at h
    exact ⟨p, rfl, h⟩

/-- What answers a call in a state: a call that is sent to one of the PDUs that are next returns what its plan makes of it, and a
call that succeeds was sent and answered so. -/
structure AnsweredBy {σ : Type} (op : Operation) (T : Transport σ) (slave : UInt8) (received : σ → σ → List UInt8 → Prop) (s : σ)
    (limit : Nat) (next : List UInt8 → Prop) (result : Plan → List UInt8 → ErrorCode × Output) : Prop where
  returns : ∀ p, op.plan = .ok p → p.Sends limit → ∀ pdu, next pdu →
    ∃ s', p.run T slave s = (.ok (result p pdu), s') ∧ ∀ pdu', received s s' pdu' → pdu' = pdu
  answered : ∀ p, op.plan = .ok p → ∀ ec output s', p.run T slave s = (.ok (ec, output), s') → failed ec = false →
    p.Sends limit ∧ ∃ pdu, next pdu ∧ received s s' pdu ∧ (ec, output) = result p pdu

/-- All successes of a call are good, unless its request is sent and the answer is a bad one: a PDU that the operation makes a
success of that is not good. -/
theorem AnsweredBy.succeedsOnly_iff {σ : Type} {T : Transport σ} {received : σ → σ → List UInt8 → Prop} {s : σ} {limit : Nat}
    {next : List UInt8 → Prop} {result : Plan → List UInt8 → ErrorCode × Output}
    (h : op.AnsweredBy T slave received s limit next result) {good : List UInt8 → Output → Prop} {bad : List UInt8 → Prop}
    (hbad : ∀ p, op.plan = .ok p → ∀ pdu, failed (result p pdu).1 = false ∧ ¬good pdu (result p pdu).2 ↔ bad pdu) :
    op.SucceedsOnly T slave received good s ↔ ¬(op.Sends limit ∧ ∃ pdu, next pdu ∧ bad pdu) := by
  constructor
  · rintro hsound ⟨⟨p, hp, hsends⟩, pdu, hnext, hb⟩
    obtain ⟨hok, hnot⟩ := (hbad p hp pdu).mpr hb
    obtain ⟨s', hrun, honly⟩ := h.returns p hp hsends pdu hnext
    obtain ⟨pdu', hreceived, hgood⟩ := hsound _ _ s' ((run_of_plan _ slave s hp).trans hrun) hok
    rw [honly pdu' hreceived] at hgood
    exact hnot hgood
  · intro hnone ec output s' hrun hok
    obtain ⟨p, hp, hrun⟩ := exists_plan hrun
    obtain ⟨hsends, pdu, hnext, hreceived, hresult⟩ := h.answered p hp ec output s' hrun hok
    refine ⟨pdu, hreceived, ?_⟩
    by_contra hnot
    refine hnone ⟨⟨p, hp, hsends⟩, pdu, hnext, (hbad p hp pdu).mp ?_⟩
    rw [← hresult]
    exact ⟨hok, hnot⟩

/-- Over TCP a call is answered by the PDU of the next frame, if its header is the expected one. -/
theorem answeredBy_tcp (x : UInt8) (hslave : slave ≠ 0) (s : Tcp.Stream) :
    op.AnsweredBy (Tcp.transport x) slave Tcp.Received s 313
      (fun pdu => ∃ h, Tcp.StartsWithFrame s.nextLayer.incoming h pdu ∧ h.Expected s.transactionId slave)
      (fun p pdu => p.tcpResult x pdu) where
  returns := by
    rintro p - hsends pdu ⟨h, ⟨hlen, rest, hin⟩, hexp⟩
    obtain ⟨s', hrun, hrest⟩ := Plan.run_tcp_frame x hslave hsends hlen hin hexp
    exact ⟨s', hrun, fun pdu' hreceived => hreceived.eq_of_incoming hin hrest⟩
  answered := by
    intro p hp ec output s' hrun hok
    obtain ⟨hsends, h, pdu, hlen, hin, hexp, hresult⟩ := Plan.frame_of_run_tcp hp hslave hrun hok
    exact ⟨hsends, pdu, ⟨h, ⟨hlen, _, hin⟩, hexp⟩, ⟨h, hlen, hin⟩, hresult⟩

/-- Over RTU a call is answered by the frame of its slave, if there is one and it fits the array. -/
theorem answeredBy_rtu (y : Rtu.Indeterminate) (hslave : slave ≠ 0) (s : Rtu.Stream) :
    op.AnsweredBy (Rtu.transport y) slave (Rtu.Received slave) s 317
      (fun body => Rtu.frameBytes s.line = slave :: body ∧ 1 + body.length ≤ 320) (fun p body => p.lineResult y slave body) where
  returns := by
    rintro p - hsends body ⟨hframe, hfit⟩
    obtain ⟨s', hrun, -⟩ := Plan.run_rtu_frame y hslave hsends hframe hfit
    refine ⟨s', hrun, ?_⟩
    rintro body' ⟨hframe', -⟩
    exact (List.cons.inj (hframe'.symm.trans hframe)).2
  answered := by
    intro p hp ec output s' hrun hok
    obtain ⟨hsends, body, hframe, hfit, hline, hresult⟩ := Plan.frame_of_run_rtu hp hslave hrun hok
    exact ⟨hsends, body, ⟨hframe, hfit⟩, ⟨hframe, hline⟩, hresult⟩

/-- Over TCP a bad answer is the next frame, if its header is the expected one and its PDU a bad one. -/
theorem succeedsOnly_tcp_iff {x : UInt8} (hslave : slave ≠ 0) {good : List UInt8 → Output → Prop} {bad : List UInt8 → Prop}
    (hbad : ∀ p, op.plan = .ok p → ∀ pdu,
      failed (p.tcpResult x pdu).1 = false ∧ ¬good pdu (p.tcpResult x pdu).2 ↔ bad pdu) (s : Tcp.Stream) :
    op.SucceedsOnly (Tcp.transport x) slave Tcp.Received good s ↔
      ¬(op.Sends 313 ∧ ∃ h pdu, Tcp.StartsWithFrame s.nextLayer.incoming h pdu ∧ h.Expected s.transactionId slave ∧ bad pdu) := by
  rw [(answeredBy_tcp x hslave s).succeedsOnly_iff hbad]
  refine not_congr (and_congr_right fun _ => ?_)
  constructor
  · rintro ⟨pdu, ⟨h, hframe, hexp⟩, hb⟩
    exact ⟨h, pdu, hframe, hexp, hb⟩
  · rintro ⟨h, pdu, hframe, hexp, hb⟩
    exact ⟨pdu, ⟨h, hframe, hexp⟩, hb⟩

/-- Over RTU it is the frame of the slave, if there is one and it fits the array. -/
theorem succeedsOnly_rtu_iff {y : Rtu.Indeterminate} (hslave : slave ≠ 0) {good : List UInt8 → Output → Prop}
    {bad : List UInt8 → Prop}
    (hbad : ∀ p, op.plan = .ok p → ∀ body,
      failed (p.lineResult y slave body).1 = false ∧ ¬good body (p.lineResult y slave body).2 ↔ bad body) (s : Rtu.Stream) :
    op.SucceedsOnly (Rtu.transport y) slave (Rtu.Received slave) good s ↔
      ¬(op.Sends 317 ∧ ∃ body, Rtu.frameBytes s.line = slave :: body ∧ 1 + body.length ≤ 320 ∧ bad body) := by
  rw [(answeredBy_rtu y hslave s).succeedsOnly_iff hbad]
  simp only [and_assoc]

end Operation

end Mothbus
