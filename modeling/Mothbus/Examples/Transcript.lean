import Mothbus.Library.Consumer
import Mothbus.Lemmas.Handlers
import Mothbus.Lemmas.TcpViews

/-!
# What a server loop is for

The example servers abstractly: a loop takes a header, then the body that the header announces, answers the request it makes of the
body, and starts anew. What a loop makes of a stream of bytes is its transcript; no buffer, no array and no pieces occur in it, only the
place where the array of the real loop would be left.
-/

namespace Mothbus.Examples

open ErrorLike (ok failed)
open Tcp

/-- What a loop does with a header: wait for the body, answer with an exception at once, or end. -/
inductive HeaderVerdict where
  | accept
  | refuse (ec : ModbusExceptionCode)
  | close
  deriving DecidableEq

/-- How a loop treats headers. -/
structure Loop where
  check : MbapHeader → HeaderVerdict
  two_le : ∀ h, check h = .accept → 2 ≤ h.length.toNat

/-- The loop of the coroutines. -/
def Loop.coroutine : Loop where
  check h := if ¬(2 ≤ h.length.toNat) ∧ h.length.toNat ≤ 254 then .refuse .requestTooBig else .accept
  two_le h hc := by
    split at hc
    · nomatch hc
    · omega

/-- The loop over `async_read_request`. -/
def Loop.connection : Loop where
  check h := if h.isValidLength then .accept else .close
  two_le h hc := by
    split at hc
    · rename_i hv
      exact ((h.isValidLength_iff).mp hv).1
    · nomatch hc

/-- Where a loop is: before a header, before the body that a header announces, ended, or outside its array. -/
inductive Phase where
  | header
  | body (h : MbapHeader) (two_le : 2 ≤ h.length.toNat)
  | closed
  | overflowed

/-- How many bytes a loop reads. -/
def Phase.size : Phase → Nat
  | .header => MbapHeader.headerSize
  | .body h _ => h.length.toNat - 1
  | .closed | .overflowed => 0

/-- The request that a body is, if it is one. -/
def requestOf (pdu : List UInt8) : Option PduReq :=
  if failed (Server.outcome 0 newRequest pdu).1 then none else some (Server.outcome 0 newRequest pdu).2

/-- What a server makes of a body that is a request, whatever its request variable and its uninitialised local held. -/
theorem outcome_of_request (indeterminate : UInt8) (request : PduReq) {pdu : List UInt8} {req : PduReq} (h : requestOf pdu = some req) :
    Server.outcome indeterminate request pdu = (ok, req) := by
  obtain ⟨hec, hreq⟩ := readPduReq_congr 0 indeterminate newRequest request pdu
  unfold requestOf Server.outcome at h
  split at h
  · nomatch h
  · rename_i hok
    have hok' := Bool.not_eq_true _ ▸ hok
    obtain ⟨k, q, rest, -, -, hrun⟩ := request_accepted Buffer.input_eof_failed hok'
    rw [← Option.some.inj h]
    refine Prod.ext (hec.symm.trans ?_) (hreq hok').symm
    rw [hrun]

/-- A server makes an error of a body that is no request. -/
theorem outcome_of_nonrequest (indeterminate : UInt8) (request : PduReq) {pdu : List UInt8} (h : requestOf pdu = none) :
    failed (Server.outcome indeterminate request pdu).1 = true := by
  obtain ⟨hec, -⟩ := readPduReq_congr 0 indeterminate newRequest request pdu
  unfold requestOf Server.outcome at h
  split at h
  · rename_i hfailed
    unfold Server.outcome
    rw [← hec]
    exact hfailed
  · nomatch h

/-- Where a loop gets to by a header, and what it answers. -/
def Loop.afterHeader (loop : Loop) (h : MbapHeader) : Phase × List Response :=
  if hc : loop.check h = .accept then (.body h (loop.two_le h hc), [])
  else
    match loop.check h with
    | .refuse ec => (.header, [⟨h.transactionId, h.unitId, exception ⟨0⟩ ec⟩])
    | _ => (.closed, [])

/-- Where a loop gets to by the body of a header, and what it answers. -/
def afterBody (reply : Reply) (h : MbapHeader) (pdu : List UInt8) : Phase × List Response :=
  if 313 < h.length.toNat - 1 then (.overflowed, [])
  else
    match requestOf pdu with
    | none => (.closed, [])
    | some req => (.header, [⟨h.transactionId, h.unitId, reply req⟩])

/-- A loop with a reply, as a consumer of bytes. Of a body that does not fit the array behind the header, it takes the first byte that
does not fit. -/
def Loop.server (loop : Loop) (reply : Reply) : Consumer Phase UInt8 Response where
  need
    | .header => some MbapHeader.headerSize
    | .body h _ => some (min (h.length.toNat - 1) 314)
    | .closed | .overflowed => none
  need_pos := by
    rintro (_ | ⟨h, hh⟩ | _ | _) n hn
    · obtain rfl := Option.some.inj hn
      decide
    · obtain rfl := Option.some.inj hn
      omega
    · nomatch hn
    · nomatch hn
  step
    | .header, l => loop.afterHeader (MbapHeader.ofBytes l)
    | .body h _, l => afterBody reply h l
    | phase, _ => (phase, [])

/-- What a loop makes of the bytes that arrive: where it gets to, the bytes it leaves, and the responses it sends. -/
def Loop.transcript (loop : Loop) (reply : Reply) (arrived : List UInt8) : Phase × List UInt8 × List Response :=
  (loop.server reply).drain .header arrived

/-! ## Steps of a loop -/

section

variable {loop : Loop} {h : MbapHeader}

/-- After a header that is accepted its body is read. -/
theorem Loop.afterHeader_accept (hc : loop.check h = .accept) : loop.afterHeader h = (.body h (loop.two_le h hc), []) :=
  dif_pos hc

/-- A header that is refused is answered with the exception of function 0, and the next header is read. -/
theorem Loop.afterHeader_refuse {ec : ModbusExceptionCode} (hc : loop.check h = .refuse ec) :
    loop.afterHeader h = (.header, [⟨h.transactionId, h.unitId, exception ⟨0⟩ ec⟩]) := by
  rw [Loop.afterHeader, dif_neg (by rw [hc]; nofun), hc]

/-- A header that closes the connection is not answered. -/
theorem Loop.afterHeader_close (hc : loop.check h = .close) : loop.afterHeader h = (.closed, []) := by
  rw [Loop.afterHeader, dif_neg (by rw [hc]; nofun), hc]

/-- A body that is a request is answered under the ids of its header. -/
theorem afterBody_request {reply : Reply} (hfit : h.length.toNat - 1 ≤ 313) {pdu : List UInt8} {req : PduReq}
    (hreq : requestOf pdu = some req) : afterBody reply h pdu = (.header, [⟨h.transactionId, h.unitId, reply req⟩]) := by
  rw [afterBody, if_neg (Nat.not_lt.mpr hfit), hreq]

/-- One that is none closes the connection. -/
theorem afterBody_undecodable {reply : Reply} (hfit : h.length.toNat - 1 ≤ 313) {pdu : List UInt8} (hreq : requestOf pdu = none) :
    afterBody reply h pdu = (.closed, []) := by
  rw [afterBody, if_neg (Nat.not_lt.mpr hfit), hreq]

/-- A body that fits the array does not leave it. -/
theorem afterBody_ne_overflowed {reply : Reply} (hfit : h.length.toNat - 1 ≤ 313) (pdu : List UInt8) :
    (afterBody reply h pdu).1 ≠ .overflowed := by
  cases hreq : requestOf pdu with
  | none =>
    rw [afterBody_undecodable hfit hreq]
    nofun
  | some req =>
    rw [afterBody_request hfit hreq]
    nofun

/-- One that does not fit leaves it. -/
theorem afterBody_overflow {reply : Reply} (hlong : 313 < h.length.toNat - 1) (l : List UInt8) :
    afterBody reply h l = (.overflowed, []) := if_pos hlong

end

namespace Loop

variable {loop : Loop} {reply : Reply} {h : MbapHeader} {two_le : 2 ≤ h.length.toNat}

theorem step_header (h : MbapHeader) : (loop.server reply).step .header h.bytes = loop.afterHeader h :=
  congrArg loop.afterHeader h.ofBytes_bytes

/-- A body that fits is waited for as a whole. -/
theorem need_body (hfit : h.length.toNat - 1 ≤ 313) :
    (loop.server reply).need (.body h two_le) = some (h.length.toNat - 1) :=
  congrArg some (Nat.min_eq_left (by omega))

/-- Of a body that does not fit, the byte that leaves the array is waited for. -/
theorem need_body_long (hlong : 313 < h.length.toNat - 1) : (loop.server reply).need (.body h two_le) = some 314 :=
  congrArg some (Nat.min_eq_right hlong)

end Loop

/-! ## Units -/

/-- The answers to units, up to the first whose PDU is no request. -/
def answers (reply : Reply) : List Adu → List Response
  | [] => []
  | a :: units =>
    match requestOf a.pdu with
    | none => []
    | some req => ⟨a.transactionId, a.unitId, reply req⟩ :: answers reply units

/-- The unit is a request. -/
def IsRequest (a : Adu) : Prop := (requestOf a.pdu).isSome

instance (a : Adu) : Decidable (IsRequest a) := inferInstanceAs (Decidable (_ = true))

namespace Loop

variable {loop : Loop} {reply : Reply}

theorem transcript_nil : loop.transcript reply [] = (.header, [], []) := (Consumer.settled_nil _ _).drain

/-- A loop that takes the headers of units reads a unit whole and does with its PDU what it does with bodies. -/
theorem drain_unit {a : Adu} (hc : loop.check a.header = .accept) (rest : List UInt8) :
    (loop.server reply).drain .header (a.bytes ++ rest) =
      match requestOf a.pdu with
      | none => (.closed, rest, [])
      | some req => Consumer.prepend [⟨a.transactionId, a.unitId, reply req⟩] ((loop.server reply).drain .header rest) := by
  have hpdu := a.pdu_length
  have hlen : a.header.length.toNat - 1 = a.pdu.length := by
    rw [a.header_length]
    omega
  have hfit : a.header.length.toNat - 1 ≤ 313 := by omega
  have hheader : (loop.server reply).step .header a.header.bytes = (.body a.header (loop.two_le _ hc), []) :=
    (step_header _).trans (afterHeader_accept hc)
  have hneed : (loop.server reply).need (.body a.header (loop.two_le _ hc)) = some a.pdu.length := by
    rw [need_body hfit, hlen]
  rw [Adu.bytes, List.append_assoc, Consumer.drain_append_step rfl a.header.length_bytes hheader, Consumer.prepend_nil]
  cases hreq : requestOf a.pdu with
  | none =>
    rw [Consumer.drain_append_step hneed rfl (afterBody_undecodable hfit hreq), Consumer.drain_stopped rfl]
    rfl
  | some req => rw [Consumer.drain_append_step hneed rfl (afterBody_request hfit hreq)]; rfl

/-- Units that are requests are answered one by one. -/
theorem transcript_requests (hc : ∀ a : Adu, loop.check a.header = .accept) {units : List Adu} (hreq : ∀ a ∈ units, IsRequest a)
    (rest : List UInt8) :
    loop.transcript reply (units.flatMap Adu.bytes ++ rest) = Consumer.prepend (answers reply units) (loop.transcript reply rest) := by
  induction units with
  | nil => rfl
  | cons a units ih =>
    obtain ⟨req, hsome⟩ := Option.isSome_iff_exists.mp (hreq a List.mem_cons_self)
    have hrest := ih fun b hb => hreq b (List.mem_cons_of_mem a hb)
    rw [List.flatMap_cons, List.append_assoc, answers, transcript, drain_unit (hc a), hsome]
    show Consumer.prepend _ (loop.transcript reply _) = _
    rw [hrest, ← Consumer.prepend_append]
    rfl

/-- A unit that is no request ends the loop, and what follows it is left. -/
theorem transcript_unit_closed (hc : ∀ a : Adu, loop.check a.header = .accept) {a : Adu} (ha : ¬IsRequest a) (rest : List UInt8) :
    loop.transcript reply (a.bytes ++ rest) = (.closed, rest, []) := by
  rw [IsRequest, Bool.not_eq_true, Option.isSome_eq_false_iff, Option.isNone_iff_eq_none] at ha
  rw [transcript, drain_unit (hc a), ha]

/-- Units are answered up to the first that is no request. -/
theorem transcript_units (reply : Reply) (hc : ∀ a : Adu, loop.check a.header = .accept) (units : List Adu) :
    (loop.transcript reply (units.flatMap Adu.bytes)).2.2 = answers reply units ∧
      (loop.transcript reply (units.flatMap Adu.bytes)).1 = if ∀ a ∈ units, IsRequest a then .header else .closed := by
  induction units with
  | nil =>
    have hnone : ∀ a ∈ ([] : List Adu), IsRequest a := nofun
    rw [List.flatMap_nil, transcript_nil, if_pos hnone]
    exact ⟨rfl, rfl⟩
  | cons a units ih =>
    rw [List.flatMap_cons, answers, transcript, drain_unit (hc a)]
    cases hsome : requestOf a.pdu with
    | none =>
      have hnot : ¬∀ b ∈ a :: units, IsRequest b := fun h => by
        have := h a List.mem_cons_self
        rw [IsRequest, hsome] at this
        cases this
      exact ⟨rfl, (if_neg hnot).symm⟩
    | some req =>
      have hall : (∀ b ∈ a :: units, IsRequest b) ↔ ∀ b ∈ units, IsRequest b := by
        rw [List.forall_mem_cons, IsRequest, hsome]
        simp
      obtain ⟨hout, hphase⟩ := ih
      refine ⟨congrArg (_ :: ·) hout, ?_⟩
      simp only [hall]
      exact hphase

/-- The coroutine takes the header of a unit. -/
theorem check_coroutine (a : Adu) : coroutine.check a.header = .accept := by
  refine if_neg fun h => h.1 ?_
  have := a.pdu_length
  rw [a.header_length]
  omega

/-- So does the connection. -/
theorem check_connection (a : Adu) : connection.check a.header = .accept := if_pos a.isValidLength_header

/-- A coroutine leaves its array by a part of a frame exactly when the frame is longer than the array and the part goes beyond it. -/
theorem transcript_overflowed_iff (reply : Reply) (h : MbapHeader) {body : List UInt8} (hbody : body.length ≤ h.length.toNat - 1) :
    (coroutine.transcript reply (h.bytes ++ body)).1 = .overflowed ↔ 315 ≤ h.length.toNat ∧ 314 ≤ body.length := by
  rw [transcript]
  by_cases hrefuse : ¬(2 ≤ h.length.toNat) ∧ h.length.toNat ≤ 254
  · have hstep : (coroutine.server reply).step .header h.bytes = _ := (step_header h).trans (afterHeader_refuse (if_pos hrefuse))
    obtain rfl : body = [] := List.eq_nil_of_length_eq_zero (by omega)
    rw [Consumer.drain_append_step rfl h.length_bytes hstep, (Consumer.settled_nil _ _).drain]
    constructor
    · rintro ⟨⟩
    · rintro ⟨hlen, -⟩
      omega
  have hcheck : coroutine.check h = .accept := if_neg hrefuse
  have hstep : (coroutine.server reply).step .header h.bytes = (.body h (coroutine.two_le h hcheck), []) :=
    (step_header h).trans (afterHeader_accept hcheck)
  rw [Consumer.drain_append_step rfl h.length_bytes hstep, Consumer.prepend_nil]
  by_cases hlong : 313 < h.length.toNat - 1
  · by_cases hover : 314 ≤ body.length
    · rw [Consumer.drain_step (need_body_long hlong) hover]
      have hbodyStep : (coroutine.server reply).step (.body h (coroutine.two_le h hcheck)) (body.take 314) = (.overflowed, []) :=
        afterBody_overflow hlong _
      rw [hbodyStep, Consumer.drain_stopped rfl]
      exact ⟨fun _ => ⟨by omega, hover⟩, fun _ => rfl⟩
    · rw [Consumer.drain_waiting (need_body_long hlong) (by omega)]
      exact ⟨fun hphase => (nomatch hphase), fun hboth => absurd hboth.2 hover⟩
  · have hnot : ¬(315 ≤ h.length.toNat ∧ 314 ≤ body.length) := by omega
    refine ⟨fun hphase => ?_, fun hboth => absurd hboth hnot⟩
    by_cases hmore : body.length < h.length.toNat - 1
    · rw [Consumer.drain_waiting (need_body (by omega)) hmore] at hphase
      nomatch hphase
    · rw [Consumer.drain_step (need_body (by omega)) (Nat.not_lt.mp hmore), List.take_of_length_le hbody, List.drop_of_length_le hbody,
        (Consumer.settled_nil _ _).drain] at hphase
      exact absurd hphase (afterBody_ne_overflowed (Nat.not_lt.mp hlong) body)

end Loop

end Mothbus.Examples
