import Mothbus.Lemmas.Calls

/-!
# The two transports

The same operation, answered with the same PDU over TCP and over RTU. A response that the operation's reader takes ends the same way
on both. An exception does not: the RTU client drops the error that its decoder returns, and after the checksum it ends with
success.
-/

namespace Mothbus

open ErrorLike (ok failed)
open ReadProgram Decoder

/-- Two calls agree when they return the same, or when neither returns. -/
def Agree : Except Fault (ErrorCode × Output) → Except Fault (ErrorCode × Output) → Prop
  | .ok r, .ok r' => SameResult r r'
  | .error _, .error _ => True
  | _, _ => False

/-- The operation's reader accepts a PDU and reads all of it. -/
def Operation.Accepts (op : Operation) (pdu : List UInt8) : Prop :=
  ∀ p, op.plan = .ok p → ∃ r, (readPduResp 0 p.response).run Buffer.input pdu = (r, []) ∧ failed r.1 = false

/-- A PDU that starts with an exception, its code not zero. -/
def IsException (pdu : List UInt8) (fC code : UInt8) (rest : List UInt8) : Prop :=
  pdu = fC :: code :: rest ∧ fC &&& 0x80 ≠ 0 ∧ code ≠ 0

/-! ## The verdicts of the two clients -/

section

variable {p : Plan} {pdu : List UInt8}

/-- A response that is accepted whole is read the same whatever comes after it and whatever the uninitialised local held. -/
theorem consumes_accepted (x : UInt8) {r : ErrorCode × p.expected.Pdu}
    (h : (readPduResp 0 p.response).run Buffer.input pdu = (r, [])) (hok : failed r.1 = false) :
    Consumes (makeErrorCode .tooManyBytesReceived) (readPduResp x p.response) pdu r := by
  have hok' : failed ((readPduResp 0 p.response).run Buffer.input pdu).1.1 = false := by rw [h, hok]
  obtain ⟨used, hused, hc⟩ := (readPduResp_propagating p.expected 0 p.response).exists_consumes Buffer.input_eof_failed hok'
  change pdu = used ++ ((readPduResp 0 p.response).run Buffer.input pdu).2 at hused
  change Consumes _ _ used ((readPduResp 0 p.response).run Buffer.input pdu).1 at hc
  rw [h] at hused hc
  rw [List.append_nil] at hused
  intro rest
  rw [readPduResp_congr Buffer.input_eof_failed x 0, hused]
  exact hc rest

/-- A PDU that the decoder accepts as a whole makes the TCP client succeed. -/
theorem tcpVerdict_accepted (x : UInt8) {r : ErrorCode × p.expected.Pdu}
    (h : (readPduResp 0 p.response).run Buffer.input pdu = (r, [])) (hok : failed r.1 = false) :
    Tcp.Stream.verdict x p.response pdu = (makeErrorCode .success, r.2) := by
  have hrun : (readPduResp x p.response).run Buffer.input pdu = (r, []) := (consumes_accepted x h hok).run_eq
  unfold Tcp.Stream.verdict
  rw [hrun]
  simp only [hok, Bool.false_eq_true, if_false]

/-- The decoder leaves the checksum. -/
theorem rtuVerdict_accepted (x : Rtu.Indeterminate) (slave : UInt8) {r : ErrorCode × p.expected.Pdu}
    (h : (readPduResp 0 p.response).run Buffer.input pdu = (r, [])) (hok : failed r.1 = false) :
    Rtu.Stream.verdict x slave p.response (pdu ++ Rtu.crcBytes (slave :: pdu)) = (ok, r.2) := by
  have hrun : Rtu.Stream.decode x p.response (pdu ++ Rtu.crcBytes (slave :: pdu)) = (r, Rtu.crcBytes (slave :: pdu)) :=
    consumes_accepted x.functionCode h hok _
  rw [Rtu.Stream.verdict_eq hrun]
  exact if_pos rfl

variable {fC code : UInt8} {rest : List UInt8}

/-- The exception is reported. -/
theorem tcpVerdict_exception (x : UInt8) (h : IsException pdu fC code rest) :
    Tcp.Stream.verdict x p.response pdu = (makeErrorCode ⟨(code.toNat : Int)⟩, p.response) := by
  obtain ⟨rfl, hbit, hcode⟩ := h
  have hrun : (readPduResp x p.response).run Buffer.input (fC :: code :: rest) =
      ((makeErrorCode ⟨(code.toNat : Int)⟩, p.response), rest) := consumes_exception _ x p.response hbit code rest
  have hfailed := (failed_makeErrorCode_byte code).mpr hcode
  unfold Tcp.Stream.verdict
  rw [hrun]
  simp only [hfailed, if_true]

/-- The two bytes after the exception code are the checksum of the slave id and the exception. -/
def ChecksumMatches (slave : UInt8) (pdu : List UInt8) (fC code : UInt8) (rest : List UInt8) : Prop :=
  (rest ++ Rtu.crcBytes (slave :: pdu)).take 2 = Rtu.crcBytes [slave, fC, code]

instance (slave : UInt8) (pdu : List UInt8) (fC code : UInt8) (rest : List UInt8) :
    Decidable (ChecksumMatches slave pdu fC code rest) := inferInstanceAs (Decidable (_ = _))

/-- The exception is not reported: only the checksum decides. -/
theorem rtuVerdict_exception (x : Rtu.Indeterminate) (slave : UInt8) (h : IsException pdu fC code rest) :
    Rtu.Stream.verdict x slave p.response (pdu ++ Rtu.crcBytes (slave :: pdu)) =
      if ChecksumMatches slave pdu fC code rest then (ok, p.response)
      else (makeErrorCode .invalidResponse, p.response) := by
  obtain ⟨hpdu, hbit, -⟩ := h
  have hsplit : pdu ++ Rtu.crcBytes (slave :: pdu) = [fC, code] ++ (rest ++ Rtu.crcBytes (slave :: pdu)) := by
    rw [hpdu]
    rfl
  have hrun : Rtu.Stream.decode x p.response ([fC, code] ++ (rest ++ Rtu.crcBytes (slave :: pdu))) =
      ((makeErrorCode ⟨(code.toNat : Int)⟩, p.response), rest ++ Rtu.crcBytes (slave :: pdu)) :=
    consumes_exception _ x.functionCode p.response hbit code _
  have hlen : 2 ≤ (rest ++ Rtu.crcBytes (slave :: pdu)).length := by
    rw [List.length_append]
    exact Nat.le_add_left _ _
  rw [hsplit, Rtu.Stream.verdict_eq hrun]
  exact if_congr (Rtu.Stream.crcMatches_of_length _ _ hlen) rfl rfl

end

/-! ## The two calls -/

namespace Plan

/-- What it returns over RTU. -/
def rtuResult (p : Plan) (x : Rtu.Indeterminate) (slave : UInt8) (pdu : List UInt8) : ErrorCode × Output :=
  let v := Rtu.Stream.verdict x slave p.response (pdu ++ Rtu.crcBytes (slave :: pdu))
  p.finish v.1 v.2

variable {p : Plan} {slave : UInt8} {pdu : List UInt8}

/-- Over TCP, with a response on the connection. -/
theorem run_tcp_response (x : UInt8) (hslave : slave ≠ 0) (hsends : p.Sends 313) (hlen : 1 ≤ pdu.length ∧ pdu.length ≤ 248)
    {s : Tcp.Stream} (hin : s.nextLayer.incoming = (Tcp.frameHeader s.transactionId slave pdu).bytes ++ pdu) :
    ∃ s', p.run (Tcp.transport x) slave s = (.ok (p.tcpResult x pdu), s') := by
  have hshort : pdu.length < 65535 := by omega
  have hin' : s.nextLayer.incoming = (Tcp.frameHeader s.transactionId slave pdu).bytes ++ (pdu ++ []) := by
    rw [List.append_nil]
    exact hin
  obtain ⟨s', hrun, -⟩ := run_tcp_frame x hslave hsends (Tcp.frameHeader_length _ _ hshort) hin'
    ((Tcp.expected_frameHeader _ _ hshort).mpr hlen)
  exact ⟨s', hrun⟩

/-- Over RTU, with a response on the line and silence after it. -/
theorem run_rtu_response (x : Rtu.Indeterminate) (hslave : slave ≠ 0) (hsends : p.Sends 317) (hlen : pdu.length ≤ 248)
    {s : Rtu.Stream} (hline : s.line = (Rtu.frame slave pdu).map .byte) :
    ∃ s', p.run (Rtu.transport x) slave s = (.ok (p.rtuResult x slave pdu), s') := by
  have hframe : Rtu.frameBytes s.line = slave :: (pdu ++ Rtu.crcBytes (slave :: pdu)) := by
    rw [hline]
    exact Rtu.frameBytes_map_byte _
  have hcrc : (Rtu.crcBytes (slave :: pdu)).length = 2 := rfl
  obtain ⟨s', hrun, -⟩ := run_rtu_frame x hslave hsends hframe (by rw [List.length_append, hcrc]; omega)
  exact ⟨s', hrun⟩

end Plan

/-! ## Agreement -/

/-- Two results of which one is an error are the same only with the same error. -/
theorem sameResult_failed_iff {ec ec' : ErrorCode} (h : failed ec = true) (out : Output) :
    SameResult (ec, out) (ec', out) ↔ ec = ec' := by
  constructor
  · intro hsame
    exact hsame.1.2 h
  · rintro rfl
    exact .refl _

/-- The exception code that the clients refuse a response with. -/
theorem makeErrorCode_eq_invalidResponse_iff (code : UInt8) :
    makeErrorCode ⟨(code.toNat : Int)⟩ = makeErrorCode .invalidResponse ↔ code = 0x0C := by
  constructor
  · intro h
    have hvalue : (code.toNat : Int) = 0x0C := congrArg ErrorCode.value h
    exact UInt8.toNat_inj.mp (Int.ofNat_inj.mp hvalue)
  · rintro rfl
    rfl

/-- On an exception, the two clients agree by accident only: the exception is the one that they refuse a response with, and the RTU
client refuses it, or the operation does. -/
theorem sameResult_exception_iff {op : Operation} {p : Plan} (hp : op.plan = .ok p) {slave : UInt8} {pdu : List UInt8}
    {fC code : UInt8} {rest : List UInt8} (h : IsException pdu fC code rest) (x : UInt8) (y : Rtu.Indeterminate) :
    SameResult (p.tcpResult x pdu) (p.rtuResult y slave pdu) ↔
      code = 0x0C ∧ (¬ChecksumMatches slave pdu fC code rest ∨ op.spanTooLong = true) := by
  have hends := Operation.ends hp
  have hfailed := (failed_makeErrorCode_byte code).mpr h.2.2
  unfold Plan.tcpResult Plan.rtuResult
  rw [tcpVerdict_exception x h, rtuVerdict_exception y slave h, hends.failure _ hfailed]
  by_cases hmatch : ChecksumMatches slave pdu fC code rest
  · rw [if_pos hmatch]
    cases hlong : op.spanTooLong with
    | true =>
      rw [hends.refused hlong, sameResult_failed_iff hfailed, makeErrorCode_eq_invalidResponse_iff]
      simp only [or_true, and_true]
    | false =>
      simp only [hmatch, not_true_eq_false, Bool.false_eq_true, or_self, and_false, iff_false]
      intro hsame
      have hok : failed (p.finish ok p.response).1 = false := hends.untouched.trans hlong
      exact Bool.noConfusion (hfailed.symm.trans (hsame.1.1.trans hok))
  · rw [if_neg hmatch, hends.failure _ rfl, sameResult_failed_iff hfailed, makeErrorCode_eq_invalidResponse_iff]
    simp only [hmatch, not_false_eq_true, true_or, and_true]

/-- A response that is accepted ends the same way on both transports. -/
theorem sameResult_accepted {op : Operation} {p : Plan} (hp : op.plan = .ok p) {slave : UInt8} {pdu : List UInt8}
    (h : op.Accepts pdu) (x : UInt8) (y : Rtu.Indeterminate) :
    SameResult (p.tcpResult x pdu) (p.rtuResult y slave pdu) := by
  obtain ⟨r, hrun, hok⟩ := h p hp
  unfold Plan.tcpResult Plan.rtuResult
  rw [tcpVerdict_accepted x hrun hok, rtuVerdict_accepted y slave hrun hok]
  exact (Operation.ends hp).success _ _ _ rfl rfl

/-- An exception is not accepted. -/
theorem not_accepts_of_exception {op : Operation} {p : Plan} (hp : op.plan = .ok p) {pdu : List UInt8} {fC code : UInt8}
    {rest : List UInt8} (h : IsException pdu fC code rest) : ¬op.Accepts pdu := by
  intro haccepts
  obtain ⟨r, hrun, hok⟩ := haccepts p hp
  have hverdict := (tcpVerdict_accepted 0 hrun hok).symm.trans (tcpVerdict_exception 0 h)
  have hfailed := (failed_makeErrorCode_byte code).mpr h.2.2
  rw [← (Prod.mk.inj hverdict).1] at hfailed
  cases hfailed

/-- The results on the two transports are the same if and only if the response is accepted or is an exception on which the two
clients agree. -/
theorem sameResult_iff {op : Operation} {p : Plan} (hp : op.plan = .ok p) {slave : UInt8} {pdu : List UInt8}
    (hpdu : op.Accepts pdu ∨ ∃ fC code rest, IsException pdu fC code rest) (x : UInt8) (y : Rtu.Indeterminate) :
    SameResult (p.tcpResult x pdu) (p.rtuResult y slave pdu) ↔
      op.Accepts pdu ∨ ∃ fC rest, IsException pdu fC 0x0C rest ∧
        (¬ChecksumMatches slave pdu fC 0x0C rest ∨ op.spanTooLong = true) := by
  rcases hpdu with haccepts | ⟨fC, code, rest, hexception⟩
  · exact ⟨fun _ => Or.inl haccepts, fun _ => sameResult_accepted hp haccepts x y⟩
  · refine (sameResult_exception_iff hp hexception x y).trans ⟨?_, ?_⟩
    · rintro ⟨rfl, hrefused⟩
      exact Or.inr ⟨fC, rest, hexception, hrefused⟩
    · rintro (haccepts | ⟨fC', rest', hexception', hrefused⟩)
      · exact absurd haccepts (not_accepts_of_exception hp hexception)
      · have hsame := hexception.1.symm.trans hexception'.1
        obtain ⟨rfl, htail⟩ := List.cons.inj hsame
        obtain ⟨rfl, rfl⟩ := List.cons.inj htail
        exact ⟨rfl, hrefused⟩

namespace Operation

variable {op : Operation} {p : Plan}

/-- An operation is sent exactly if its plan is. -/
theorem sends_iff (hp : op.plan = .ok p) (limit : Nat) : op.Sends limit ↔ p.Sends limit := by
  constructor
  · rintro ⟨p', hp', hsends⟩
    rw [hp] at hp'
    obtain rfl := Except.ok.inj hp'
    exact hsends
  · intro hsends
    exact ⟨p, hp, hsends⟩

/-- The two transports agree on an operation and a response if and only if the operation does not get as far as the response on
either of them, or it does on both and the response is one that is accepted, or an exception with the code that the clients refuse
a response with and that the RTU client or the operation refuses. -/
theorem transports_agree_iff (op : Operation) (slave : UInt8) (pdu : List UInt8) (x : UInt8) (y : Rtu.Indeterminate)
    (s : Tcp.Stream) (t : Rtu.Stream) (hslave : slave ≠ 0) (hlen : 2 ≤ pdu.length ∧ pdu.length ≤ 248)
    (hpdu : op.Accepts pdu ∨ ∃ fC code rest, IsException pdu fC code rest)
    (hs : s.nextLayer.incoming = (Tcp.frameHeader s.transactionId slave pdu).bytes ++ pdu)
    (ht : t.line = (Rtu.frame slave pdu).map .byte) :
    Agree (op.run (Tcp.transport x) slave s).1 (op.run (Rtu.transport y) slave t).1 ↔
      ¬op.Sends 317 ∨ op.Sends 313 ∧ (op.Accepts pdu ∨ ∃ fC rest, IsException pdu fC 0x0C rest ∧
        (¬ChecksumMatches slave pdu fC 0x0C rest ∨ op.spanTooLong = true)) := by
  cases hp : op.plan with
  | error f =>
    rw [run_of_plan_error _ _ _ hp, run_of_plan_error _ _ _ hp]
    refine ⟨fun _ => Or.inl ?_, fun _ => trivial⟩
    rintro ⟨p, hp', -⟩
    rw [hp] at hp'
    nomatch hp'
  | ok p =>
    rw [run_of_plan _ _ _ hp, run_of_plan _ _ _ hp, sends_iff hp, sends_iff hp]
    by_cases h313 : p.Sends 313
    · have h317 : p.Sends 317 := h313.mono (by decide)
      obtain ⟨s', hs'⟩ := Plan.run_tcp_response x hslave h313 ⟨by omega, hlen.2⟩ hs
      obtain ⟨t', ht'⟩ := Plan.run_rtu_response y hslave h317 hlen.2 ht
      rw [hs', ht']
      simp only [h313, h317, not_true_eq_false, false_or, true_and]
      exact sameResult_iff hp hpdu x y
    · obtain ⟨f, s', hs'⟩ := Plan.run_tcp_error x slave h313 s
      rw [hs']
      by_cases h317 : p.Sends 317
      · obtain ⟨t', ht'⟩ := Plan.run_rtu_response y hslave h317 hlen.2 ht
        rw [ht']
        simp only [h313, h317, not_true_eq_false, false_and, or_self, iff_false]
        exact id
      · obtain ⟨f', t', ht'⟩ := Plan.run_rtu_error y slave h317 t
        rw [ht']
        exact ⟨fun _ => Or.inl h317, fun _ => trivial⟩

/-- A read of one register. -/
def readOneRegister : Operation := .readRegisterBytes 0 [0, 0]

/-- A connection on which slave 1 answers the first request. -/
def answeredTcp (pdu : List UInt8) : Tcp.Stream := { nextLayer := { incoming := (Tcp.frameHeader 0 1 pdu).bytes ++ pdu } }

/-- A line on which slave 1 answers. -/
def answeredRtu (pdu : List UInt8) : Rtu.Stream := { line := (Rtu.frame 1 pdu).map .byte }

/-- Exception 2 is reported over TCP, and not over RTU. -/
theorem illegalDataAddress_dropped :
    IsException [0x83, 2] 0x83 2 [] ∧
    ¬Agree (readOneRegister.run (Tcp.transport 0) 1 (answeredTcp [0x83, 2])).1
      (readOneRegister.run (Rtu.transport ⟨0, 0, 0, 0⟩) 1 (answeredRtu [0x83, 2])).1 := by
  have hexception : IsException [0x83, 2] 0x83 2 [] := ⟨rfl, by decide, by decide⟩
  have hslave : (1 : UInt8) ≠ 0 := by decide
  have hsends : readOneRegister.Sends 313 := ⟨_, rfl, rfl, rfl, by decide⟩
  obtain ⟨p, hp, h313⟩ := hsends
  have h317 : p.Sends 317 := h313.mono (by decide)
  obtain ⟨s', hs'⟩ := Plan.run_tcp_response 0 hslave h313 (by decide) (s := answeredTcp [0x83, 2]) rfl
  obtain ⟨t', ht'⟩ := Plan.run_rtu_response ⟨0, 0, 0, 0⟩ hslave h317 (by decide) (s := answeredRtu [0x83, 2]) rfl
  refine ⟨hexception, ?_⟩
  rw [run_of_plan _ _ _ hp, run_of_plan _ _ _ hp, hs', ht']
  intro hsame
  exact absurd ((sameResult_exception_iff hp hexception 0 ⟨0, 0, 0, 0⟩).mp hsame).1 (by decide)

theorem transports_agree_iff_oneRegister :
    Agree (readOneRegister.run (Tcp.transport 0) 1 (answeredTcp [3, 2, 0, 7])).1
        (readOneRegister.run (Rtu.transport ⟨0, 0, 0, 0⟩) 1 (answeredRtu [3, 2, 0, 7])).1 ↔
      ¬readOneRegister.Sends 317 ∨ readOneRegister.Sends 313 ∧ (readOneRegister.Accepts [3, 2, 0, 7] ∨
        ∃ fC rest, IsException [3, 2, 0, 7] fC 0x0C rest ∧
          (¬ChecksumMatches 1 [3, 2, 0, 7] fC 0x0C rest ∨ readOneRegister.spanTooLong = true)) := by
  refine transports_agree_iff readOneRegister 1 [3, 2, 0, 7] 0 ⟨0, 0, 0, 0⟩ (answeredTcp [3, 2, 0, 7]) (answeredRtu [3, 2, 0, 7])
    (by decide) (by decide) (Or.inl ?_) rfl rfl
  intro p hp
  obtain rfl := Except.ok.inj hp
  exact ⟨_, rfl, rfl⟩

end Operation

end Mothbus
