import Mothbus.Lemmas.TcpFrame

/-!
# What the TCP client reads

`read_response` waits for a header and, if it refuses the header, stops there; otherwise it waits for the rest of the frame and
decodes it. Each of these ways is one lemma, from a connection on which the header has arrived.
-/

namespace Mothbus.Tcp

open ErrorLike (ok failed)
open ReadProgram Decoder

/-- What `read_response` finds wrong with a header, if anything. -/
def MbapHeader.refusal (h : MbapHeader) (expectedTransactionId : UInt16) (expectedSlave : UInt8) :
    Option ModbusExceptionCode :=
  if h.transactionId ≠ expectedTransactionId then some .transactionIdInvalid
  else if h.protocol ≠ Tcp.protocol then some .illegalProtocol
  else if h.unitId ≠ expectedSlave then some .slaveIdInvalid
  else if h.length.toNat + 6 > 255 ∨ h.length.toNat ≤ 1 then some .invalidResponse
  else none

/-- The header of a response to the request: its transaction id, unit id and protocol, and a length that passes the check of
`read_response`. -/
def MbapHeader.Expected (h : MbapHeader) (expectedTransactionId : UInt16) (expectedSlave : UInt8) : Prop :=
  h.transactionId = expectedTransactionId ∧ h.protocol = 0 ∧ h.unitId = expectedSlave ∧
    2 ≤ h.length.toNat ∧ h.length.toNat + 6 ≤ 255

/-- The headers that are not refused are those that are expected. -/
theorem MbapHeader.refusal_eq_none_iff (h : MbapHeader) (expectedTransactionId : UInt16) (expectedSlave : UInt8) :
    h.refusal expectedTransactionId expectedSlave = none ↔ h.Expected expectedTransactionId expectedSlave := by
  unfold MbapHeader.refusal MbapHeader.Expected
  have hp : Tcp.protocol = 0 := rfl
  rw [hp]
  by_cases h1 : h.transactionId = expectedTransactionId
  · by_cases h2 : h.protocol = 0
    · by_cases h3 : h.unitId = expectedSlave
      · by_cases h4 : h.length.toNat + 6 > 255 ∨ h.length.toNat ≤ 1
        · simp only [h1, h2, h3, h4, ne_eq, not_true_eq_false, if_false, if_true, reduceCtorEq, true_and, false_iff]
          omega
        · simp only [h1, h2, h3, h4, ne_eq, not_true_eq_false, if_false, true_and, true_iff]
          omega
      · simp only [h1, h2, h3, ne_eq, not_true_eq_false, not_false_eq_true, if_false, if_true, reduceCtorEq, true_and, false_and]
    · simp only [h1, h2, ne_eq, not_true_eq_false, not_false_eq_true, if_false, if_true, reduceCtorEq, true_and, false_and]
  · simp only [h1, ne_eq, not_false_eq_true, if_true, reduceCtorEq, false_and]

/-- The header of a frame is the one its receiver expects exactly when its length passes the receiver's check. -/
theorem expected_frameHeader (transactionId : UInt16) (slave : UInt8) {pdu : List UInt8} (h : pdu.length < 65535) :
    (frameHeader transactionId slave pdu).Expected transactionId slave ↔ 1 ≤ pdu.length ∧ pdu.length ≤ 248 := by
  unfold MbapHeader.Expected
  rw [frameHeader_length _ _ h]
  constructor
  · rintro ⟨-, -, -, h1, h2⟩
    omega
  · rintro ⟨h1, h2⟩
    exact ⟨rfl, rfl, rfl, by omega, by omega⟩

/-- The header that some bytes start with is determined by them. -/
theorem MbapHeader.bytes_append_inj {h h' : MbapHeader} {tail tail' : List UInt8} (he : h.bytes ++ tail = h'.bytes ++ tail') :
    h = h' ∧ tail = tail' := by
  have hd : Decodes endOfFile Stream.readMbap {} h.bytes h := decodes_mbap {} h
  obtain ⟨hb, hr⟩ := hd.unique (decodes_mbap {} h') he
  rw [hb] at he
  exact ⟨(Prod.mk.inj hr).2, List.append_cancel_left he⟩

/-- The exception codes a header is refused with are errors. -/
theorem MbapHeader.refusal_failed {h : MbapHeader} {expectedTransactionId : UInt16} {expectedSlave : UInt8}
    {c : ModbusExceptionCode} (hc : h.refusal expectedTransactionId expectedSlave = some c) :
    failed (makeErrorCode c) = true := by
  unfold MbapHeader.refusal at hc
  split at hc
  · cases hc
    decide
  · split at hc
    · cases hc
      decide
    · split at hc
      · cases hc
        decide
      · split at hc
        · cases hc
          decide
        · cases hc

namespace Stream

variable {α : Type} [PduRead α]

/-- What `read_response` returns for the body of a frame whose header it let through. -/
def verdict (indeterminate : UInt8) (out : α) (body : List UInt8) : ErrorCode × α :=
  let r := ((readPduResp indeterminate out).run Buffer.input body).1
  if failed r.1 then r else (makeErrorCode .success, r.2)

/-- The verdict fails exactly when the response decoder does. -/
theorem failed_verdict (indeterminate : UInt8) (out : α) (body : List UInt8) :
    failed (verdict indeterminate out body).1 = failed ((readPduResp indeterminate out).run Buffer.input body).1.1 := by
  unfold verdict
  cases h : failed ((readPduResp indeterminate out).run Buffer.input body).1.1 with
  | true => simp only [h, if_true]
  | false =>
    simp only [h, Bool.false_eq_true, if_false]
    rfl

/-- Reading a response does not touch the transaction counter. -/
theorem readResponse_keeps (indeterminate : UInt8) (expectedTransactionId : UInt16) (expectedSlave : UInt8) (out : α) :
    (readResponse indeterminate expectedTransactionId expectedSlave out).Keeps (·.transactionId) := by
  unfold readResponse
  refine .ite (.pure _) (.bind .state fun s => .bind (receive_keeps _ _) fun r => ?_)
  refine .ite (.pure _) (.ite (.pure _) (.ite (.pure _) (.ite (.pure _) (.ite (.pure _) ?_))))
  exact .bind (receive_keeps _ _) fun r => .ite (.pure _) (.pure _)

/-- What `read_response` does once it has received the bytes of a header. -/
def afterHeader (indeterminate : UInt8) (expectedTransactionId : UInt16) (expectedSlave : UInt8) (out : α) (h : MbapHeader)
    (source : Buffer 320) : Exec Fault Stream (ErrorCode × α) :=
  match h.refusal expectedTransactionId expectedSlave with
  | some c => return (makeErrorCode c, out)
  | none => do
    let (readSize, source) ← receive source (h.length.toNat - 1)
    let r := ((readPduResp indeterminate out).run Buffer.source (source.commit readSize)).1
    if failed r.1 then return r
    return (makeErrorCode .success, r.2)

/-- On a connection that starts with a header, `read_response` reads the header and goes on from there. -/
theorem readResponse_header (indeterminate : UInt8) (expectedTransactionId : UInt16) {expectedSlave : UInt8} (out : α)
    (hslave : expectedSlave ≠ 0) {s : Stream} {h : MbapHeader} {tail : List UInt8}
    (hin : s.nextLayer.incoming = h.bytes ++ tail) :
    ∃ m source, source.Receiving ∧ source.inputEnd = MbapHeader.headerSize ∧ source.data = [] ∧
      readResponse indeterminate expectedTransactionId expectedSlave out s =
        afterHeader indeterminate expectedTransactionId expectedSlave out h source
          { s with messageBuffer := m, nextLayer.incoming := tail } := by
  have htake : s.nextLayer.incoming.take MbapHeader.headerSize = h.bytes := by
    rw [hin]
    exact List.take_left' h.length_bytes
  have hdrop : s.nextLayer.incoming.drop MbapHeader.headerSize = tail := by
    rw [hin]
    exact List.drop_left' h.length_bytes
  obtain ⟨m, hrecv, hr, hd⟩ := receive_ok (Buffer.receiving_empty s.messageBuffer) s MbapHeader.headerSize
    (by rw [hin, List.length_append, h.length_bytes]; omega) (by show 7 ≤ 320; decide)
  rw [hdrop] at hrecv
  rw [htake, Buffer.data_empty, List.nil_append] at hd
  have hmbap : (readMbap {}).run Buffer.source
      (({ messageBuffer := m } : Buffer 320).commit MbapHeader.headerSize) =
      ((ok, h), (({ messageBuffer := m } : Buffer 320).commit MbapHeader.headerSize).leaving []) := by
    have hrun : (readMbap {}).run Buffer.input h.bytes = ((ok, h), []) := (decodes_mbap {} h).run_eq
    rw [Buffer.run_source _ hr.wellFormed, hd, hrun]
  refine ⟨m, _, hr.leaving [], rfl, Buffer.data_leaving hr.wellFormed (hd.trans (List.append_nil h.bytes).symm), ?_⟩
  unfold readResponse afterHeader MbapHeader.refusal
  rw [if_neg hslave, Exec.bind_state, Exec.bind_ok hrecv]
  simp only [hmbap, ErrorLike.failed_ok, Bool.false_eq_true, if_false]
  by_cases h1 : h.transactionId ≠ expectedTransactionId
  · rw [if_pos h1, if_pos h1]
  by_cases h2 : h.protocol ≠ protocol
  · rw [if_neg h1, if_neg h1, if_pos h2, if_pos h2]
  by_cases h3 : h.unitId ≠ expectedSlave
  · rw [if_neg h1, if_neg h1, if_neg h2, if_neg h2, if_pos h3, if_pos h3]
  by_cases h4 : h.length.toNat + 6 > 255 ∨ h.length.toNat ≤ 1
  · rw [if_neg h1, if_neg h1, if_neg h2, if_neg h2, if_neg h3, if_neg h3, if_pos h4, if_pos h4]
  · rw [if_neg h1, if_neg h1, if_neg h2, if_neg h2, if_neg h3, if_neg h3, if_neg h4, if_neg h4]

/-- A header that is refused ends the call with the body of its frame not read. -/
theorem readResponse_refused (indeterminate : UInt8) {expectedTransactionId : UInt16} {expectedSlave : UInt8} (out : α)
    (hslave : expectedSlave ≠ 0) {s : Stream} {h : MbapHeader} {tail : List UInt8}
    (hin : s.nextLayer.incoming = h.bytes ++ tail) {c : ModbusExceptionCode}
    (hc : h.refusal expectedTransactionId expectedSlave = some c) :
    ∃ m, readResponse indeterminate expectedTransactionId expectedSlave out s =
      (.ok (makeErrorCode c, out), { s with messageBuffer := m, nextLayer.incoming := tail }) := by
  obtain ⟨m, source, -, -, -, hrun⟩ := readResponse_header indeterminate expectedTransactionId out hslave hin
  refine ⟨m, ?_⟩
  rw [hrun]
  unfold afterHeader
  rw [hc]
  rfl

/-- A frame whose header is let through is read whole, and the call ends with the verdict on its body. -/
theorem readResponse_accepted (indeterminate : UInt8) {expectedTransactionId : UInt16} {expectedSlave : UInt8} (out : α)
    (hslave : expectedSlave ≠ 0) {s : Stream} {h : MbapHeader} {body rest : List UInt8}
    (hin : s.nextLayer.incoming = h.bytes ++ (body ++ rest)) (hlen : h.length.toNat = body.length + 1)
    (he : h.Expected expectedTransactionId expectedSlave) :
    ∃ m, readResponse indeterminate expectedTransactionId expectedSlave out s =
      (.ok (verdict indeterminate out body), { s with messageBuffer := m, nextLayer.incoming := rest }) := by
  obtain ⟨m, source, hr, hend, hdata, hrun⟩ := readResponse_header indeterminate expectedTransactionId out hslave hin
  have hc := (h.refusal_eq_none_iff _ _).mpr he
  have hbound := he.2.2.2.2
  have hsize : h.length.toNat - 1 = body.length := by omega
  obtain ⟨m', hrecv, hr', hd'⟩ := receive_ok hr { s with messageBuffer := m, nextLayer.incoming := body ++ rest }
    body.length (by rw [List.length_append]; omega) (by rw [hend]; show 7 + body.length ≤ 320; omega)
  rw [hdata, List.nil_append, List.take_left' rfl] at hd'
  rw [List.drop_left' rfl] at hrecv
  refine ⟨m', ?_⟩
  rw [hrun]
  unfold afterHeader verdict
  rw [hc, hsize]
  show (receive source body.length >>= _) _ = _
  rw [Exec.bind_ok hrecv]
  simp only [Buffer.run_source _ hr'.wellFormed, hd']
  by_cases hf : failed ((readPduResp indeterminate out).run Buffer.input body).1.1 = true
  · rw [if_pos hf, if_pos hf]
    rfl
  · rw [if_neg hf, if_neg hf]
    rfl

/-- The frame of an answer to the request is read whole, if its PDU is at most 248 bytes. -/
theorem readResponse_answer (indeterminate : UInt8) {transactionId : UInt16} {slave : UInt8} (out : α) (hslave : slave ≠ 0)
    {s : Stream} {pdu : List UInt8} (hin : s.nextLayer.incoming = (frameHeader transactionId slave pdu).bytes ++ pdu)
    (hlen : 1 ≤ pdu.length ∧ pdu.length ≤ 248) :
    ∃ m, readResponse indeterminate transactionId slave out s =
      (.ok (verdict indeterminate out pdu), { s with messageBuffer := m, nextLayer.incoming := [] }) := by
  have hshort : pdu.length < 65535 := by omega
  have hin' : s.nextLayer.incoming = (frameHeader transactionId slave pdu).bytes ++ (pdu ++ []) := by
    rw [List.append_nil, hin]
  exact readResponse_accepted indeterminate out hslave hin' (frameHeader_length _ _ hshort)
    ((expected_frameHeader _ _ hshort).mpr hlen)

/-- The connection ends within a frame whose header is let through: the call ends with an exception. -/
theorem readResponse_short (indeterminate : UInt8) {expectedTransactionId : UInt16} {expectedSlave : UInt8} (out : α)
    (hslave : expectedSlave ≠ 0) {s : Stream} {h : MbapHeader} {tail : List UInt8}
    (hin : s.nextLayer.incoming = h.bytes ++ tail) (hlen : tail.length + 1 < h.length.toNat)
    (he : h.Expected expectedTransactionId expectedSlave) :
    ∃ m, readResponse indeterminate expectedTransactionId expectedSlave out s =
      (.error (.systemError endOfFile), { s with messageBuffer := m, nextLayer.incoming := [] }) := by
  obtain ⟨m, source, hr, hend, hdata, hrun⟩ := readResponse_header indeterminate expectedTransactionId out hslave hin
  have hc := (h.refusal_eq_none_iff _ _).mpr he
  have hbound := he.2.2.2.2
  obtain ⟨m', hrecv⟩ := receive_short hr { s with messageBuffer := m, nextLayer.incoming := tail }
    (h.length.toNat - 1) (by show tail.length < h.length.toNat - 1; omega)
    (by rw [hend]; show 7 + (h.length.toNat - 1) ≤ 320; omega)
  refine ⟨m', ?_⟩
  rw [hrun]
  unfold afterHeader
  rw [hc]
  exact Exec.bind_error hrecv

/-- The connection ends within the header: the call ends with an exception. -/
theorem readResponse_noHeader (indeterminate : UInt8) (expectedTransactionId : UInt16) {expectedSlave : UInt8} (out : α)
    (hslave : expectedSlave ≠ 0) {s : Stream} (hshort : s.nextLayer.incoming.length < MbapHeader.headerSize) :
    ∃ m, readResponse indeterminate expectedTransactionId expectedSlave out s =
      (.error (.systemError endOfFile), { s with messageBuffer := m, nextLayer.incoming := [] }) := by
  have hroom : 0 + MbapHeader.headerSize ≤ 320 := by decide
  obtain ⟨m, hrecv⟩ := receive_short (Buffer.receiving_empty s.messageBuffer) s MbapHeader.headerSize hshort hroom
  refine ⟨m, ?_⟩
  unfold readResponse
  rw [if_neg hslave, Exec.bind_state]
  exact Exec.bind_error hrecv

end Stream

/-! ## Bodies and frames -/

/-- Bytes that start with a whole frame: its header, and as many bytes of body as the header announces. -/
def StartsWithFrame (l : List UInt8) (h : MbapHeader) (body : List UInt8) : Prop :=
  h.length.toNat = body.length + 1 ∧ ∃ rest, l = h.bytes ++ (body ++ rest)

/-- A body that starts with a response of the type, as its writer puts it, that the object `out` has room for. -/
def IsResponse (k : ResponseKind) (out : k.Pdu) (body : List UInt8) : Prop :=
  ∃ (v : k.Pdu) (rest : List UInt8), k.Readable v ∧ (k.contents v).Fits (k.contents out) ∧ body = PduWrite.write v ++ rest

/-- A body that is an exception with the code zero. -/
def IsZeroException (body : List UInt8) : Prop := ∃ (fC : UInt8) (rest : List UInt8), fC &&& 0x80 ≠ 0 ∧ body = fC :: 0 :: rest

/-- The frame that some bytes start with is determined by them. -/
theorem StartsWithFrame.unique {l : List UInt8} {h h' : MbapHeader} {body body' : List UInt8} (hf : StartsWithFrame l h body)
    (hf' : StartsWithFrame l h' body') : h = h' ∧ body = body' := by
  obtain ⟨hlen, rest, rfl⟩ := hf
  obtain ⟨hlen', rest', he⟩ := hf'
  obtain ⟨rfl, hb⟩ := MbapHeader.bytes_append_inj he
  exact ⟨rfl, (List.append_inj hb (by omega)).1⟩

/-- No body with the function code of a response is an exception. -/
theorem not_zeroException_cons (k : ResponseKind) (l : List UInt8) : ¬IsZeroException ((PduRead.fc k.Pdu).value :: l) := by
  rintro ⟨fC, rest, hbit, he⟩
  rw [← (List.cons.inj he).1, k.fc_value] at hbit
  exact hbit rfl

/-- A response of the expected function is no exception. -/
theorem IsResponse.not_zeroException {k : ResponseKind} {out : k.Pdu} {body : List UInt8} (h : IsResponse k out body) :
    ¬IsZeroException body := by
  obtain ⟨v, rest, -, -, rfl⟩ := h
  rw [k.write_eq]
  exact not_zeroException_cons k _

/-- What can be on a connection when a response is expected: less than a header; a header that is refused; a header that is let
through, with less than the rest of its frame or with all of it. -/
theorem incoming_cases (expectedTransactionId : UInt16) (expectedSlave : UInt8) (l : List UInt8) :
    l.length < MbapHeader.headerSize ∨
    (∃ (h : MbapHeader) (tail : List UInt8) (c : ModbusExceptionCode), l = h.bytes ++ tail ∧
      h.refusal expectedTransactionId expectedSlave = some c) ∨
    (∃ (h : MbapHeader) (tail : List UInt8), l = h.bytes ++ tail ∧ h.Expected expectedTransactionId expectedSlave ∧
      tail.length + 1 < h.length.toNat) ∨
    ∃ (h : MbapHeader) (body rest : List UInt8), l = h.bytes ++ (body ++ rest) ∧
      h.Expected expectedTransactionId expectedSlave ∧ h.length.toNat = body.length + 1 := by
  by_cases hshort : l.length < MbapHeader.headerSize
  · exact Or.inl hshort
  obtain ⟨h, tail, rfl⟩ := MbapHeader.exists_bytes (Nat.not_lt.mp hshort)
  rcases hc : h.refusal expectedTransactionId expectedSlave with _ | c
  · have hexp := (h.refusal_eq_none_iff _ _).mp hc
    have hmin := hexp.2.2.2.1
    by_cases hlong : tail.length + 1 < h.length.toNat
    · exact Or.inr (Or.inr (Or.inl ⟨h, tail, rfl, hexp, hlong⟩))
    · have hlen : h.length.toNat = (tail.take (h.length.toNat - 1)).length + 1 := by
        rw [List.length_take]
        omega
      refine Or.inr (Or.inr (Or.inr ⟨h, tail.take (h.length.toNat - 1), tail.drop (h.length.toNat - 1), ?_, hexp, hlen⟩))
      rw [List.take_append_drop]
  · exact Or.inr (Or.inl ⟨h, tail, c, rfl, hc⟩)

/-- A call ends with an exception of the connection, or it refuses a header, or it reads a frame with the expected header and ends
with the verdict on its body. -/
theorem readResponse_cases {α : Type} [PduRead α] (indeterminate : UInt8) (expectedTransactionId : UInt16) {expectedSlave : UInt8}
    (out : α) (hslave : expectedSlave ≠ 0) (s : Stream) :
    (∃ s', Stream.readResponse indeterminate expectedTransactionId expectedSlave out s = (.error (.systemError endOfFile), s')) ∨
    (∃ c s', failed (makeErrorCode c) = true ∧
      Stream.readResponse indeterminate expectedTransactionId expectedSlave out s = (.ok (makeErrorCode c, out), s')) ∨
    ∃ (h : MbapHeader) (body rest : List UInt8) (m : Vector UInt8 320), h.length.toNat = body.length + 1 ∧
      s.nextLayer.incoming = h.bytes ++ (body ++ rest) ∧
      h.Expected expectedTransactionId expectedSlave ∧
      Stream.readResponse indeterminate expectedTransactionId expectedSlave out s =
        (.ok (Stream.verdict indeterminate out body), { s with messageBuffer := m, nextLayer.incoming := rest }) := by
  rcases incoming_cases expectedTransactionId expectedSlave s.nextLayer.incoming with
    hshort | ⟨h, tail, c, hin, hc⟩ | ⟨h, tail, hin, hexp, hlong⟩ | ⟨h, body, rest, hin, hexp, hlen⟩
  · obtain ⟨m, hrun⟩ := Stream.readResponse_noHeader indeterminate expectedTransactionId out hslave hshort
    exact Or.inl ⟨_, hrun⟩
  · obtain ⟨m, hrun⟩ := Stream.readResponse_refused indeterminate out hslave hin hc
    exact Or.inr (Or.inl ⟨c, _, MbapHeader.refusal_failed hc, hrun⟩)
  · obtain ⟨m, hrun⟩ := Stream.readResponse_short indeterminate out hslave hin hlong hexp
    exact Or.inl ⟨_, hrun⟩
  · obtain ⟨m, hrun⟩ := Stream.readResponse_accepted indeterminate out hslave hin hlen hexp
    exact Or.inr (Or.inr ⟨h, body, rest, m, hlen, hin, hexp, hrun⟩)

/-- No call stores outside the array. -/
theorem readResponse_inArray {α : Type} [PduRead α] (indeterminate : UInt8) (expectedTransactionId : UInt16) (expectedSlave : UInt8)
    (out : α) (s : Stream) (i : Nat) :
    (Stream.readResponse indeterminate expectedTransactionId expectedSlave out s).1 ≠ .error (.outOfBounds i) := by
  by_cases hslave : expectedSlave = 0
  · unfold Stream.readResponse
    rw [if_pos hslave]
    rintro ⟨⟩
  · rcases readResponse_cases indeterminate expectedTransactionId out hslave s with
      ⟨s', h⟩ | ⟨c, s', -, h⟩ | ⟨_, _, _, _, -, -, -, h⟩
    · rw [h]
      rintro ⟨⟩
    · rw [h]
      rintro ⟨⟩
    · rw [h]
      rintro ⟨⟩

/-- An exception with the code zero is a success that leaves the caller's object as it was. -/
theorem verdict_zeroException {α : Type} [PduRead α] (indeterminate : UInt8) (out : α) {body : List UInt8}
    (h : IsZeroException body) : Stream.verdict indeterminate out body = (makeErrorCode .success, out) := by
  obtain ⟨fC, rest, hbit, rfl⟩ := h
  have hx := consumes_exception (makeErrorCode .tooManyBytesReceived) indeterminate out hbit 0 rest
  rw [List.cons_append, List.cons_append, List.nil_append] at hx
  unfold Stream.verdict
  rw [hx]
  rfl

/-- A response of the expected type is a success that leaves it in the caller's object. -/
theorem verdict_response (indeterminate : UInt8) {k : ResponseKind} {out v : k.Pdu} (hv : k.Readable v)
    (hfit : (k.contents v).Fits (k.contents out)) (rest : List UInt8) :
    ∃ r, k.contents r = (k.contents v).into (k.contents out) ∧
      Stream.verdict indeterminate out (PduWrite.write v ++ rest) = (makeErrorCode .success, r) := by
  obtain ⟨r, hr, hd⟩ := decodes_response (makeErrorCode .tooManyBytesReceived) indeterminate hv hfit
  refine ⟨r, hr, ?_⟩
  unfold Stream.verdict
  rw [hd rest]
  rfl

/-- A success is one of the two. -/
theorem verdict_cases (indeterminate : UInt8) {k : ResponseKind} {out : k.Pdu} {body : List UInt8}
    (hok : failed (Stream.verdict indeterminate out body).1 = false) :
    IsZeroException body ∨ ∃ r rest, k.Readable r ∧ (k.contents r).Fits (k.contents out) ∧
      k.contents r = (k.contents r).into (k.contents out) ∧ body = PduWrite.write r ++ rest ∧
      Stream.verdict indeterminate out body = (makeErrorCode .success, r) := by
  rw [Stream.failed_verdict] at hok
  rcases response_inv Buffer.input_eof_failed hok with hz | ⟨r, rest, hr, hfit, hinto, hl, hres⟩
  · exact Or.inl hz
  · refine Or.inr ⟨r, rest, hr, hfit, hinto, hl, ?_⟩
    unfold Stream.verdict
    simp only [hok, hres, Bool.false_eq_true, if_false]

/-- The response decoder accepts the responses of the expected type, and the exceptions with the code zero. -/
theorem failed_verdict_iff (indeterminate : UInt8) {k : ResponseKind} (out : k.Pdu) (body : List UInt8) :
    failed (Stream.verdict indeterminate out body).1 = false ↔ IsResponse k out body ∨ IsZeroException body := by
  constructor
  · intro hok
    rcases verdict_cases indeterminate hok with hz | ⟨r, rest, hr, hfit, -, hl, -⟩
    · exact Or.inr hz
    · exact Or.inl ⟨r, rest, hr, hfit, hl⟩
  · rintro (⟨v, rest, hv, hfit, rfl⟩ | hz)
    · obtain ⟨r, -, hverdict⟩ := verdict_response indeterminate hv hfit rest
      rw [hverdict]
      rfl
    · rw [verdict_zeroException indeterminate out hz]
      rfl

end Mothbus.Tcp
