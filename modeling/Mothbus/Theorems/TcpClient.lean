import Mothbus.Lemmas.TcpClient

/-!
# What the TCP client accepts

A call of `read_response` succeeds on a frame with the expected header whose body is a response of the expected type, and on one
kind of frame more: an exception whose code is zero, because that code makes an error code that tests as a success. On the frames
of a server the length check of the client is five bytes narrower than the limit the two have in common.
-/

namespace Mothbus.Tcp

open ErrorLike (ok failed)
open ReadProgram Decoder

/-! ## Acceptance -/

/-- Bytes that are enough for the reads of `read_response`: a header, and the rest of its frame if the header is the expected
one. -/
def EnoughFor (l : List UInt8) (expectedTransactionId : UInt16) (expectedSlave : UInt8) : Prop :=
  ∃ (h : MbapHeader) (tail : List UInt8), l = h.bytes ++ tail ∧
    (h.Expected expectedTransactionId expectedSlave → h.length.toNat ≤ tail.length + 1)

/-- What a call is to return for it to be exact: a success if and only if the connection starts with a frame with the expected
header and a response of the expected type. -/
def AcceptsExactly (k : ResponseKind) (indeterminate : UInt8) (expectedTransactionId : UInt16) (expectedSlave : UInt8)
    (out : k.Pdu) (s : Stream) : Prop :=
  ∃ ec r s', Stream.readResponse indeterminate expectedTransactionId expectedSlave out s = (.ok (ec, r), s') ∧
    (failed ec = false ↔ ∃ h body, StartsWithFrame s.nextLayer.incoming h body ∧
      h.Expected expectedTransactionId expectedSlave ∧ IsResponse k out body)

/-- A frame with the expected header is read whole, and what the call returns is the verdict on its body. -/
theorem readResponse_frame {α : Type} [PduRead α] (indeterminate : UInt8) {expectedTransactionId : UInt16}
    {expectedSlave : UInt8} (out : α) (hslave : expectedSlave ≠ 0) {s : Stream} {h : MbapHeader} {body : List UInt8}
    (hf : StartsWithFrame s.nextLayer.incoming h body) (he : h.Expected expectedTransactionId expectedSlave) :
    ∃ s', Stream.readResponse indeterminate expectedTransactionId expectedSlave out s =
      (.ok (Stream.verdict indeterminate out body), s') := by
  obtain ⟨hlen, rest, hin⟩ := hf
  obtain ⟨m, hrun⟩ := Stream.readResponse_accepted indeterminate out hslave hin hlen he
  exact ⟨_, hrun⟩

/-- On a frame with the expected header and a body that is an exception with the code zero, the call succeeds although there is no
response. -/
theorem not_acceptsExactly_of_zeroException {k : ResponseKind} (indeterminate : UInt8) {expectedTransactionId : UInt16}
    {expectedSlave : UInt8} (out : k.Pdu) (hslave : expectedSlave ≠ 0) {s : Stream} {h : MbapHeader} {body : List UInt8}
    (hf : StartsWithFrame s.nextLayer.incoming h body) (he : h.Expected expectedTransactionId expectedSlave)
    (hz : IsZeroException body) : ¬AcceptsExactly k indeterminate expectedTransactionId expectedSlave out s := by
  rintro ⟨ec, r, s', hrun', hiff⟩
  obtain ⟨s'', hrun⟩ := readResponse_frame indeterminate out hslave hf he
  rw [hrun] at hrun'
  have hec : (Stream.verdict indeterminate out body).1 = ec := by
    have h1 := (Prod.mk.inj hrun').1
    rw [Except.ok.inj h1]
  have hok := (failed_verdict_iff indeterminate out body).mpr (Or.inr hz)
  rw [hec] at hok
  obtain ⟨h', body', hf', -, hresp⟩ := hiff.mp hok
  obtain ⟨-, rfl⟩ := hf.unique hf'
  exact hresp.not_zeroException hz

/-- A header that is refused is answered with an error, and the frame is not one to accept. -/
theorem acceptsExactly_of_refused {k : ResponseKind} (indeterminate : UInt8) {expectedTransactionId : UInt16}
    {expectedSlave : UInt8} (out : k.Pdu) (hslave : expectedSlave ≠ 0) {s : Stream} {h : MbapHeader} {tail : List UInt8}
    (hin : s.nextLayer.incoming = h.bytes ++ tail) {c : ModbusExceptionCode}
    (hc : h.refusal expectedTransactionId expectedSlave = some c) :
    AcceptsExactly k indeterminate expectedTransactionId expectedSlave out s := by
  obtain ⟨m, hrun⟩ := Stream.readResponse_refused indeterminate out hslave hin hc
  refine ⟨_, _, _, hrun, ?_⟩
  rw [MbapHeader.refusal_failed hc]
  constructor
  · intro hf
    cases hf
  · rintro ⟨h', body, ⟨-, rest, he⟩, hexp, -⟩
    obtain ⟨rfl, -⟩ := MbapHeader.bytes_append_inj (hin.symm.trans he)
    rw [(h.refusal_eq_none_iff _ _).mpr hexp] at hc
    cases hc

/-- A frame with the expected header is accepted exactly, unless its body is an exception with the code zero. -/
theorem acceptsExactly_of_frame {k : ResponseKind} (indeterminate : UInt8) {expectedTransactionId : UInt16}
    {expectedSlave : UInt8} (out : k.Pdu) (hslave : expectedSlave ≠ 0) {s : Stream} {h : MbapHeader} {body : List UInt8}
    (hframe : StartsWithFrame s.nextLayer.incoming h body) (hexp : h.Expected expectedTransactionId expectedSlave)
    (hzero : ¬IsZeroException body) : AcceptsExactly k indeterminate expectedTransactionId expectedSlave out s := by
  obtain ⟨s', hrun⟩ := readResponse_frame indeterminate out hslave hframe hexp
  refine ⟨(Stream.verdict indeterminate out body).1, (Stream.verdict indeterminate out body).2, s', hrun, ?_⟩
  rw [failed_verdict_iff]
  constructor
  · rintro (hresp | hz)
    · exact ⟨h, body, hframe, hexp, hresp⟩
    · exact absurd hz hzero
  · rintro ⟨h', body', hf', -, hresp⟩
    obtain ⟨-, rfl⟩ := hframe.unique hf'
    exact Or.inl hresp

/-- `read_response` is exact on every connection but those that start with a frame with the expected header whose body is an
exception with the code zero. -/
theorem readResponse_acceptsExactly_iff (k : ResponseKind) (indeterminate : UInt8) (expectedTransactionId : UInt16)
    (expectedSlave : UInt8) (out : k.Pdu) (s : Stream) (hslave : expectedSlave ≠ 0)
    (henough : EnoughFor s.nextLayer.incoming expectedTransactionId expectedSlave) :
    AcceptsExactly k indeterminate expectedTransactionId expectedSlave out s ↔
      ¬∃ h body, StartsWithFrame s.nextLayer.incoming h body ∧ h.Expected expectedTransactionId expectedSlave ∧
        IsZeroException body := by
  constructor
  · rintro hexact ⟨h, body, hf, he, hz⟩
    exact not_acceptsExactly_of_zeroException indeterminate out hslave hf he hz hexact
  intro hzero
  obtain ⟨h, tail, hin, hlong⟩ := henough
  cases hc : h.refusal expectedTransactionId expectedSlave with
  | some c => exact acceptsExactly_of_refused indeterminate out hslave hin hc
  | none =>
    have hexp := (h.refusal_eq_none_iff _ _).mp hc
    have hlen := hlong hexp
    have hmin := hexp.2.2.2.1
    have hframe : StartsWithFrame s.nextLayer.incoming h (tail.take (h.length.toNat - 1)) := by
      refine ⟨by rw [List.length_take]; omega, tail.drop (h.length.toNat - 1), ?_⟩
      rw [List.take_append_drop]
      exact hin
    exact acceptsExactly_of_frame indeterminate out hslave hframe hexp fun hz => hzero ⟨h, _, hframe, hexp, hz⟩

/-- A connection on which the answer to request 1 is an exception with the code zero. -/
def zeroExceptionStream : Stream :=
  { nextLayer := { incoming := ({ transactionId := 1, length := 3, unitId := 1 } : MbapHeader).bytes ++ [0x83, 0x00] } }

/-- It is taken for a response, though it is none. -/
theorem zeroException_notExact :
    EnoughFor zeroExceptionStream.nextLayer.incoming 1 1 ∧
    ¬AcceptsExactly .readHolding 0 1 1 (ReadHoldingPduResp.new (.ofData [0, 0])) zeroExceptionStream := by
  refine ⟨⟨_, [0x83, 0x00], rfl, fun _ => by decide⟩, ?_⟩
  have hframe : StartsWithFrame zeroExceptionStream.nextLayer.incoming { transactionId := 1, length := 3, unitId := 1 }
      [0x83, 0x00] := ⟨rfl, [], rfl⟩
  exact not_acceptsExactly_of_zeroException (k := .readHolding) 0 _ (by decide) hframe
    ⟨rfl, rfl, rfl, by decide, by decide⟩ ⟨0x83, [], by decide, rfl⟩

/-- A connection on which the answer to request 1 is one register. -/
def oneRegisterStream : Stream :=
  { nextLayer := { incoming := ({ transactionId := 1, length := 5, unitId := 1 } : MbapHeader).bytes ++ [0x03, 2, 0, 7] } }

theorem readResponse_acceptsExactly_oneRegister :
    AcceptsExactly .readHolding 0 1 1 (ReadHoldingPduResp.new (.ofData [0, 0])) oneRegisterStream ↔
      ¬∃ h body, StartsWithFrame oneRegisterStream.nextLayer.incoming h body ∧ h.Expected 1 1 ∧ IsZeroException body :=
  readResponse_acceptsExactly_iff .readHolding 0 1 1 (ReadHoldingPduResp.new (.ofData [0, 0])) oneRegisterStream (by decide)
    ⟨{ transactionId := 1, length := 5, unitId := 1 }, [0x03, 2, 0, 7], rfl, fun _ => by decide⟩

/-! ## The longest frames -/

/-- A frame of a server with data, read by a client that expects it into a span as large as the data: the call succeeds and gives
those data. -/
def DeliversData (k : ResponseKind) (indeterminate : UInt8) (transactionId : UInt16) (slave : UInt8) (v out : k.Pdu)
    (server client : Stream) : Prop :=
  ∃ server' frame ec r client',
    Stream.writeResponse transactionId slave v server = (.ok (), server') ∧
    server'.nextLayer.outgoing = server.nextLayer.outgoing ++ frame ∧
    Stream.readResponse indeterminate transactionId slave out { client with nextLayer.incoming := frame } =
      (.ok (ec, r), client') ∧
    failed ec = false ∧ (k.contents r).Same (k.contents v)

/-- The client refuses a frame with more than 246 bytes of data. -/
theorem not_deliversData_of_long {k : ResponseKind} {indeterminate : UInt8} {transactionId : UInt16} {slave : UInt8}
    {v out : k.Pdu} {server client : Stream} {byteCount : UInt8} {values : Span} (hslave : slave ≠ 0)
    (hv : k.contents v = .data byteCount values) (hcount : byteCount.toNat = values.size) (hlong : 246 < values.size) :
    ¬DeliversData k indeterminate transactionId slave v out server client := by
  rintro ⟨server', frame, ec, r, client', hwrite, hframe, hread, hok, -⟩
  have hlen := ResponseKind.length_write_of_data hv
  have hbyte := byteCount.toNat_lt
  obtain ⟨m, hw⟩ := Stream.writeResponse_ok transactionId slave server (k.asserts_eq v) (by omega)
  rw [hw] at hwrite
  obtain rfl := (Prod.mk.inj hwrite).2
  obtain rfl := List.append_cancel_left hframe
  cases hc : (frameHeader transactionId slave (PduWrite.write v)).refusal transactionId slave with
  | none =>
    have hexp := (expected_frameHeader _ _ (by omega)).mp ((MbapHeader.refusal_eq_none_iff _ _ _).mp hc)
    omega
  | some c =>
    obtain ⟨m', hrun⟩ := Stream.readResponse_refused indeterminate out hslave (s := { client with nextLayer.incoming := _ }) rfl hc
    rw [hrun] at hread
    have hec := congrArg Prod.fst (Except.ok.inj (Prod.mk.inj hread).1)
    have hbad := MbapHeader.refusal_failed hc
    rw [show makeErrorCode c = ec from hec, hok] at hbad
    cases hbad

/-- The data of a response arrive at the client exactly when they are at most 246 bytes; a frame with a length that
`is_valid_length` accepts has room for five more. -/
theorem readResponse_deliversData_iff (k : ResponseKind) (indeterminate : UInt8) (transactionId : UInt16) (slave : UInt8)
    (v out : k.Pdu) (server client : Stream) (byteCount n : UInt8) (values space : Span) (hslave : slave ≠ 0)
    (hv : k.contents v = .data byteCount values) (hcount : byteCount.toNat = values.size)
    (hout : k.contents out = .data n space) (hspace : values.size ≤ space.size) :
    DeliversData k indeterminate transactionId slave v out server client ↔ values.size ≤ 246 := by
  constructor
  · intro hd
    by_contra hlong
    exact not_deliversData_of_long hslave hv hcount (by omega) hd
  · intro hshort
    have hlen := ResponseKind.length_write_of_data hv
    have hreadable : k.Readable v := by
      unfold ResponseKind.Readable
      rw [hv]
      exact hcount
    have hfit : (k.contents v).Fits (k.contents out) := by
      rw [hv, hout]
      exact hspace
    obtain ⟨m, hw⟩ := Stream.writeResponse_ok transactionId slave server (k.asserts_eq v) (by omega)
    obtain ⟨m', hr⟩ := Stream.readResponse_answer indeterminate out hslave
      (s := { client with
        nextLayer.incoming := (frameHeader transactionId slave (PduWrite.write v)).bytes ++ PduWrite.write v })
      rfl (by omega)
    obtain ⟨r, hcontents, hd⟩ := decodes_response (makeErrorCode .tooManyBytesReceived) indeterminate hreadable hfit
    have hverdict : Stream.verdict indeterminate out (PduWrite.write v) = (makeErrorCode .success, r) := by
      unfold Stream.verdict
      rw [hd.run_eq]
      rfl
    rw [hverdict] at hr
    exact ⟨_, _, _, r, _, hw, rfl, hr, rfl, by rw [hcontents]; exact k.into_same v out⟩

/-- A response with a number of registers. -/
def zeroRegisters (quantity : Nat) : ReadHoldingPduResp := ReadHoldingPduResp.new (.ofData (List.replicate (2 * quantity) 0))

/-- Its span is as long as its byte count says, modulo 256. -/
theorem contents_zeroRegisters (quantity : Nat) : ResponseKind.contents .readHolding (zeroRegisters quantity) =
    .data (UInt8.ofNat (2 * quantity)) (.ofData (List.replicate (2 * quantity) 0)) := by
  show Contents.data (UInt8.ofNat (List.replicate (2 * quantity) 0).length) _ = _
  rw [List.length_replicate]
  rfl

/-- The frame with 125 registers has a length that `is_valid_length` accepts, and the client refuses it. -/
theorem registers125_refused :
    (frameHeader 0 1 (PduWrite.write (zeroRegisters 125))).isValidLength = true ∧
    ¬DeliversData .readHolding 0 0 1 (zeroRegisters 125) (zeroRegisters 125) {} {} := by
  have hsize : (Span.ofData (List.replicate (2 * 125) 0)).size = 250 := List.length_replicate
  have hlen := ResponseKind.length_write_of_data (k := .readHolding) (contents_zeroRegisters 125)
  refine ⟨?_, not_deliversData_of_long (by decide) (contents_zeroRegisters 125) (by rw [hsize]; rfl) (by rw [hsize]; decide)⟩
  exact (isValidLength_frameHeader _ _ (by omega)).mpr (by omega)

theorem readResponse_deliversData_registers123 :
    DeliversData .readHolding 0 0 1 (zeroRegisters 123) (zeroRegisters 123) {} {} ↔
      (Span.ofData (List.replicate (2 * 123) 0)).size ≤ 246 :=
  readResponse_deliversData_iff .readHolding 0 0 1 (zeroRegisters 123) (zeroRegisters 123) {} {} _ _ _ _ (by decide)
    (contents_zeroRegisters 123) (by rw [Span.size_ofData, List.length_replicate]; rfl) (contents_zeroRegisters 123)
    (Nat.le_refl _)

end Mothbus.Tcp
