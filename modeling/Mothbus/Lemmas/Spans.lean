import Mothbus.Lemmas.Calls
import Mothbus.Lemmas.EndOfInput
import Mothbus.Library.Overwrite

/-!
# What a response leaves in the span of the caller

Whether a decoder succeeds or not, what it leaves in the memory of a span is a run of the bytes it was given, from the start of the span
on, and behind it the memory as it was. From there the same of the clients and of the operations.
-/

namespace Mothbus

open ErrorLike (ok failed)
open ReadProgram Decoder

/-! ## Decoders -/

/-- Reading bytes one by one leaves those that were there, and then the old ones. -/
theorem run_readBytes (v l : List UInt8) :
    ((readByte.each v).run Buffer.input l).1.2 = l.take v.length ++ v.drop l.length := by
  induction v generalizing l with
  | nil => simp [each]
  | cons a v ih =>
    cases l with
    | nil => rfl
    | cons b l =>
      have hbyte : (readByte a).run Buffer.input (b :: l) = ((ok, b), l) := rfl
      rw [List.length_cons, List.length_cons, List.take_succ_cons, List.drop_succ_cons, List.cons_append, ← ih]
      simp only [each, run_bind, hbyte, ErrorLike.failed_ok, Bool.false_eq_true, if_false, run_pure]

/-- The reader of a span stores bytes that it has got over the start of it. -/
theorem readSpan_overwrites (v : Span) (l : List UInt8) : Overwritten l v.data ((readSpan v).run Buffer.input l).1.2.data := by
  have hsize := v.size_le
  have hbytes := run_readBytes v.bytes l
  rw [Span.length_bytes] at hbytes
  have hrun : ((readSpan v).run Buffer.input l).1.2 = v.store (l.take v.size ++ v.bytes.drop l.length) := by
    rw [← hbytes]
    simp only [readSpan, focus, run_bind, run_pure]
  refine ⟨l.take v.size, (List.take_prefix _ _).isInfix, by rw [List.length_take]; omega, ?_⟩
  rw [hrun]
  show (l.take v.size ++ v.bytes.drop l.length) ++ v.data.drop _ = _
  rw [List.append_assoc, List.length_append, List.length_take, List.length_drop, Span.length_bytes]
  congr 1
  by_cases hshort : l.length ≤ v.size
  · have hall := List.take_append_drop v.size v.data
    rw [Nat.min_eq_right hshort, Nat.add_sub_cancel' hshort, Span.bytes]
    conv_rhs => rw [← hall, List.drop_append_of_le_length (by rw [List.length_take]; omega)]
  · rw [Span.bytes, List.drop_of_length_le (by rw [List.length_take]; omega), List.nil_append]
    congr 1
    omega

/-- So does the reader of counted data, or it leaves the span as it was. -/
theorem readByteCounted_overwrites (p : UInt8 × Span) (l : List UInt8) :
    Overwritten l p.2.data ((readByteCounted p).run Buffer.input l).1.2.2.data := by
  cases l with
  | nil => exact .refl _ _
  | cons n l =>
    have hget : Buffer.input.get p.1 (n :: l) = (ok, n, l) := rfl
    have hrest : l <:+: n :: l := (List.suffix_cons n l).isInfix
    rw [run_readByteCounted p hget]
    by_cases hfit : n.toNat ≤ p.2.size
    · rw [dif_pos hfit]
      exact (readSpan_overwrites (p.2.first n.toNat hfit) l).mono hrest
    · rw [dif_neg hfit]
      exact .refl _ _

/-- The memory of the span of a response object, if it has one, with received bytes stored over its start. -/
def ResponseKind.OverwrittenBy (k : ResponseKind) (source : List UInt8) (out r : k.Pdu) : Prop :=
  ∀ n v, k.contents out = .data n v → ∃ n' v', k.contents r = .data n' v' ∧ Overwritten source v.data v'.data

namespace ResponseKind.OverwrittenBy

variable {k : ResponseKind} {source source' : List UInt8} {out r : k.Pdu}

theorem refl (source : List UInt8) (out : k.Pdu) : k.OverwrittenBy source out out := fun n v h => ⟨n, v, h, .refl _ _⟩

theorem mono (h : k.OverwrittenBy source out r) (hs : source <:+: source') : k.OverwrittenBy source' out r := fun n v hout => by
  obtain ⟨n', v', hr, hdata⟩ := h n v hout
  exact ⟨n', v', hr, hdata.mono hs⟩

end ResponseKind.OverwrittenBy

/-- So does the reader of every kind of response, whatever it ends with. -/
theorem ResponseKind.read_overwrites (k : ResponseKind) (out : k.Pdu) (l : List UInt8) :
    k.OverwrittenBy l out ((PduRead.read out).run Buffer.input l).1.2 := by
  intro n v hout
  cases k
  case readCoils | readDiscreteInputs | readHolding | readInput | readWriteMultipleRegisters =>
    obtain ⟨rfl, rfl⟩ := Contents.data.inj hout
    have hspan := readByteCounted_overwrites (out.byteCount, out.values) l
    refine ⟨_, _, rfl, ?_⟩
    simp only [PduRead.read, through, focus, run_bind, run_pure]
    exact hspan
  all_goals cases hout

/-- The response decoder, whatever it ends with. -/
theorem readPduResp_overwrites (k : ResponseKind) (x : UInt8) (out : k.Pdu) (l : List UInt8) :
    k.OverwrittenBy l out ((readPduResp x out).run Buffer.input l).1.2 := by
  cases l with
  | nil =>
    have hnil := readPduResp_nil Buffer.input_eof_failed x out
    rw [Buffer.input, hnil]
    exact .refl _ _
  | cons fC l =>
    have hget : Buffer.input.get x (fC :: l) = (ok, fC, l) := rfl
    rw [ResponseKind.run_readPduResp x out hget]
    split
    · exact .refl _ _
    · split
      · exact .refl _ _
      · exact (k.read_overwrites out l).mono (List.suffix_cons fC l).isInfix

/-! ## Operations -/

/-- What an operation leaves in the span of its caller: bytes of the source over its start; and of registers what was there, or what is
made of a buffer of zeros that is overwritten so. -/
def Output.WrittenFrom (source : List UInt8) : Output → Output → Prop
  | .none, .none => True
  | .bytes before, .bytes after => Overwritten source before after
  | .registers before, .registers after => after = before ∨
      ∃ buffer, Overwritten source (List.replicate (before.length * 2) 0) buffer ∧ after = Master.makeRegisters buffer before.length
  | _, _ => False

/-- As many registers are made as are asked for. -/
theorem length_makeRegisters (data : List UInt8) (n : Nat) : (Master.makeRegisters data n).length = n := by
  rw [Master.makeRegisters, List.length_map, List.length_range]

namespace Plan

variable {p : Plan} {source : List UInt8} {r : p.expected.Pdu}

/-- The end of an operation passes on what is in the span of the response object, or leaves the registers of the caller. -/
theorem finish_writtenFrom {op : Operation} (hp : op.plan = .ok p) (ec : ErrorCode)
    (h : p.expected.OverwrittenBy source p.response r) : op.output.WrittenFrom source (p.finish ec r).2 := by
  have hmade := (Operation.madeFor hp).2
  cases op with
  | readCoils _ _ out | readDiscreteInputs _ _ out | readRegisterBytes _ out | readInputRegisterBytes _ out =>
    obtain ⟨n, values, hr, hdata⟩ := h _ _ hmade.response
    rw [hmade.finish_eq ec r n values hr, finishBytes, checkByteCount_snd]
    exact hdata
  | readRegisters _ out | readInputRegisters _ out =>
    obtain ⟨n, values, hr, hdata⟩ := h _ _ hmade.response
    rw [hmade.finish_eq ec r n values hr, finishRegisters, checkByteCount_snd]
    split
    · exact Or.inl rfl
    · exact Or.inr ⟨values.data, hdata, rfl⟩
  | readWriteMultipleRegisters _ readValues _ _ =>
    obtain ⟨n, values, hr, hdata⟩ := h _ _ hmade.response
    rw [hmade.finish_eq ec r n values hr, finishReadWrite]
    split
    · exact Or.inl rfl
    · exact Or.inr ⟨values.data, hdata, rfl⟩
  | writeSingleCoil _ _ | writeSingleRegister _ _ | writeMultipleCoils _ _ | writeMultipleRegisters _ _ =>
    rw [hmade.finish_eq ec r]
    trivial

end Plan

/-- The verdict of the TCP client leaves the response object as the decoder does. -/
theorem Tcp.Stream.verdict_overwrites (k : ResponseKind) (x : UInt8) (out : k.Pdu) (body : List UInt8) :
    k.OverwrittenBy body out (verdict x out body).2 := by
  have hdecoder := readPduResp_overwrites k x out body
  unfold verdict
  dsimp only
  split
  · exact hdecoder
  · exact hdecoder

/-- So does the verdict of the RTU client. -/
theorem Rtu.Stream.verdict_overwrites (k : ResponseKind) (y : Indeterminate) (slave : UInt8) (out : k.Pdu) (body : List UInt8) :
    k.OverwrittenBy body out (verdict y slave out body).2 := by
  have hdecoder := readPduResp_overwrites k y.functionCode out body
  unfold verdict
  dsimp only
  split
  · exact hdecoder
  · exact hdecoder

/-- Whatever is on the connection, a call of the TCP client that returns has stored bytes of it over the start of the span. -/
theorem Tcp.readResponse_overwrites {k : ResponseKind} (x : UInt8) (transactionId : UInt16) (slave : UInt8) (out : k.Pdu)
    {s s' : Stream} {ec : ErrorCode} {r : k.Pdu} (h : Stream.readResponse x transactionId slave out s = (.ok (ec, r), s')) :
    k.OverwrittenBy s.nextLayer.incoming out r := by
  by_cases hslave : slave = 0
  · have hbroadcast : Stream.readResponse x transactionId slave out s = (.ok (makeErrorCode .success, out), s) := by
      unfold Stream.readResponse
      rw [if_pos hslave]
      rfl
    rw [hbroadcast] at h
    obtain rfl := (Prod.mk.inj (Exec.ok_inj h).1).2
    exact .refl _ _
  · rcases readResponse_cases x transactionId out hslave s with ⟨s₁, hrun⟩ | ⟨c, s₁, -, hrun⟩ | ⟨hdr, body, rest, m, -, hin, -, hrun⟩
    · rw [hrun] at h
      nomatch h
    · rw [hrun] at h
      obtain rfl := (Prod.mk.inj (Exec.ok_inj h).1).2
      exact .refl _ _
    · rw [hrun] at h
      have hverdict : Stream.verdict x out body = (ec, r) := (Exec.ok_inj h).1
      have hbody := Stream.verdict_overwrites k x out body
      rw [hverdict] at hbody
      exact hbody.mono ⟨hdr.bytes, rest, by rw [hin, List.append_assoc]⟩

/-- Whatever the line delivers, a call of the RTU client that returns has stored bytes of its frame over the start of the span. -/
theorem Rtu.receiveResponse_overwrites {k : ResponseKind} (y : Indeterminate) (slave : UInt8) (out : k.Pdu) {s s' : Stream}
    {ec : ErrorCode} {r : k.Pdu} (h : Stream.receiveResponse y slave out s = (.ok (ec, r), s')) :
    k.OverwrittenBy (frameBytes s.line) out r := by
  by_cases hslave : slave = 0
  · have hbroadcast : Stream.receiveResponse y slave out s = (.ok (ok, out), s) := by
      unfold Stream.receiveResponse
      rw [if_pos hslave]
      rfl
    rw [hbroadcast] at h
    obtain rfl := (Prod.mk.inj (Exec.ok_inj h).1).2
    exact .refl _ _
  · rcases Stream.receiveResponse_cases y out hslave s with ⟨f, s₁, hrun⟩ | ⟨c, s₁, -, hrun⟩ | ⟨body, m, hframe, -, hrun⟩
    · rw [hrun] at h
      nomatch h
    · rw [hrun] at h
      obtain rfl := (Prod.mk.inj (Exec.ok_inj h).1).2
      exact .refl _ _
    · rw [hrun] at h
      have hverdict : Stream.verdict y slave out body = (ec, r) := (Exec.ok_inj h).1
      have hbody := Stream.verdict_overwrites k y slave out body
      rw [hverdict] at hbody
      rw [hframe]
      exact hbody.mono (List.suffix_cons slave body).isInfix

/-- Over TCP what an operation leaves in the span of its caller are bytes of the connection, over the start of the span. -/
theorem Operation.writtenFrom_tcp {op : Operation} {x slave : UInt8} {s s' : Tcp.Stream} {ec : ErrorCode} {output : Output}
    (h : op.run (Tcp.transport x) slave s = (.ok (ec, output), s')) : op.output.WrittenFrom s.nextLayer.incoming output := by
  obtain ⟨p, hp, hrun⟩ := exists_plan h
  by_cases hsends : p.Sends 313
  · obtain ⟨m, hplan⟩ := p.run_tcp x slave hsends s
    rw [hplan] at hrun
    obtain ⟨v, s₁, hread, hfinish⟩ := Exec.bind_eq_ok hrun
    have hresult : p.finish v.1 v.2 = (ec, output) := (Exec.ok_inj hfinish).1
    have hwritten := Plan.finish_writtenFrom hp v.1 (Tcp.readResponse_overwrites x s.transactionId slave p.response hread)
    rw [hresult] at hwritten
    exact hwritten
  · obtain ⟨f, s₁, herror⟩ := p.run_tcp_error x slave hsends s
    rw [herror] at hrun
    nomatch hrun

/-- Over RTU they are bytes of the frame. -/
theorem Operation.writtenFrom_rtu {op : Operation} {y : Rtu.Indeterminate} {slave : UInt8} {s s' : Rtu.Stream} {ec : ErrorCode}
    {output : Output} (h : op.run (Rtu.transport y) slave s = (.ok (ec, output), s')) :
    op.output.WrittenFrom (Rtu.frameBytes s.line) output := by
  obtain ⟨p, hp, hrun⟩ := exists_plan h
  by_cases hsends : p.Sends 317
  · obtain ⟨m, hplan⟩ := p.run_rtu y slave hsends s
    rw [hplan] at hrun
    obtain ⟨v, s₁, hread, hfinish⟩ := Exec.bind_eq_ok hrun
    have hresult : p.finish v.1 v.2 = (ec, output) := (Exec.ok_inj hfinish).1
    have hwritten := Plan.finish_writtenFrom hp v.1 (Rtu.receiveResponse_overwrites y slave p.response hread)
    rw [hresult] at hwritten
    exact hwritten
  · obtain ⟨f, s₁, herror⟩ := p.run_rtu_error y slave hsends s
    rw [herror] at hrun
    nomatch hrun

end Mothbus
