import Mothbus.Library.EndOfInput
import Mothbus.Lemmas.Reads

/-!
# Bodies that end too early

How many bytes each decoder needs, and that it reports the end of its input exactly when there are fewer. The decoders of the
requests have no other error.
-/

namespace Mothbus

open ErrorLike (ok failed)
open ReadProgram Decoder

/-! ## The read functions have no error of their own -/

/-- Where its `get` succeeds, the reader of a byte succeeds. -/
theorem readUint8_ending : Ending (· = ok) readUint8 := fun v => ends_request v

/-- So does that of a 16-bit value, where both do. -/
theorem readUint16_ending : Ending (· = ok) readUint16 := fun _ _ _ => rfl

theorem readByte_ending : Ending (· = ok) readByte := fun _ _ => rfl

/-- So does that of a span, where all its bytes are there. -/
theorem readSpan_ending : Ending (· = ok) readSpan := readByte_ending.each.focus _ _

theorem readWords_ending : Ending (· = ok) readWords := readUint16_ending.each

/-- So does that of an address and a word. -/
theorem readWordPair_ending : Ending (· = ok) readWordPair :=
  (readUint16_ending.focus _ _).checked <| (readUint16_ending.focus _ _).checked ending_succeed

/-! ## Requests -/

/-- A request to write coils has no error of its own. -/
theorem WriteMultipleCoilsPduReq.read_ending : Ending (· = ok) WriteMultipleCoilsPduReq.read :=
  (readUint16_ending.focus _ _).checked <| (readUint16_ending.focus _ _).checked <| (readUint8_ending.focus _ _).checked <|
    (ending_alter _).checked <| (readByte_ending.each.focus _ _).checked ending_succeed

theorem WriteMultipleRegistersPduReq.read_ending : Ending (· = ok) WriteMultipleRegistersPduReq.read :=
  (readUint16_ending.focus _ _).checked <| (readUint16_ending.focus _ _).checked <| (readUint8_ending.focus _ _).checked <|
    (ending_alter _).checked <| (readWords_ending.focus _ _).checked ending_succeed

theorem ReadWriteMultipleRegistersPduReq.read_ending : Ending (· = ok) ReadWriteMultipleRegistersPduReq.read :=
  (readUint16_ending.focus _ _).checked <| (readUint16_ending.focus _ _).checked <|
    (readUint16_ending.focus _ _).checked <| (readUint16_ending.focus _ _).checked <| (readUint8_ending.focus _ _).checked <|
    (ending_alter _).checked <| (readWords_ending.focus _ _).checked ending_succeed

namespace RequestKind

/-- No kind of request has an error of its own. -/
theorem read_ending (k : RequestKind) : Ending (· = ok) (PduRead.read : Read k.Pdu) := by
  cases k
  case writeMultipleCoils => exact WriteMultipleCoilsPduReq.read_ending
  case writeMultipleRegisters => exact WriteMultipleRegistersPduReq.read_ending
  case readWriteMultipleRegisters => exact ReadWriteMultipleRegistersPduReq.read_ending
  all_goals exact readWordPair_ending.through _

/-- The number of bytes that a request takes after its function code: two words, or as many more as its byte count announces,
where the values are registers two for each it makes room for. -/
def bodySize : RequestKind → List UInt8 → Nat
  | .writeMultipleCoils, l => 5 + (l.getD 4 0).toNat
  | .writeMultipleRegisters, l => 5 + (l.getD 4 0).toNat / 2 * 2
  | .readWriteMultipleRegisters, l => 9 + (l.getD 8 0).toNat / 2 * 2
  | _, _ => 4

/-- What a writer puts after the function code is as long as its reader needs. -/
theorem bodySize_write (k : RequestKind) {q : k.Pdu} (h : k.Counted q) {used : List UInt8}
    (hw : PduWrite.write q = writeFunctionCode (PduRead.fc k.Pdu) ++ used) (rest : List UInt8) :
    k.bodySize (used ++ rest) = used.length := by
  have hused : used = (PduWrite.write q).tail := by
    rw [hw]
    rfl
  rw [hused]
  cases k
  case writeMultipleCoils =>
    have hvalues : q.byteCount.toNat = q.values.length := h
    show 5 + q.byteCount.toNat = (q.values.flatMap writeUint8).length + 5
    rw [flatMap_writeUint8, hvalues, Nat.add_comm]
  case writeMultipleRegisters =>
    have hvalues : q.byteCount.toNat / 2 = q.values.length := h
    show 5 + q.byteCount.toNat / 2 * 2 = (q.values.flatMap writeUint16).length + 5
    rw [length_flatMap_writeUint16, hvalues, Nat.add_comm]
  case readWriteMultipleRegisters =>
    have hvalues : q.writeByteCount.toNat / 2 = q.values.length := h
    show 9 + q.writeByteCount.toNat / 2 * 2 = (q.values.flatMap writeUint16).length + 9
    rw [length_flatMap_writeUint16, hvalues, Nat.add_comm]
  all_goals rfl

/-- Two bytes are written by a word. -/
theorem exists_uint16 {l : List UInt8} (h : 2 ≤ l.length) : ∃ v rest, l = writeUint16 v ++ rest := by
  match l, h with
  | hi :: lo :: rest, _ => exact ⟨hi.toUInt16 <<< 8 ||| lo.toUInt16, rest, by rw [writeUint16_join]; rfl⟩

/-- The values of a request are written by registers. -/
theorem exists_values {n : Nat} {l : List UInt8} (h : n * 2 ≤ l.length) :
    ∃ (values : List UInt16) (rest : List UInt8), values.length = n ∧ l = values.flatMap writeUint16 ++ rest := by
  have htake : (l.take (n * 2)).length = n * 2 := by rw [List.length_take, Nat.min_eq_left h]
  obtain ⟨values, hlen, hvalues⟩ := exists_registers htake
  exact ⟨values, l.drop (n * 2), hlen, by rw [hvalues, List.take_append_drop]⟩

/-- As many bytes as a reader needs start with what its writer puts for a request. -/
theorem exists_of_bodySize (k : RequestKind) {l : List UInt8} (h : k.bodySize l ≤ l.length) :
    ∃ (q : k.Pdu) (rest : List UInt8), k.Counted q ∧ writeFunctionCode (PduRead.fc k.Pdu) ++ l = PduWrite.write q ++ rest := by
  have hfour : 4 ≤ k.bodySize l := by
    cases k <;> simp only [bodySize] <;> omega
  obtain ⟨a, l, rfl⟩ := exists_uint16 (l := l) (by omega)
  rw [List.length_append, length_writeUint16] at h
  obtain ⟨b, l, rfl⟩ := exists_uint16 (l := l) (by omega)
  rw [List.length_append, length_writeUint16] at h
  cases k
  case writeMultipleCoils =>
    simp only [bodySize] at h
    obtain ⟨n, t, rfl⟩ := List.exists_cons_of_length_pos (l := l) (by omega)
    have hlen : n.toNat ≤ t.length := by
      have h' : 5 + n.toNat ≤ 2 + (2 + (t.length + 1)) := h
      omega
    refine ⟨⟨a, b, n, t.take n.toNat⟩, t.drop n.toNat, ?_, ?_⟩
    · show n.toNat = (t.take n.toNat).length
      rw [List.length_take, Nat.min_eq_left hlen]
    · simp [PduWrite.write, PduRead.fc, flatMap_writeUint8, writeUint8]
  case writeMultipleRegisters =>
    simp only [bodySize] at h
    obtain ⟨n, t, rfl⟩ := List.exists_cons_of_length_pos (l := l) (by omega)
    obtain ⟨values, rest, hlen, rfl⟩ := exists_values (n := n.toNat / 2) (l := t) (by
      have h' : 5 + n.toNat / 2 * 2 ≤ 2 + (2 + (t.length + 1)) := h
      omega)
    exact ⟨⟨a, b, n, values⟩, rest, hlen.symm, by simp [PduWrite.write, PduRead.fc, writeUint8]⟩
  case readWriteMultipleRegisters =>
    simp only [bodySize] at h
    obtain ⟨c, l, rfl⟩ := exists_uint16 (l := l) (by omega)
    rw [List.length_append, length_writeUint16] at h
    obtain ⟨d, l, rfl⟩ := exists_uint16 (l := l) (by omega)
    rw [List.length_append, length_writeUint16] at h
    obtain ⟨n, t, rfl⟩ := List.exists_cons_of_length_pos (l := l) (by omega)
    obtain ⟨values, rest, hlen, rfl⟩ := exists_values (n := n.toNat / 2) (l := t) (by
      have h' : 9 + n.toNat / 2 * 2 ≤ 2 + (2 + (2 + (2 + (t.length + 1)))) := h
      omega)
    exact ⟨⟨a, b, c, d, n, values⟩, rest, hlen.symm, by simp [PduWrite.write, PduRead.fc, writeUint8]⟩
  all_goals exact ⟨⟨a, b⟩, l, trivial, rfl⟩

/-- The reader of a request reports the end of its input exactly when there are fewer bytes than it needs, and has no other
error. -/
theorem read_error (k : RequestKind) (req : k.Pdu) (l : List UInt8) :
    ((PduRead.read req).run Buffer.input l).1.1 =
      if k.bodySize l ≤ l.length then ok else makeErrorCode .tooManyBytesReceived := by
  by_cases h : k.bodySize l ≤ l.length
  · rw [if_pos h]
    obtain ⟨q, rest, hcounted, hl⟩ := k.exists_of_bodySize h
    obtain ⟨body, hw, hd⟩ := k.decodes (makeErrorCode .tooManyBytesReceived) req q hcounted
    rw [hw, List.append_assoc] at hl
    rw [List.append_cancel_left hl, hd rest]
  · rw [if_neg h]
    refine ((k.read_propagating req).run_ends Buffer.input_eof_failed (k.read_ending req) l).resolve_left ?_
    intro hok
    have hf : failed ((PduRead.read req).run Buffer.input l).1.1 = false := by
      rw [hok]
      rfl
    obtain ⟨used, hl, hc⟩ := (k.read_propagating req).exists_consumes Buffer.input_eof_failed hf
    obtain ⟨hw, hcounted⟩ := k.inv Buffer.input_eof_failed hc hf
    apply h
    have hsize := k.bodySize_write hcounted hw ((PduRead.read req).run Buffer.input l).2
    rw [← hl] at hsize
    rw [hsize, hl, List.length_append]
    exact Nat.le_add_right _ _

end RequestKind

/-! ### The dispatch -/

/-- The dispatch on the function code of a request type reads a request of this type. -/
theorem readPduVariant_supported (k : RequestKind) (req : PduReq) (kinds : List RequestKind) (hk : k ∈ kinds) :
    readPduVariant (PduRead.fc k.Pdu) kinds req = (do
      let r ← PduRead.read k.fresh
      if failed r.1 then return (r.1, req)
      return (ok, .request k r.2)) := by
  induction kinds with
  | nil => cases hk
  | cons head tail ih =>
    unfold readPduVariant
    by_cases hfc : PduRead.fc head.Pdu = PduRead.fc k.Pdu
    · obtain rfl := RequestKind.fc_injective head k hfc
      rw [if_pos rfl]
    · rw [if_neg hfc]
      refine ih ((List.mem_cons.mp hk).resolve_left ?_)
      rintro rfl
      exact hfc rfl

/-- The dispatch on any other function code reads nothing. -/
theorem readPduVariant_unsupported {fc : FunctionCode} (req : PduReq) (kinds : List RequestKind)
    (h : ∀ k : RequestKind, PduRead.fc k.Pdu ≠ fc) :
    readPduVariant fc kinds req = pure (makeErrorCode .illegalFunction, .notImplemented {}) := by
  induction kinds with
  | nil => rfl
  | cons head tail ih =>
    unfold readPduVariant
    rw [if_neg (h head)]
    exact ih

/-- The only error of the search itself is that there is no such function. -/
theorem readPduVariant_ending (fc : FunctionCode) (kinds : List RequestKind) :
    Ending (fun e => e = ok ∨ e = makeErrorCode .illegalFunction) (readPduVariant fc kinds) := by
  intro req
  induction kinds with
  | nil => exact Or.inr rfl
  | cons head tail ih =>
    unfold readPduVariant
    split
    · refine (head.read_ending head.fresh).bind ?_
      rintro e r rfl
      simp only [ErrorLike.failed_ok]
      exact Or.inl rfl
    · exact ih

/-- So it is for the whole PDU. -/
theorem readPduReq_ending (x : UInt8) :
    Ending (fun e => e = ok ∨ e = makeErrorCode .illegalFunction) (readPduReq x) :=
  fun req b => readPduVariant_ending ⟨b⟩ RequestKind.all req

/-- A body that ends before the request that it starts does: it has no function code, or the function code of a request type and
fewer bytes than a request of this type takes. -/
def EndsEarly (body : List UInt8) : Prop :=
  body = [] ∨ ∃ (k : RequestKind) (rest : List UInt8), body = (PduRead.fc k.Pdu).value :: rest ∧ rest.length < k.bodySize rest

/-- What the request decoder makes of a body with the function code of a request type. -/
theorem readPduReq_supported (x : UInt8) (req : PduReq) (k : RequestKind) (l : List UInt8) :
    ((readPduReq x req).run Buffer.input ((PduRead.fc k.Pdu).value :: l)).1 =
      if k.bodySize l ≤ l.length then (ok, .request k ((PduRead.read k.fresh).run Buffer.input l).1.2)
      else (makeErrorCode .tooManyBytesReceived, req) := by
  have herror := k.read_error k.fresh l
  show ((readPduVariant (PduRead.fc k.Pdu) RequestKind.all req).run Buffer.input l).1 = _
  rw [readPduVariant_supported k req _ k.mem_all, run_bind]
  by_cases h : k.bodySize l ≤ l.length
  · rw [if_pos h] at herror ⊢
    rw [herror]
    rfl
  · rw [if_neg h] at herror ⊢
    rw [herror]
    rfl

/-- What it makes of any other body with a function code. -/
theorem readPduReq_unsupported (x : UInt8) (req : PduReq) {c : UInt8} (h : ∀ k : RequestKind, (PduRead.fc k.Pdu).value ≠ c)
    (l : List UInt8) :
    (readPduReq x req).run Buffer.input (c :: l) = ((makeErrorCode .illegalFunction, .notImplemented {}), l) := by
  show (readPduVariant ⟨c⟩ RequestKind.all req).run Buffer.input l = _
  rw [readPduVariant_unsupported req _ fun k hk => h k (congrArg FunctionCode.value hk), run_pure]

/-- A body that ends early is refused with the error of the end, and the request is as it was. -/
theorem readPduReq_early (x : UInt8) (req : PduReq) {body : List UInt8} (h : EndsEarly body) :
    ((readPduReq x req).run Buffer.input body).1 = (makeErrorCode .tooManyBytesReceived, req) := by
  rcases h with rfl | ⟨k, rest, rfl, hlen⟩
  · rfl
  · rw [readPduReq_supported, if_neg (Nat.not_le.mpr hlen)]

/-- The request decoder reports the end of its input exactly when the body ends early. -/
theorem readPduReq_eof_iff (x : UInt8) (req : PduReq) (body : List UInt8) :
    ((readPduReq x req).run Buffer.input body).1.1 = makeErrorCode .tooManyBytesReceived ↔ EndsEarly body := by
  constructor
  · intro heof
    rcases body with _ | ⟨c, l⟩
    · exact Or.inl rfl
    · by_cases hc : ∃ k : RequestKind, (PduRead.fc k.Pdu).value = c
      · obtain ⟨k, rfl⟩ := hc
        rw [readPduReq_supported] at heof
        by_cases h : k.bodySize l ≤ l.length
        · rw [if_pos h] at heof
          cases heof
        · exact Or.inr ⟨k, l, rfl, Nat.not_le.mp h⟩
      · rw [readPduReq_unsupported x req (not_exists.mp hc)] at heof
        cases heof
  · intro h
    rw [readPduReq_early x req h]

/-- What a writer puts for a request, cut anywhere, ends early. -/
theorem endsEarly_take {k : RequestKind} {q : k.Pdu} (hcounted : k.Counted q) {m : Nat} (h : m < (PduWrite.write q).length) :
    EndsEarly ((PduWrite.write q).take m) := by
  rw [← readPduReq_eof_iff 0 (.notImplemented {})]
  have hfull : Decodes (makeErrorCode .tooManyBytesReceived) (readPduReq 0) (.notImplemented {}) (PduWrite.write q) (.request k q) :=
    decodes_request 0 _ hcounted
  unfold Decodes at hfull
  rw [← List.take_append_drop m (PduWrite.write q)] at hfull
  refine (readPduReq_propagating 0 _).run_cut Buffer.input_eof_failed hfull ?_
  intro hnil
  exact Nat.not_le.mpr h (List.drop_eq_nil_iff.mp hnil)

/-! ## Responses -/

/-- Where the end of the input is hidden, two words are read the same exactly if there are four bytes. -/
theorem readWordPair_hiding_iff (p : UInt16 × UInt16) (l : List UInt8) :
    ((readWordPair p).run hidingSource l).1 = ((readWordPair p).run Buffer.input l).1 ↔ 4 ≤ l.length := by
  have hne : Ends (· ≠ makeErrorCode .tooManyBytesReceived) (readWordPair p) :=
    (readWordPair_ending p).mono (by rintro e rfl; decide)
  rw [(readWordPair_propagating p).hiding_iff Buffer.input_eof_failed hne]
  match l with
  | [] | [_] | [_, _] | [_, _, _] => exact iff_of_false (fun h => h rfl) (by simp)
  | a :: b :: c :: d :: rest => exact iff_of_true (by rintro ⟨⟩) (by simp)

/-- A test of a variable that was read does not meet the end. -/
theorem require_checked_ne {α σ : Type} (test : α → Bool) {e eof : ErrorCode} (he : e ≠ eof) (hok : ok ≠ eof) (a : α)
    (S : Source ErrorCode UInt8 σ) (s : σ) : (((require test e).checked succeed a).run S s).1.1 ≠ eof := by
  show ((if failed (if test a then ok else e) then pure (if test a then ok else e, a) else succeed a :
    ReadProgram ErrorCode UInt8 (ErrorCode × α)).run S s).1.1 ≠ eof
  cases test a
  · cases hf : failed e
    · simpa [hf, succeed] using hok
    · simpa [hf] using he
  · simpa [succeed] using hok

/-- The only error of the reader itself is that of the test of the coil value. -/
theorem readCoilWordPair_ending :
    Ending (fun e => e = ok ∨ e = makeErrorCode .illegalDataValue) readCoilWordPair :=
  (readUint16_ending.focus _ _).checked <| (readUint16_ending.focus _ _).checked <|
    (ending_require _ _).checked_succeed (Or.inl rfl)

/-- The same of two words of which the second is tested. -/
theorem readCoilWordPair_hiding_iff (p : UInt16 × UInt16) (l : List UInt8) :
    ((readCoilWordPair p).run hidingSource l).1 = ((readCoilWordPair p).run Buffer.input l).1 ↔ 4 ≤ l.length := by
  have hne : Ends (· ≠ makeErrorCode .tooManyBytesReceived) (readCoilWordPair p) :=
    (readCoilWordPair_ending p).mono (by rintro e (rfl | rfl) <;> decide)
  rw [(readCoilWordPair_propagating p).hiding_iff Buffer.input_eof_failed hne]
  match l with
  | [] | [_] | [_, _] | [_, _, _] => exact iff_of_false (fun h => h rfl) (by simp)
  | a :: b :: c :: d :: rest =>
    refine iff_of_true ?_ (by simp)
    exact require_checked_ne (fun p : UInt16 × UInt16 => isCoilValue p.2) (by decide) (by decide)
      (a.toUInt16 <<< 8 ||| b.toUInt16, c.toUInt16 <<< 8 ||| d.toUInt16) Buffer.input rest

/-- A span takes as many bytes as it covers. -/
theorem readSpan_eof_iff (v : Span) (l : List UInt8) :
    ((readSpan v).run Buffer.input l).1.1 ≠ makeErrorCode .tooManyBytesReceived ↔ v.size ≤ l.length := by
  constructor
  · intro hne
    have hok := ((readSpan_propagating v).run_ends Buffer.input_eof_failed (readSpan_ending v) l).resolve_right hne
    have hf : failed ((readSpan v).run Buffer.input l).1.1 = false := by
      rw [hok]
      rfl
    obtain ⟨used, hl, hc⟩ := (readSpan_propagating v).exists_consumes Buffer.input_eof_failed hf
    obtain ⟨hlen, -⟩ := span_inv Buffer.input_eof_failed hc hf
    rw [hl, List.length_append, hlen]
    exact Nat.le_add_right _ _
  · intro h
    have htake : (l.take v.size).length = v.size := by rw [List.length_take, Nat.min_eq_left h]
    have hspan : Decodes (makeErrorCode .tooManyBytesReceived) readSpan v (l.take v.size) (v.store (l.take v.size)) :=
      decodes_span v _ htake
    have hd := hspan (l.drop v.size)
    rw [List.take_append_drop] at hd
    rw [hd]
    rintro ⟨⟩

/-- After the byte count, the data are read if the span has room for them. -/
theorem run_readByteCounted {σ : Type} {S : Source ErrorCode UInt8 σ} (p : UInt8 × Span) {s s' : σ} {n : UInt8}
    (hget : S.get p.1 s = (ok, n, s')) :
    ((readByteCounted p).run S s).1 =
      if h : n.toNat ≤ p.2.size then
        (if failed ((readSpan (p.2.first n.toNat h)).run S s').1.1 then ((readSpan (p.2.first n.toNat h)).run S s').1.1 else ok,
          (n, ((readSpan (p.2.first n.toNat h)).run S s').1.2))
      else (makeErrorCode .tooManyBytesReceived, (n, p.2)) := by
  simp only [readByteCounted, readUint8, run_bind, run_request, hget, ErrorLike.failed_ok, Bool.false_eq_true, if_false]
  by_cases h : n.toNat ≤ p.2.size
  · simp only [h, dif_pos, run_bind]
    cases failed ((readSpan (p.2.first n.toNat h)).run S s').1.1 <;> rfl
  · simp only [h, dif_neg, not_false_eq_true, run_pure]

/-- Where the end of the input is hidden, data with a byte count are read the same exactly if they are all there, or are too many for
the span. -/
theorem readByteCounted_hiding_iff (p : UInt8 × Span) (l : List UInt8) :
    ((readByteCounted p).run hidingSource l).1 = ((readByteCounted p).run Buffer.input l).1 ↔
      ((l.getD 0 p.1).toNat ≤ p.2.size → 1 + (l.getD 0 p.1).toNat ≤ l.length) := by
  have hhidden : ∀ (v : Span) (t : List UInt8), ((readSpan v).run hidingSource t).1.1 = ok :=
    fun v t => (readSpan_ending v).run_hiding t
  rcases l with _ | ⟨n, t⟩
  · have hend : ((readByteCounted p).run Buffer.input []).1 = (makeErrorCode .tooManyBytesReceived, p) := rfl
    rw [run_readByteCounted p (hidingSource_nil p.1), hend]
    by_cases h : p.1.toNat ≤ p.2.size
    · rw [dif_pos h, hhidden]
      refine iff_of_false ?_ (fun hall => absurd (hall h) (by simp))
      rintro heq
      cases congrArg Prod.fst heq
    · rw [dif_neg h]
      exact iff_of_true rfl fun hfit => absurd hfit h
  · rw [run_readByteCounted p (hidingSource_cons p.1 n t), run_readByteCounted p (listSource_cons p.1 n t)]
    by_cases h : n.toNat ≤ p.2.size
    · have hne : Ends (· ≠ makeErrorCode .tooManyBytesReceived) (readSpan (p.2.first n.toNat h)) :=
        (readSpan_ending _).mono (by rintro e rfl; decide)
      have hagree := (readSpan_propagating (p.2.first n.toNat h)).hiding_iff Buffer.input_eof_failed hne t
      have hcut := readSpan_eof_iff (p.2.first n.toNat h) t
      rw [Span.size_first] at hcut
      rw [dif_pos h, dif_pos h, hhidden]
      have hgoal : (n :: t).getD 0 p.1 = n := rfl
      rw [hgoal, List.length_cons, Nat.add_comm 1, Nat.succ_le_succ_iff, ← hcut]
      constructor
      · intro heq _ heof
        rw [heof] at heq
        cases congrArg Prod.fst heq
      · intro hall
        rw [← hagree.mpr (hall h), hhidden]
    · rw [dif_neg h, dif_neg h]
      exact iff_of_true rfl fun hfit => absurd hfit h

namespace ResponseKind

/-- What follows the function code is as long as the reader of the type needs for the caller's object: two words, or a byte count and
as many bytes as it says, unless these are too many for the span of the object, which needs no more bytes to tell. Where the byte
count is missing, the one of the object stands for it. -/
def Complete (k : ResponseKind) (out : k.Pdu) (l : List UInt8) : Prop :=
  match k.contents out with
  | .data n v => (l.getD 0 n).toNat ≤ v.size → 1 + (l.getD 0 n).toNat ≤ l.length
  | .words _ _ => 4 ≤ l.length

/-- The reader of a response gives the same where the end of its input is hidden exactly if the input is complete. -/
theorem read_hiding_iff (k : ResponseKind) (out : k.Pdu) (l : List UInt8) :
    ((PduRead.read out).run hidingSource l).1 = ((PduRead.read out).run Buffer.input l).1 ↔ k.Complete out l := by
  cases k
  case readCoils | readDiscreteInputs | readHolding | readInput | readWriteMultipleRegisters =>
    exact (run_through_eq_iff _ _ out).trans (readByteCounted_hiding_iff (out.byteCount, out.values) l)
  case writeSingleCoil | writeSingleRegister =>
    exact (run_through_eq_iff _ _ out).trans (readCoilWordPair_hiding_iff (out.address, out.value) l)
  case writeMultipleCoils =>
    exact (run_through_eq_iff _ _ out).trans (readWordPair_hiding_iff (out.startingAddress, out.quantityOfCoils) l)
  case writeMultipleRegisters =>
    exact (run_through_eq_iff _ _ out).trans (readWordPair_hiding_iff (out.startingAddress, out.quantityOfRegisters) l)

/-- On no bytes at all, the reader of a response reports the end of its input and leaves the object as it was. -/
theorem read_nil (k : ResponseKind) (out : k.Pdu) :
    ((PduRead.read out).run Buffer.input []).1 = (makeErrorCode .tooManyBytesReceived, out) := by
  cases k <;> rfl

/-- A body is as long as the response decoder needs: an exception is two bytes, a response of the expected function as long as its
reader needs, and one of another function just the function code. Where there is no function code, the indeterminate value of
its variable stands for it. -/
def CompleteBody (k : ResponseKind) (indeterminate : UInt8) (out : k.Pdu) (body : List UInt8) : Prop :=
  if body.getD 0 indeterminate &&& 0x80 ≠ 0 then 2 ≤ body.length
  else if (⟨body.getD 0 indeterminate⟩ : FunctionCode) ≠ PduRead.fc k.Pdu then 1 ≤ body.length
  else k.Complete out (body.drop 1)

/-- The response decoder after its function code. -/
theorem run_readPduResp {α σ : Type} [PduRead α] {S : Source ErrorCode UInt8 σ} (x : UInt8) (out : α) {s s' : σ} {fC : UInt8}
    (hget : S.get x s = (ok, fC, s')) :
    ((readPduResp x out).run S s).1 =
      if fC &&& 0x80 ≠ 0 then
        (if failed (S.get 0 s').1 then (S.get 0 s').1 else makeErrorCode ⟨((S.get 0 s').2.1.toNat : Int)⟩, out)
      else if (⟨fC⟩ : FunctionCode) ≠ PduRead.fc α then (makeErrorCode .invalidResponse, out)
      else ((PduRead.read out).run S s').1 := by
  simp only [readPduResp, readUint8, run_bind, run_request, hget, ErrorLike.failed_ok, Bool.false_eq_true, if_false]
  by_cases hbit : fC &&& 0x80 ≠ 0
  · simp only [if_pos hbit, readModbusExceptionCode, readUint8, run_bind, run_request]
    by_cases hf : failed (S.get 0 s').1 = true
    · simp only [hf, if_true, run_pure]
    · simp only [hf, if_false, run_pure, ErrorLike.failed_ok, Bool.false_eq_true]
  · rw [if_neg hbit, if_neg hbit]
    by_cases hfc : (⟨fC⟩ : FunctionCode) ≠ PduRead.fc α
    · rw [if_pos hfc, if_pos hfc, run_pure]
    · rw [if_neg hfc, if_neg hfc]

/-- The response decoder gives the same where the end of its input is hidden exactly if the body is complete. -/
theorem readPduResp_hiding_iff (k : ResponseKind) (x : UInt8) (out : k.Pdu) (body : List UInt8) :
    ((readPduResp x out).run hidingSource body).1 = ((readPduResp x out).run Buffer.input body).1 ↔
      k.CompleteBody x out body := by
  unfold CompleteBody
  rcases body with _ | ⟨c, l⟩
  · rw [readPduResp_nil Buffer.input_eof_failed, run_readPduResp x out (hidingSource_nil x)]
    show _ ↔ if x &&& 0x80 ≠ 0 then 2 ≤ 0 else if (⟨x⟩ : FunctionCode) ≠ PduRead.fc k.Pdu then 1 ≤ 0 else k.Complete out []
    by_cases hbit : x &&& 0x80 ≠ 0
    · rw [if_pos hbit, if_pos hbit]
      exact iff_of_false (by rintro ⟨⟩) (by simp)
    · rw [if_neg hbit, if_neg hbit]
      by_cases hfc : (⟨x⟩ : FunctionCode) ≠ PduRead.fc k.Pdu
      · rw [if_pos hfc, if_pos hfc]
        exact iff_of_false (by rintro ⟨⟩) (by simp)
      · rw [if_neg hfc, if_neg hfc, ← k.read_nil out]
        exact k.read_hiding_iff out []
  · rw [run_readPduResp x out (hidingSource_cons x c l), run_readPduResp x out (listSource_cons x c l)]
    show _ ↔ if c &&& 0x80 ≠ 0 then 2 ≤ l.length + 1
      else if (⟨c⟩ : FunctionCode) ≠ PduRead.fc k.Pdu then 1 ≤ l.length + 1 else k.Complete out l
    by_cases hbit : c &&& 0x80 ≠ 0
    · rw [if_pos hbit, if_pos hbit, if_pos hbit]
      rcases l with _ | ⟨code, l⟩
      · exact iff_of_false (by rintro ⟨⟩) (by simp)
      · exact iff_of_true rfl (by simp)
    · rw [if_neg hbit, if_neg hbit, if_neg hbit]
      by_cases hfc : (⟨c⟩ : FunctionCode) ≠ PduRead.fc k.Pdu
      · rw [if_pos hfc, if_pos hfc, if_pos hfc]
        exact iff_of_true rfl (by simp)
      · rw [if_neg hfc, if_neg hfc, if_neg hfc]
        exact k.read_hiding_iff out l

end ResponseKind

end Mothbus
