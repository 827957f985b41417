import Mothbus.Lemmas.EndOfInput
import Mothbus.Theorems.Bodies

/-!
# Truncated PDUs

A request that ends too early is refused and changes nothing. What the request variant says about the function of a body. The two
functions that read a byte, one of which drops the error of the reader, agree exactly where the input does not end inside a PDU.
-/

namespace Mothbus

open ErrorLike (ok failed)
open ReadProgram Decoder Tcp

/-! ## Truncated requests -/

/-- A body that ends early is refused by `parse_body`, and the request variant holds what it held.
1. A body that is empty, or has the function code of a request type and fewer bytes than a request of this type takes.
2. What a writer puts for a request, cut anywhere. -/
theorem truncated_request_refused {n : Nat} (indeterminate : UInt8) (source : Buffer n) (readSize : Nat) (request : PduReq)
    (hwf : (source.commit readSize).WellFormed) :
    (EndsEarly (source.commit readSize).data →
      failed (parseBody indeterminate source readSize request).1.1 = true ∧
        (parseBody indeterminate source readSize request).1.2 = request) ∧
    (∀ (k : RequestKind) (q : k.Pdu) (m : Nat), k.Counted q → m < (PduWrite.write q).length →
      (source.commit readSize).data = (PduWrite.write q).take m →
      failed (parseBody indeterminate source readSize request).1.1 = true ∧
        (parseBody indeterminate source readSize request).1.2 = request) := by
  have hearly : EndsEarly (source.commit readSize).data →
      failed (parseBody indeterminate source readSize request).1.1 = true ∧
        (parseBody indeterminate source readSize request).1.2 = request := by
    intro h
    unfold parseBody
    rw [Buffer.run_source _ hwf, readPduReq_early indeterminate request h]
    exact ⟨Buffer.input_eof_failed, rfl⟩
  refine ⟨hearly, ?_⟩
  intro k q m hcounted hm hd
  apply hearly
  rw [hd]
  exact endsEarly_take hcounted hm

/-- A write of five registers with a byte count of ten and three values, over an earlier request. -/
theorem truncated_request_refused_registers :
    failed (parseBody 0 (bodySource [0x10, 0, 0, 0, 5, 10, 0, 1, 0, 2, 0, 3]) 12 (.request .readInput ⟨7, 1⟩)).1.1 = true ∧
      (parseBody 0 (bodySource [0x10, 0, 0, 0, 5, 10, 0, 1, 0, 2, 0, 3]) 12 (.request .readInput ⟨7, 1⟩)).1.2 =
        .request .readInput ⟨7, 1⟩ :=
  (truncated_request_refused 0 (bodySource [0x10, 0, 0, 0, 5, 10, 0, 1, 0, 2, 0, 3]) 12 (.request .readInput ⟨7, 1⟩)
    (bodySource_wellFormed _)).1 (Or.inr ⟨.writeMultipleRegisters, _, bodySource_data _, by decide⟩)

/-! ## The function of a request -/

/-- `fc` of the alternative that the variant holds. -/
def PduReq.fc : PduReq → UInt8
  | .request k _ => (PduRead.fc k.Pdu).value
  | .notImplemented r => r.fc

/-- No request type has the function code. -/
def Unsupported (c : UInt8) : Prop := ∀ k : RequestKind, (PduRead.fc k.Pdu).value ≠ c

/-- What is returned for a body that starts with `c`, and the request variant then, say which function the body is for: on a success
or `illegal_function`, the alternative has the function code `c`, it is `not_implemented` exactly when no request type has that
code, and `illegal_function` is returned exactly then. -/
def SaysFunction (c : UInt8) (r : ErrorCode × PduReq) : Prop :=
  failed r.1 = false ∨ r.1 = makeErrorCode .illegalFunction →
    r.2.fc = c ∧ ((∃ u, r.2 = .notImplemented u) ↔ Unsupported c) ∧ (r.1 = makeErrorCode .illegalFunction ↔ Unsupported c)

/-- A request of a type with the code says which function it is. -/
theorem saysFunction_request (k : RequestKind) (q : k.Pdu) : SaysFunction (PduRead.fc k.Pdu).value (ok, .request k q) := by
  have hsupported : ¬Unsupported (PduRead.fc k.Pdu).value := fun h => h k rfl
  intro _
  refine ⟨rfl, ?_, ?_⟩
  · constructor
    · rintro ⟨u, hu⟩
      cases hu
    · intro h
      exact absurd h hsupported
  · constructor
    · intro h
      cases h
    · intro h
      exact absurd h hsupported

/-- After `illegal_function`, the alternative has the function code zero. -/
theorem saysFunction_notImplemented_iff {c : UInt8} (h : Unsupported c) :
    SaysFunction c (makeErrorCode .illegalFunction, .notImplemented {}) ↔ c = 0 := by
  constructor
  · intro hname
    exact (hname (Or.inr rfl)).1.symm
  · rintro rfl
    intro _
    exact ⟨rfl, ⟨fun _ => h, fun _ => ⟨_, rfl⟩⟩, ⟨fun _ => h, fun _ => rfl⟩⟩

/-- `parse_body` says which function a body is for exactly when a request type has the function code of the body, or the code is
zero. -/
theorem parseBody_saysFunction_iff {n : Nat} (indeterminate : UInt8) (source : Buffer n) (readSize : Nat) (request : PduReq)
    {c : UInt8} {rest : List UInt8} (hwf : (source.commit readSize).WellFormed)
    (hd : (source.commit readSize).data = c :: rest) :
    SaysFunction c (parseBody indeterminate source readSize request).1 ↔
      (∃ k : RequestKind, (PduRead.fc k.Pdu).value = c) ∨ c = 0 := by
  unfold parseBody
  rw [Buffer.run_source _ hwf, hd]
  by_cases hc : ∃ k : RequestKind, (PduRead.fc k.Pdu).value = c
  · refine iff_of_true ?_ (Or.inl hc)
    obtain ⟨k, rfl⟩ := hc
    rw [readPduReq_supported]
    by_cases h : k.bodySize rest ≤ rest.length
    · rw [if_pos h]
      exact saysFunction_request k _
    · rw [if_neg h]
      rintro (h | h) <;> cases h
  · rw [readPduReq_unsupported indeterminate request (not_exists.mp hc), saysFunction_notImplemented_iff (not_exists.mp hc)]
    exact ⟨Or.inr, fun h => h.resolve_left hc⟩

/-- The function code of a request for the identification of the device, which is not implemented. -/
theorem parseBody_saysFunction_identification :
    SaysFunction 0x2B (parseBody 0 (bodySource [0x2B, 0x0E, 0x01, 0x00]) 4 (.notImplemented {})).1 ↔
      (∃ k : RequestKind, (PduRead.fc k.Pdu).value = 0x2B) ∨ (0x2B : UInt8) = 0 :=
  parseBody_saysFunction_iff 0 (bodySource [0x2B, 0x0E, 0x01, 0x00]) 4 (.notImplemented {}) (bodySource_wellFormed _)
    (bodySource_data _)

/-- A request for the identification of the device is taken for a function zero. -/
theorem identification_taken_for_zero :
    ¬∀ (indeterminate : UInt8) (body : List UInt8) (request : PduReq) (c : UInt8) (rest : List UInt8), body = c :: rest →
      SaysFunction c (parseBody indeterminate (bodySource body) body.length request).1 := by
  intro h
  have hname := h 0 [0x2B, 0x0E, 0x01, 0x00] (.notImplemented {}) _ _ rfl
  have hfc := (hname (Or.inr (by decide))).1
  exact absurd hfc (by decide)

/-! ## The two functions that read a byte -/

/-- The input of a buffer is used up. -/
theorem Buffer.data_eq_nil {n : Nat} {b : Buffer n} (h : b.inputStart ≥ b.inputEnd) : b.data = [] := by
  refine List.drop_eq_nil_of_le ?_
  rw [List.length_take]
  exact Nat.le_trans (Nat.min_le_left _ _) h

/-- With `adu::read`, a buffer is a source that reports its end. -/
theorem Buffer.simulates_data {n : Nat} :
    Simulates (Buffer.source (n := n)) Buffer.input (fun b l => b.inputEnd ≤ n ∧ b.data = l) := by
  rintro old b l ⟨hend, rfl⟩
  by_cases h : b.inputStart ≥ b.inputEnd
  · rw [Buffer.data_eq_nil h]
    simp only [Buffer.source, Buffer.get, h, if_true, listSource_nil]
    exact ⟨trivial, trivial, hend, Buffer.data_eq_nil h⟩
  · rw [Buffer.data_cons ⟨by omega, hend⟩ (by omega)]
    simp only [Buffer.source, Buffer.get, h, if_false, listSource_cons]
    exact ⟨trivial, trivial, hend, trivial⟩

/-- With the generic overload, it is a source that hides its end. -/
theorem Buffer.simulates_generic {n : Nat} :
    Simulates (Buffer.genericSource (n := n)) hidingSource (fun b l => b.inputEnd ≤ n ∧ b.data = l) := by
  rintro old b l ⟨hend, rfl⟩
  by_cases h : b.inputStart ≥ b.inputEnd
  · rw [Buffer.data_eq_nil h]
    simp only [Buffer.genericSource, Buffer.get, h, if_true, hidingSource_nil]
    exact ⟨trivial, trivial, hend, Buffer.data_eq_nil h⟩
  · rw [Buffer.data_cons ⟨by omega, hend⟩ (by omega)]
    simp only [Buffer.genericSource, Buffer.get, h, if_false, hidingSource_cons]
    exact ⟨trivial, trivial, hend, trivial⟩

/-- With both overloads, decoding what a buffer holds gives the same error and the same message. -/
def ReadersAgree {α : Type} {n : Nat} (p : ReadProgram ErrorCode UInt8 (ErrorCode × α)) (b : Buffer n) : Prop :=
  (p.run Buffer.genericSource b).1 = (p.run Buffer.source b).1

/-- The two overloads agree where hiding the end of the input makes no difference. -/
theorem readersAgree_iff_hiding {α : Type} {n : Nat} (p : ReadProgram ErrorCode UInt8 (ErrorCode × α)) {b : Buffer n}
    (hend : b.inputEnd ≤ n) : ReadersAgree p b ↔ (p.run hidingSource b.data).1 = (p.run Buffer.input b.data).1 := by
  unfold ReadersAgree
  rw [(run_simulates Buffer.simulates_generic p (t := b.data) ⟨hend, rfl⟩).1,
    (run_simulates Buffer.simulates_data p (t := b.data) ⟨hend, rfl⟩).1]

/-- The two overloads that read a byte agree exactly where the input does not end inside the PDU.
1. Decoding a request: the body has a function code and, if it is the one of a request type, as many bytes as a request of this type
   takes.
2. The reader of a request type, after the function code: there are as many bytes as a request of this type takes.
3. Decoding a response: an exception has its two bytes, a response of the expected function as many as its reader needs.
4. The reader of a response type, after the function code: there are as many bytes as it needs. -/
theorem readersAgree_iff {n : Nat} (b : Buffer n) (hend : b.inputEnd ≤ n) (indeterminate : UInt8) :
    (∀ request : PduReq, ReadersAgree (readPduReq indeterminate request) b ↔ ¬EndsEarly b.data) ∧
    (∀ (k : RequestKind) (req : k.Pdu), ReadersAgree (PduRead.read req) b ↔ k.bodySize b.data ≤ b.data.length) ∧
    (∀ (k : ResponseKind) (out : k.Pdu),
      ReadersAgree (readPduResp indeterminate out) b ↔ k.CompleteBody indeterminate out b.data) ∧
    (∀ (k : ResponseKind) (out : k.Pdu), ReadersAgree (PduRead.read out) b ↔ k.Complete out b.data) := by
  refine ⟨?_, ?_, ?_, ?_⟩
  · intro request
    have hne : Ends (· ≠ makeErrorCode .tooManyBytesReceived) (readPduReq indeterminate request) :=
      (readPduReq_ending indeterminate request).mono (by rintro e (rfl | rfl) <;> decide)
    rw [readersAgree_iff_hiding _ hend, (readPduReq_propagating _ _).hiding_iff Buffer.input_eof_failed hne, ne_eq,
      readPduReq_eof_iff]
  · intro k req
    have hne : Ends (· ≠ makeErrorCode .tooManyBytesReceived) (PduRead.read req) :=
      (k.read_ending req).mono (by rintro e rfl; decide)
    rw [readersAgree_iff_hiding _ hend, (k.read_propagating req).hiding_iff Buffer.input_eof_failed hne, k.read_error req]
    by_cases h : k.bodySize b.data ≤ b.data.length
    · simp [h]
      decide
    · simp [h]
  · intro k out
    rw [readersAgree_iff_hiding _ hend, k.readPduResp_hiding_iff]
  · intro k out
    rw [readersAgree_iff_hiding _ hend, k.read_hiding_iff]

/-- A read of holding registers, cut after the first byte of the address. -/
def cutReadHolding : Buffer 2 := (bodySource [0x03, 0x00]).commit 2

theorem readersAgree_iff_cutReadHolding :
    ReadersAgree (readPduReq 0 (.notImplemented {})) cutReadHolding ↔ ¬EndsEarly cutReadHolding.data :=
  (readersAgree_iff cutReadHolding (by decide) 0).1 (.notImplemented {})

/-- The cut request is a success with the generic overload, and an error with the other. -/
theorem cutReadHolding_disagree :
    ¬∀ (n : Nat) (b : Buffer n) (indeterminate : UInt8) (request : PduReq), b.inputEnd ≤ n →
      ReadersAgree (readPduReq indeterminate request) b ∧
        (EndsEarly b.data → failed ((readPduReq indeterminate request).run Buffer.genericSource b).1.1 = true) := by
  intro h
  have hagree := (h 2 cutReadHolding 0 (.notImplemented {}) (by decide)).1
  exact absurd (congrArg Prod.fst hagree) (by decide)

end Mothbus
