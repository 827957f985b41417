import Mothbus.Adu.Buffer
import Mothbus.Lemmas.ResponseCodec

/-!
# The codec of the PDUs

Requests: reader and writer are inverse to each other. Responses: what was written is read back, with one exception. The reader
of `write_single_register_pdu_resp` tests the register's value for being a value of a coil, as the reader of
`write_single_coil_pdu_resp` does, and refuses every other one.
-/

namespace Mothbus

open ErrorLike (ok failed)
open ReadProgram Decoder

/-! ## Requests -/

/-- Reader and writer of a request are inverse to each other, for every reader that reports the end of its bytes as an error.
1. A request whose byte count is the number of its value bytes is read back from what is written for it, into its own
   alternative, and nothing after it is read.
2. The bytes of a request that was read are the bytes that are written for it. -/
theorem readPduReq_writePdu_inverse (eof : ErrorCode) (heof : failed eof = true) (indeterminate : UInt8) (req : PduReq) :
    (∀ (k : RequestKind) (r : k.Pdu) (rest : List UInt8), k.Consistent r →
      (readPduReq indeterminate req).run (listSource eof) (PduWrite.write r ++ rest) = ((ok, .request k r), rest)) ∧
    (∀ l : List UInt8, failed ((readPduReq indeterminate req).run (listSource eof) l).1.1 = false →
      ∃ (k : RequestKind) (r : k.Pdu), ((readPduReq indeterminate req).run (listSource eof) l).1.2 = .request k r ∧
        l = PduWrite.write r ++ ((readPduReq indeterminate req).run (listSource eof) l).2) := by
  constructor
  · intro k r rest h
    exact decodes_request indeterminate req h.counted rest
  · intro l hok
    obtain ⟨k, r, rest, -, hl, hrun⟩ := request_accepted heof hok
    rw [hrun]
    exact ⟨k, r, rfl, hl⟩

theorem readPduReq_writePdu_inverse_buffer :
    (∀ (k : RequestKind) (r : k.Pdu) (rest : List UInt8), k.Consistent r →
      (readPduReq 0 (.notImplemented {})).run Buffer.input (PduWrite.write r ++ rest) = ((ok, .request k r), rest)) ∧
    (∀ l : List UInt8, failed ((readPduReq 0 (.notImplemented {})).run Buffer.input l).1.1 = false →
      ∃ (k : RequestKind) (r : k.Pdu), ((readPduReq 0 (.notImplemented {})).run Buffer.input l).1.2 = .request k r ∧
        l = PduWrite.write r ++ ((readPduReq 0 (.notImplemented {})).run Buffer.input l).2) :=
  readPduReq_writePdu_inverse (makeErrorCode .tooManyBytesReceived) rfl 0 (.notImplemented {})

/-! ## Responses -/

namespace ResponseKind

/-- The test a response type makes of its second word when a response is built: the value of a coil, or the range of a
quantity. A register may have any value. -/
def admitsWord : ResponseKind → UInt16 → Bool
  | .writeSingleCoil, value => WriteSingleCoilPduResp.asserts value
  | .writeMultipleCoils, quantityOfCoils => WriteMultipleCoilsPduResp.asserts quantityOfCoils
  | .writeMultipleRegisters, quantityOfRegisters => WriteMultipleRegistersPduResp.asserts quantityOfRegisters
  | _, _ => true

/-- The responses a type admits: as many data as the byte count says, and words that pass the test of the type. -/
def Admits (k : ResponseKind) (v : k.Pdu) : Prop :=
  match k.contents v with
  | .data byteCount values => byteCount.toNat = values.size
  | .words _ value => k.admitsWord value = true

/-- What the test of the register's reader lets through: every response of another type, and a register that holds a value of a
coil. -/
def RegisterHoldsCoilValue (k : ResponseKind) (v : k.Pdu) : Prop :=
  k = .writeSingleRegister → ∀ address value, k.contents v = .words address value → isCoilValue value = true

/-- An admitted response is one its reader accepts, but for registers with a value that is not one of a coil. -/
theorem readable_of_admits {k : ResponseKind} {v : k.Pdu} (h : k.Admits v) (hv : k.RegisterHoldsCoilValue v) :
    k.Readable v := by
  unfold Readable
  unfold Admits at h
  cases hc : k.contents v with
  | data byteCount values =>
    rw [hc] at h
    exact h
  | words address value =>
    rw [hc] at h
    intro hk
    cases k
    case writeSingleCoil => exact h
    case writeSingleRegister => exact hv rfl address value hc
    all_goals exact absurd hk (by decide)

/-- A response to a written register that is read back holds a value that passes the test of a coil. -/
theorem registerHoldsCoilValue_of_readable {k : ResponseKind} {v : k.Pdu} (h : k.Readable v) : k.RegisterHoldsCoilValue v := by
  intro hk address value hc
  unfold Readable at h
  rw [hc] at h
  exact h (by rw [hk]; rfl)

/-- Being accepted by the reader is a matter of what the response carries. -/
theorem readable_of_same {k : ResponseKind} {v r : k.Pdu} (h : (k.contents r).Same (k.contents v)) (hr : k.Readable r) :
    k.Readable v := by
  unfold Readable at *
  cases hcr : k.contents r <;> cases hcv : k.contents v <;> rw [hcr, hcv] at h <;> rw [hcr] at hr
  · obtain ⟨rfl, hb⟩ := h
    have hsize := congrArg List.length hb
    rw [Span.length_bytes, Span.length_bytes] at hsize
    exact hr.trans hsize
  · exact h.elim
  · exact h.elim
  · obtain ⟨rfl, rfl⟩ := h
    exact hr

end ResponseKind

/-- A response that was written is read back into any object of its type with room for it, its contents whole and nothing after
it read, exactly when it is not a register with a value other than 0x0000 and 0xFF00. -/
theorem readPduResp_writePdu_iff (k : ResponseKind) (v out : k.Pdu) (indeterminate : UInt8) (rest : List UInt8)
    (hv : k.Admits v) (hfit : (k.contents v).Fits (k.contents out)) :
    (∃ ec r, (readPduResp indeterminate out).run Buffer.input (PduWrite.write v ++ rest) = ((ec, r), rest) ∧
      failed ec = false ∧ (k.contents r).Same (k.contents v)) ↔ k.RegisterHoldsCoilValue v := by
  constructor
  · rintro ⟨ec, r, hrun, hok, hsame⟩
    have hacc : failed ((readPduResp indeterminate out).run Buffer.input (PduWrite.write v ++ rest)).1.1 = false := by
      rw [hrun]
      exact hok
    rcases response_inv Buffer.input_eof_failed hacc with ⟨fC, rest', hbit, hl⟩ | ⟨r', rest', hr', -, -, -, hout⟩
    · rw [k.write_eq] at hl
      have hfc : (PduRead.fc k.Pdu).value = fC := (List.cons.inj hl).1
      exact absurd k.fc_value (by rw [hfc]; exact hbit)
    · have hrr : r = r' := by rw [← hout, hrun]
      subst hrr
      exact ResponseKind.registerHoldsCoilValue_of_readable (ResponseKind.readable_of_same hsame hr')
  · intro hreg
    obtain ⟨r, hr, hd⟩ := decodes_response (makeErrorCode .tooManyBytesReceived) indeterminate
      (ResponseKind.readable_of_admits hv hreg) hfit
    exact ⟨ok, r, hd rest, rfl, by rw [hr]; exact k.into_same v out⟩

/-- A register that holds 3, in an answer to a write of it. -/
def registerThree : WriteSingleRegisterPduResp := { address := 1, value := 3 }

/-- The answer to a write of the value 3 is admitted and has room, and is refused as it is read back. -/
theorem writeSingleRegister_three_refused :
    ResponseKind.Admits .writeSingleRegister registerThree ∧
    (ResponseKind.contents .writeSingleRegister registerThree).Fits (ResponseKind.contents .writeSingleRegister registerThree) ∧
    ¬∃ ec r, (readPduResp 0 registerThree).run Buffer.input (PduWrite.write registerThree ++ []) = ((ec, r), []) ∧
      failed ec = false ∧
      (ResponseKind.contents .writeSingleRegister r).Same (ResponseKind.contents .writeSingleRegister registerThree) := by
  refine ⟨rfl, trivial, ?_⟩
  rintro ⟨ec, r, hrun, hok, -⟩
  have hbad : failed ((readPduResp 0 registerThree).run Buffer.input (PduWrite.write registerThree ++ [])).1.1 = true := by
    decide
  rw [hrun] at hbad
  exact absurd (hok.symm.trans hbad) (by decide)

theorem readPduResp_writePdu_coilValue :
    ResponseKind.Admits .writeSingleRegister { address := 1, value := 0xFF00 } ∧
    ((∃ ec r, (readPduResp 0 registerThree).run Buffer.input
        (PduWrite.write ({ address := 1, value := 0xFF00 } : WriteSingleRegisterPduResp) ++ [7]) = ((ec, r), [7]) ∧
      failed ec = false ∧ (ResponseKind.contents .writeSingleRegister r).Same (.words 1 0xFF00)) ↔
      ResponseKind.RegisterHoldsCoilValue .writeSingleRegister { address := 1, value := 0xFF00 }) :=
  ⟨rfl, readPduResp_writePdu_iff .writeSingleRegister { address := 1, value := 0xFF00 } registerThree 0 [7] rfl trivial⟩

end Mothbus
