import Mothbus.Lemmas.Calls

/-!
# Words in a response

What a body of two words does to the response object of a write, over either transport. A write makes nothing of the words: its
result is the error code of the client.
-/

namespace Mothbus

open ErrorLike (ok failed)
open ReadProgram Decoder

/-- A body that starts with a response of two words: the function code, the address, the value. -/
def CarriesWords (fc : FunctionCode) (address value : UInt16) (body : List UInt8) : Prop :=
  ∃ rest, body = fc.value :: (writeUint16 address ++ writeUint16 value ++ rest)

/-- The words are determined by the body. -/
theorem CarriesWords.unique {fc : FunctionCode} {address value address' value' : UInt16} {body : List UInt8}
    (h : CarriesWords fc address value body) (h' : CarriesWords fc address' value' body) :
    address = address' ∧ value = value' := by
  obtain ⟨rest, rfl⟩ := h
  obtain ⟨rest', he⟩ := h'
  obtain ⟨-, htail⟩ := List.cons.inj he
  rw [List.append_assoc, List.append_assoc] at htail
  obtain ⟨haddress, hvalue⟩ := List.append_inj htail rfl
  exact ⟨writeUint16_inj haddress, writeUint16_inj (List.append_inj hvalue rfl).1⟩

/-- A body with two words is no exception. -/
theorem CarriesWords.not_zeroException {k : ResponseKind} {address value : UInt16} {body : List UInt8}
    (h : CarriesWords (PduRead.fc k.Pdu) address value body) : ¬Tcp.IsZeroException body := by
  obtain ⟨rest, rfl⟩ := h
  exact Tcp.not_zeroException_cons k _

section

variable {k : ResponseKind} {out : k.Pdu} {a v : UInt16}

/-- The responses of a type of two words are those of any two words. -/
theorem ResponseKind.exists_words (h : k.contents out = .words a v) (r : k.Pdu) : ∃ a' v', k.contents r = .words a' v' := by
  cases k
  case readCoils | readDiscreteInputs | readHolding | readInput | readWriteMultipleRegisters => cases h
  all_goals exact ⟨_, _, rfl⟩

/-- A response without data can have any two words. -/
theorem ResponseKind.exists_of_words (h : k.contents out = .words a v) (a' v' : UInt16) : ∃ r : k.Pdu, k.contents r = .words a' v' := by
  cases k
  case readCoils | readDiscreteInputs | readHolding | readInput | readWriteMultipleRegisters => cases h
  all_goals exact ⟨⟨a', v'⟩, rfl⟩

/-- The responses of two words are the bodies with two words of which the second passes the test of the reader. -/
theorem isResponse_iff_of_words (hout : k.contents out = .words a v) (body : List UInt8) :
    Tcp.IsResponse k out body ↔ ∃ address value, CarriesWords (PduRead.fc k.Pdu) address value body ∧
      (k.checksCoilValue = true → isCoilValue value = true) := by
  constructor
  · rintro ⟨r, rest, hr, -, rfl⟩
    obtain ⟨address, value, hcontents⟩ := ResponseKind.exists_words hout r
    unfold ResponseKind.Readable at hr
    rw [hcontents] at hr
    refine ⟨address, value, ⟨rest, ?_⟩, hr⟩
    rw [ResponseKind.write_of_words hcontents]
    rfl
  · rintro ⟨address, value, ⟨rest, rfl⟩, hcheck⟩
    obtain ⟨r, hr⟩ := ResponseKind.exists_of_words hout address value
    refine ⟨r, rest, ?_, ?_, ?_⟩
    · unfold ResponseKind.Readable
      rw [hr]
      exact hcheck
    · rw [hr, hout]
      trivial
    · rw [ResponseKind.write_of_words hr]
      rfl

end

/-! ## What a write makes of a body -/

namespace Plan

variable {p : Plan} {address value : UInt16} {checks : Bool}

/-- A write fails exactly if reading its response has failed. -/
theorem failed_finish_of_writes (h : p.WritesWords address value checks) (ec : ErrorCode) (r : p.expected.Pdu) :
    failed (p.finish ec r).1 = failed ec := by
  rw [h.finish_eq, Master.checkError]
  cases hec : failed ec with
  | true => simp [hec]
  | false => simp

/-- Over TCP a write succeeds on every response that passes the test of its reader, and on an exception with the code zero. -/
theorem writes_tcp_ok_iff (h : p.WritesWords address value checks) (x : UInt8) (body : List UInt8) :
    failed (p.tcpResult x body).1 = false ↔ Tcp.IsZeroException body ∨
      ∃ address' value', CarriesWords (PduRead.fc p.expected.Pdu) address' value' body ∧
        (checks = true → isCoilValue value' = true) := by
  rw [tcpResult, failed_finish_of_writes h, Tcp.failed_verdict_iff, isResponse_iff_of_words h.response, h.checks, or_comm]

/-- Over RTU it succeeds on every frame whose checksum passes. -/
theorem writes_rtu_ok_iff (h : p.WritesWords address value checks) (y : Rtu.Indeterminate) (slave : UInt8) (body : List UInt8) :
    failed (p.lineResult y slave body).1 = false ↔ Rtu.Stream.ChecksumPasses y slave p.response body := by
  rw [lineResult, failed_finish_of_writes h, Rtu.Stream.failed_verdict_iff]

end Plan

end Mothbus
