import Mothbus.Library.Exec
import Mothbus.Library.Overwrite
import Mothbus.Pdu.Responses

/-!
# The message buffer

`include/mothbus/adu/buffer.h`: a cursor buffer over an array of bytes. None of its operations checks an index against the
size of the array; a store outside it is undefined behaviour, which the model makes a fault.
-/

namespace Mothbus

open ErrorLike (ok failed)

/-- How a call can end without returning: a failed assertion, a store outside an array (with the index), or an exception thrown
by the network. -/
inductive Fault where
  | assertion
  | outOfBounds (index : Nat)
  | systemError (ec : ErrorCode)
  deriving DecidableEq, Repr

/-- `assert(b)`. -/
def assert {σ : Type} (b : Bool) : Exec Fault σ Unit := if b then pure () else Exec.stop .assertion

/-- `adu::buffer`. The span it holds refers to an array of `n` bytes; the buffer carries the contents of that array. -/
structure Buffer (n : Nat) where
  messageBuffer : Vector UInt8 n
  inputStart : Nat := 0
  inputEnd : Nat := 0
  outputStart : Nat := 0

namespace Buffer

variable {n : Nat}

/-- Store bytes from index `i` of the array on. -/
def store (m : Vector UInt8 n) (i : Nat) (l : List UInt8) : Except Fault (Vector UInt8 n) :=
  (m.overwrite i l).mapError .outOfBounds

/-- `put`: store a byte at `output_start` and move on. -/
def put (v : UInt8) (b : Buffer n) : Except Fault (Buffer n) :=
  (store b.messageBuffer b.outputStart [v]).map
    (fun m => { b with messageBuffer := m, outputStart := b.outputStart + 1 })

/-- A writer over the buffer: `put` for each byte. -/
def putAll : List UInt8 → Buffer n → Except Fault (Buffer n)
  | [], b => .ok b
  | v :: l, b => (b.put v).bind (putAll l)

/-- `get`: the next byte of the input, or an error when the input is used up. Reading outside the array would be undefined
behaviour; no call gets there, because the input only grows by what was stored. -/
def get (out : UInt8) (b : Buffer n) : ErrorCode × UInt8 × Buffer n :=
  if b.inputStart ≥ b.inputEnd then (makeErrorCode .tooManyBytesReceived, out, b)
  else (ok, b.messageBuffer.toList.getD b.inputStart 0, { b with inputStart := b.inputStart + 1 })

/-- `data`: the input not yet read. -/
def data (b : Buffer n) : List UInt8 := (b.messageBuffer.toList.take b.inputEnd).drop b.inputStart

/-- `prepare(k)` and the transfer into the region it gives: store bytes from `output_start` on, without moving a cursor. -/
def receive (b : Buffer n) (l : List UInt8) : Except Fault (Buffer n) :=
  (store b.messageBuffer b.outputStart l).map (fun m => { b with messageBuffer := m })

/-- `commit`. -/
def commit (k : Nat) (b : Buffer n) : Buffer n :=
  { b with inputEnd := b.inputEnd + k, outputStart := b.outputStart + k }

/-- `adu::read(buffer&, uint8_t&)`, the overload argument-dependent lookup finds for a buffer. -/
def source : Source ErrorCode UInt8 (Buffer n) := ⟨get⟩

/-- The generic overload `pdu::read(Reader&, uint8_t&)`, for a buffer: it drops the error of `get`. -/
def genericSource : Source ErrorCode UInt8 (Buffer n) := ⟨fun out b => (ok, (b.get out).2)⟩

/-! ## Storing -/

/-- Bytes that fit replace as many of those in the array, and the others stay. -/
theorem store_ok {m : Vector UInt8 n} {i : Nat} {l : List UInt8} (h : i + l.length ≤ n) :
    ∃ m', store m i l = .ok m' ∧ m'.toList = m.toList.take i ++ l ++ m.toList.drop (i + l.length) := by
  obtain ⟨m', h1, h2⟩ := Vector.exists_overwrite l m i h
  exact ⟨m', by rw [store, h1]; rfl, h2⟩

/-- Bytes that do not fit leave the array. -/
theorem store_error {m : Vector UInt8 n} {i : Nat} {l : List UInt8} (hi : i ≤ n) (h : n < i + l.length) :
    store m i l = .error (.outOfBounds n) := by
  rw [store, Vector.overwrite_error l m i hi h]
  rfl

/-- Bytes put one by one are stored in order from `output_start` on, as far as the array goes. -/
theorem putAll_eq (l : List UInt8) (b : Buffer n) :
    putAll l b = (store b.messageBuffer b.outputStart l).map
      (fun m => { b with messageBuffer := m, outputStart := b.outputStart + l.length }) := by
  induction l generalizing b with
  | nil => rfl
  | cons v l ih =>
    by_cases h : b.outputStart < n
    · have hput : b.put v = .ok { b with
          messageBuffer := b.messageBuffer.set b.outputStart v h, outputStart := b.outputStart + 1 } := by
        rw [put, store, Vector.overwrite_cons _ _ h]
        rfl
      rw [putAll, hput]
      show putAll l _ = _
      rw [ih, store, store, Vector.overwrite_cons _ _ h]
      simp only [List.length_cons, Nat.add_assoc, Nat.add_comm 1]
    · rw [putAll, put, store, store, Vector.overwrite, Vector.overwrite, dif_neg h, dif_neg h]
      rfl

/-- Bytes are put one after the other. -/
theorem putAll_append (l l' : List UInt8) (b : Buffer n) : putAll (l ++ l') b = putAll l b >>= putAll l' := by
  induction l generalizing b with
  | nil => rfl
  | cons v l ih =>
    rw [List.cons_append, putAll, putAll]
    cases b.put v with
    | error e => rfl
    | ok b' => exact ih b'

/-- Bytes put from an index on that fit the array. -/
theorem putAll_ok (m : Vector UInt8 n) (i : Nat) {l : List UInt8} (h : i + l.length ≤ n) :
    ∃ m', putAll l { messageBuffer := m, outputStart := i } =
        .ok { messageBuffer := m', outputStart := i + l.length } ∧
      m'.toList = m.toList.take i ++ l ++ m.toList.drop (i + l.length) := by
  obtain ⟨m', h1, h2⟩ := store_ok (m := m) h
  exact ⟨m', by rw [putAll_eq, h1]; rfl, h2⟩

/-- Bytes put from an index on that do not fit the array. -/
theorem putAll_error (m : Vector UInt8 n) (i : Nat) {l : List UInt8} (hi : i ≤ n) (h : n < i + l.length) :
    putAll l { messageBuffer := m, outputStart := i } = .error (.outOfBounds n) := by
  rw [putAll_eq]
  show Except.map _ (store m i l) = _
  rw [store_error hi h]
  rfl

/-! ## Reading -/

/-- The input of the buffer lies within the array. -/
def WellFormed (b : Buffer n) : Prop := b.inputStart ≤ b.inputEnd ∧ b.inputEnd ≤ n

/-- The buffer after its input has been read down to its last bytes `rest`. -/
def leaving (b : Buffer n) (rest : List UInt8) : Buffer n := { b with inputStart := b.inputEnd - rest.length }

/-- The input is what lies between its two cursors. -/
theorem length_data {b : Buffer n} (h : b.WellFormed) : b.data.length = b.inputEnd - b.inputStart := by
  have := h.2
  simp only [data, List.length_drop, List.length_take, Vector.length_toList]
  omega

/-- The first byte of the input is the one that `get` gives, and the others are the input after it. -/
theorem data_cons {b : Buffer n} (h : b.WellFormed) (hlt : b.inputStart < b.inputEnd) :
    b.data = b.messageBuffer.toList.getD b.inputStart 0 :: { b with inputStart := b.inputStart + 1 }.data := by
  have hn := h.2
  have h1 : b.inputStart < (b.messageBuffer.toList.take b.inputEnd).length := by
    simp only [List.length_take, Vector.length_toList]
    omega
  have h2 : b.inputStart < b.messageBuffer.toList.length := by
    simp only [Vector.length_toList]
    omega
  rw [data, List.drop_eq_getElem_cons h1, List.getElem_take, List.getD_eq_getElem?_getD, List.getElem?_eq_getElem h2]
  rfl

/-- The list that a buffer's input is, as a source of bytes: its end is the error of `get`. -/
abbrev input : Source ErrorCode UInt8 (List UInt8) := ReadProgram.listSource (makeErrorCode .tooManyBytesReceived)

theorem input_eof_failed : failed (makeErrorCode .tooManyBytesReceived) = true := rfl

/-- A buffer answers requests as the list of its input does, and moves nothing but `input_start`. -/
theorem simulates (b₀ : Buffer n) : ReadProgram.Simulates (source (n := n)) input
    (fun b l => b.WellFormed ∧ b.data = l ∧ b = { b₀ with inputStart := b.inputStart }) := by
  rintro old b l ⟨hwf, rfl, hb⟩
  by_cases h : b.inputStart ≥ b.inputEnd
  · have hd : b.data = [] := by
      have := length_data hwf
      exact List.eq_nil_of_length_eq_zero (by omega)
    have hget : source.get old b = (makeErrorCode .tooManyBytesReceived, old, b) := by
      simp only [source, get, h, if_true]
    rw [hget, hd, ReadProgram.listSource_nil]
    exact ⟨rfl, rfl, hwf, hd, hb⟩
  · have hlt : b.inputStart < b.inputEnd := by omega
    have hget : source.get old b =
        (ok, b.messageBuffer.toList.getD b.inputStart 0, { b with inputStart := b.inputStart + 1 }) := by
      simp only [source, get, h, if_false]
    rw [hget, data_cons hwf hlt, ReadProgram.listSource_cons]
    exact ⟨rfl, rfl, ⟨hlt, hwf.2⟩, rfl, by rw [hb]⟩

/-- A read program run against a buffer does what it does on the list of the buffer's input. -/
theorem run_source {α : Type} (p : ReadProgram ErrorCode UInt8 α) {b : Buffer n} (h : b.WellFormed) :
    p.run source b = ((p.run input b.data).1, b.leaving (p.run input b.data).2) := by
  obtain ⟨h1, hwf, h2, h3⟩ := ReadProgram.run_simulates (simulates b) p (s := b) (t := b.data) ⟨h, rfl, rfl⟩
  have hlen := length_data hwf
  have he : (p.run source b).2.inputEnd = b.inputEnd := by rw [h3]
  have hs : (p.run source b).2.inputStart = b.inputEnd - (p.run input b.data).2.length := by
    have := hwf.1
    rw [← h2]
    omega
  refine Prod.ext h1 ?_
  rw [h3, leaving, hs]

/-! ## Receiving -/

/-- The buffer of a receiver: what is received goes where the input ends. -/
structure Receiving (b : Buffer n) : Prop where
  wellFormed : b.WellFormed
  outputStart_eq : b.outputStart = b.inputEnd

theorem receiving_empty (m : Vector UInt8 n) : ({ messageBuffer := m } : Buffer n).Receiving :=
  ⟨⟨Nat.le_refl 0, Nat.zero_le n⟩, rfl⟩

/-- Everything received since the buffer was made, read or not. -/
def received (b : Buffer n) : List UInt8 := b.messageBuffer.toList.take b.inputEnd

theorem data_eq_drop_received (b : Buffer n) : b.data = b.received.drop b.inputStart := rfl

theorem data_empty (m : Vector UInt8 n) : ({ messageBuffer := m } : Buffer n).data = [] := rfl

/-- As much has been received as the end of the input says. -/
theorem length_received {b : Buffer n} (h : b.WellFormed) : b.received.length = b.inputEnd := by
  have hn := h.2
  simp only [received, List.length_take, Vector.length_toList]
  omega

/-- What is received and committed is appended to the input, as far as the array goes. -/
theorem exists_receive {b : Buffer n} (h : b.Receiving) {l : List UInt8} (hl : b.inputEnd + l.length ≤ n) :
    ∃ m, b.receive l = .ok { b with messageBuffer := m } ∧
      (({ b with messageBuffer := m } : Buffer n).commit l.length).Receiving ∧
      (({ b with messageBuffer := m } : Buffer n).commit l.length).received = b.received ++ l ∧
      (({ b with messageBuffer := m } : Buffer n).commit l.length).data = b.data ++ l := by
  have hrec := length_received h.wellFormed
  obtain ⟨⟨h1, h2⟩, h3⟩ := h
  obtain ⟨m, hm, ht⟩ := store_ok (m := b.messageBuffer) (i := b.outputStart) (l := l) (by omega)
  rw [h3] at ht
  have htake : m.toList.take (b.inputEnd + l.length) = b.received ++ l := by
    rw [ht, List.take_left' (by rw [List.length_append]; exact congrArg (· + l.length) hrec)]
    rfl
  refine ⟨m, by rw [receive, hm]; rfl, ⟨⟨?_, ?_⟩, ?_⟩, ?_, ?_⟩
  · show b.inputStart ≤ b.inputEnd + l.length
    omega
  · exact hl
  · show b.outputStart + l.length = b.inputEnd + l.length
    rw [h3]
  · exact htake
  · show (m.toList.take (b.inputEnd + l.length)).drop b.inputStart = _
    rw [htake, List.drop_append_of_le_length (by omega), data_eq_drop_received]

/-- What does not fit the array is stored up to its end and then outside it. -/
theorem receive_error {b : Buffer n} (h : b.Receiving) {l : List UInt8} (hl : n < b.inputEnd + l.length) :
    b.receive l = .error (.outOfBounds n) := by
  have hn := h.wellFormed.2
  have ho := h.outputStart_eq
  rw [receive, store_error (by omega) (by omega)]
  rfl

/-- Reading does not change where the next bytes go. -/
theorem Receiving.leaving {b : Buffer n} (h : b.Receiving) (rest : List UInt8) : (b.leaving rest).Receiving :=
  ⟨⟨Nat.sub_le _ _, h.wellFormed.2⟩, h.outputStart_eq⟩

/-- After the input has been read down to a suffix of it, that suffix is the input. -/
theorem data_leaving {b : Buffer n} (h : b.WellFormed) {used rest : List UInt8} (hd : b.data = used ++ rest) :
    (b.leaving rest).data = rest := by
  have hlen := length_data h
  rw [hd, List.length_append] at hlen
  have hs : b.inputEnd - rest.length = used.length + b.inputStart := by
    have := h.1
    omega
  show (b.messageBuffer.toList.take b.inputEnd).drop (b.inputEnd - rest.length) = rest
  rw [hs, Nat.add_comm, ← List.drop_drop]
  show b.data.drop used.length = rest
  rw [hd, List.drop_left]

/-- All that was received has been read: `k` bytes. -/
structure Drained (b : Buffer n) (k : Nat) : Prop where
  inputStart_eq : b.inputStart = k
  inputEnd_eq : b.inputEnd = k
  outputStart_eq : b.outputStart = k

theorem drained_empty (m : Vector UInt8 n) : ({ messageBuffer := m } : Buffer n).Drained 0 := ⟨rfl, rfl, rfl⟩

/-- The cursors do not depend on what the array holds. -/
theorem Drained.withArray {b : Buffer n} {k : Nat} (h : b.Drained k) (m : Vector UInt8 n) :
    ({ b with messageBuffer := m } : Buffer n).Drained k :=
  ⟨h.inputStart_eq, h.inputEnd_eq, h.outputStart_eq⟩

/-- The next bytes go behind those that have been read. -/
theorem Drained.receiving {b : Buffer n} {k : Nat} (h : b.Drained k) (hk : k ≤ n) : b.Receiving := by
  obtain ⟨h1, h2, h3⟩ := h
  refine ⟨⟨?_, ?_⟩, ?_⟩
  · exact Nat.le_of_eq (h1.trans h2.symm)
  · rwa [h2]
  · rw [h3, h2]

/-- There is no input. -/
theorem Drained.data_eq {b : Buffer n} {k : Nat} (h : b.Drained k) (hk : k ≤ n) : b.data = [] := by
  have hlen := length_data (h.receiving hk).wellFormed
  rw [h.inputStart_eq, h.inputEnd_eq, Nat.sub_self] at hlen
  exact List.eq_nil_of_length_eq_zero hlen

/-- What is left when all the input has been read. -/
theorem Receiving.drained {b : Buffer n} (h : b.Receiving) : (b.leaving []).Drained b.inputEnd :=
  ⟨Nat.sub_zero _, rfl, h.outputStart_eq⟩

@[simp] theorem leaving_messageBuffer (b : Buffer n) (l : List UInt8) :
    (b.leaving l).messageBuffer = b.messageBuffer := rfl

end Buffer

end Mothbus
