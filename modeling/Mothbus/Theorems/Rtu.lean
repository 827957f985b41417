import Mothbus.Lemmas.RtuClient
import Mothbus.Library.FramedRun

/-!
# What the RTU client accepts, where it stores what it receives, and what it leaves on the line

The checksum is compared over as many bytes as the decoder happened to read, with the two bytes after them, and whether there are
exactly two is not looked at: a frame with bytes behind the two, or one too short to have them, can be accepted. The loop that
gathers a frame has no bound either: what does not fit the array is stored outside it. And a frame of another slave is left on the
line after its first byte: the loop that would take it off comes after the exit.
-/

namespace Mothbus.Rtu

open ErrorLike (ok failed)
open ReadProgram

variable {α : Type} [PduRead α]

/-! ## Acceptance -/

/-- What is to hold of the bytes received when a call ends without an error: they are `f` and two bytes more, `f` starts with the
slave id, the two are the checksum of `f`, and the decoder read `f` to its end and no further. -/
def IsWholeFrame (indeterminate : Indeterminate) (expectedSlave : UInt8) (out : α) (received : List UInt8) : Prop :=
  ∃ (read : List UInt8) (lo hi : UInt8), received = (expectedSlave :: read) ++ [lo, hi] ∧
    [lo, hi] = crcBytes (expectedSlave :: read) ∧
    (Stream.decode indeterminate out (read ++ [lo, hi])).2 = [lo, hi]

/-- A call accepts nothing but whole frames. -/
def AcceptsWholeFrames (indeterminate : Indeterminate) (expectedSlave : UInt8) (out : α) (s : Stream) : Prop :=
  ∀ ec out' s', Stream.receiveResponse indeterminate expectedSlave out s = (.ok (ec, out'), s') → failed ec = false →
    IsWholeFrame indeterminate expectedSlave out (frameBytes s.line)

/-- The frames whose end is misjudged: the decoder leaves a number of bytes other than two, and the two bytes compared, those left
or the indeterminate ones in their place, match all the same. -/
def EndMisjudged (indeterminate : Indeterminate) (expectedSlave : UInt8) (out : α) (received : List UInt8) : Prop :=
  ∃ read left : List UInt8, received = expectedSlave :: (read ++ left) ∧ received.length ≤ 320 ∧
    (Stream.decode indeterminate out (read ++ left)).2 = left ∧ left.length ≠ 2 ∧
    Stream.crcMatches indeterminate (expectedSlave :: read) left

/-- A frame whose bytes match is accepted, however many bytes the decoder leaves. -/
theorem receiveResponse_matching (indeterminate : Indeterminate) {expectedSlave : UInt8} (out : α) (hslave : expectedSlave ≠ 0)
    {s : Stream} {read left : List UInt8} (hframe : frameBytes s.line = expectedSlave :: (read ++ left))
    (hfit : (frameBytes s.line).length ≤ 320) (hleft : (Stream.decode indeterminate out (read ++ left)).2 = left)
    (hcrc : Stream.crcMatches indeterminate (expectedSlave :: read) left) :
    ∃ s', Stream.receiveResponse indeterminate expectedSlave out s =
      (.ok (ok, (Stream.decode indeterminate out (read ++ left)).1.2), s') := by
  obtain ⟨line, hline, hbody⟩ := frameBytes_eq_cons hframe
  rw [hframe, List.length_cons, ← hbody] at hfit
  obtain ⟨m, hrun⟩ := Stream.receiveResponse_frame indeterminate out hslave hline (by omega)
  have hverdict : Stream.verdict indeterminate expectedSlave out (frameBytes line) =
      (ok, (Stream.decode indeterminate out (read ++ left)).1.2) := by
    rw [hbody, Stream.verdict_eq (Prod.ext rfl hleft), if_pos hcrc]
  rw [hverdict] at hrun
  exact ⟨_, hrun⟩

/-- What is accepted starts with the slave id and fits the array, and the bytes compared match. -/
theorem receiveResponse_accepted (indeterminate : Indeterminate) {expectedSlave : UInt8} (out : α) (hslave : expectedSlave ≠ 0)
    {s s' : Stream} {ec : ErrorCode} {out' : α}
    (hrun : Stream.receiveResponse indeterminate expectedSlave out s = (.ok (ec, out'), s')) (hok : failed ec = false) :
    ∃ read left, frameBytes s.line = expectedSlave :: (read ++ left) ∧ (frameBytes s.line).length ≤ 320 ∧
      (Stream.decode indeterminate out (read ++ left)).2 = left ∧
      Stream.crcMatches indeterminate (expectedSlave :: read) left := by
  rcases Stream.receiveResponse_cases indeterminate out hslave s with
    ⟨f, s₁, hfault⟩ | ⟨c, s₁, hbad, hcall⟩ | ⟨body, m, hframe, hfit, hcall⟩
  · rw [hfault] at hrun
    cases hrun
  · rw [hcall] at hrun
    cases hrun
    exact absurd (hok.symm.trans hbad) (by decide)
  · rw [hcall] at hrun
    have hverdict : Stream.verdict indeterminate expectedSlave out body = (ec, out') :=
      Except.ok.inj (congrArg Prod.fst hrun)
    have hsum : Stream.ChecksumPasses indeterminate expectedSlave out body := by
      rw [← Stream.failed_verdict_iff, hverdict]
      exact hok
    have hsplit := Stream.take_append_decode indeterminate out body
    refine ⟨body.take (body.length - (Stream.decode indeterminate out body).2.length),
      (Stream.decode indeterminate out body).2, ?_, ?_, ?_, hsum⟩
    · rw [hsplit, hframe]
    · rw [hframe, List.length_cons, Nat.add_comm]
      exact hfit
    · rw [hsplit]

/-- A call accepts nothing but whole frames, on every line but one that delivers a frame whose end is misjudged. -/
theorem receiveResponse_acceptsWholeFrames_iff (indeterminate : Indeterminate) (expectedSlave : UInt8) (out : α) (s : Stream)
    (hslave : expectedSlave ≠ 0) :
    AcceptsWholeFrames indeterminate expectedSlave out s ↔
      ¬EndMisjudged indeterminate expectedSlave out (frameBytes s.line) := by
  constructor
  · rintro hsound ⟨read, left, hframe, hfit, hleft, hlen, hcrc⟩
    obtain ⟨s', hrun⟩ := receiveResponse_matching indeterminate out hslave hframe hfit hleft hcrc
    obtain ⟨read', lo, hi, hframe', -, hleft'⟩ := hsound ok _ s' hrun rfl
    have hbody : read ++ left = read' ++ [lo, hi] := (List.cons.inj (hframe.symm.trans hframe')).2
    rw [← hbody, hleft] at hleft'
    exact hlen (by rw [hleft']; rfl)
  · intro hend ec out' s' hrun hok
    obtain ⟨read, left, hframe, hfit, hleft, hcrc⟩ := receiveResponse_accepted indeterminate out hslave hrun hok
    have hlen : left.length = 2 := by
      by_contra hne
      exact hend ⟨read, left, hframe, hfit, hleft, hne, hcrc⟩
    obtain ⟨lo, hi, rfl⟩ := List.length_eq_two.mp hlen
    exact ⟨read, lo, hi, hframe, hcrc, hleft⟩

/-- The answer with exception 2 to a read of registers, and a byte behind its checksum. -/
def trailingByteLine : List LineEvent := (frame 1 [0x83, 0x02] ++ [0x00]).map .byte

/-- A frame with a byte behind its checksum is accepted. -/
theorem trailingByte_accepted :
    ¬AcceptsWholeFrames ⟨0, 0, 0, 0⟩ 1 (ReadHoldingPduResp.new (.ofData [0, 0])) { line := trailingByteLine } := by
  intro hsound
  have hframe : frameBytes trailingByteLine = 1 :: ([0x83, 0x02] ++ (crcBytes [1, 0x83, 0x02] ++ [0x00])) :=
    frameBytes_map_byte _
  obtain ⟨s', hrun⟩ := receiveResponse_matching ⟨0, 0, 0, 0⟩ (ReadHoldingPduResp.new (.ofData [0, 0]))
    (by decide) (s := { line := trailingByteLine }) hframe (by rw [hframe]; decide) rfl rfl
  obtain ⟨read, lo, hi, hframe', -, hleft⟩ := hsound ok _ s' hrun rfl
  have hbody : [0x83, 0x02] ++ (crcBytes [1, 0x83, 0x02] ++ [0x00]) = read ++ [lo, hi] :=
    (List.cons.inj (hframe.symm.trans hframe')).2
  rw [← hbody] at hleft
  cases hleft

/-- The answer with one register, as it is to arrive. -/
def wholeFrameLine : List LineEvent := (frame 1 [0x03, 2, 0, 7]).map .byte

theorem receiveResponse_acceptsWholeFrames_oneRegister :
    AcceptsWholeFrames ⟨0, 0, 0, 0⟩ 1 (ReadHoldingPduResp.new (.ofData [0, 0])) { line := wholeFrameLine } ↔
      ¬EndMisjudged ⟨0, 0, 0, 0⟩ 1 (ReadHoldingPduResp.new (.ofData [0, 0])) (frameBytes wholeFrameLine) :=
  receiveResponse_acceptsWholeFrames_iff ⟨0, 0, 0, 0⟩ 1 (ReadHoldingPduResp.new (.ofData [0, 0])) { line := wholeFrameLine }
    (by decide)

/-! ## The array -/

/-- A call stores every byte it receives within the array. -/
def StaysInArray (indeterminate : Indeterminate) (expectedSlave : UInt8) (out : α) (s : Stream) : Prop :=
  ∀ i, (Stream.receiveResponse indeterminate expectedSlave out s).1 ≠ .error (.outOfBounds i)

/-- A frame for the expected slave of more than 320 bytes is stored over the end of the array. -/
theorem not_staysInArray_of_long (indeterminate : Indeterminate) {expectedSlave : UInt8} (out : α) (hslave : expectedSlave ≠ 0)
    {s : Stream} {body : List UInt8} (hframe : frameBytes s.line = expectedSlave :: body) (hlong : 320 < (frameBytes s.line).length) :
    ¬StaysInArray indeterminate expectedSlave out s := by
  intro hstays
  obtain ⟨line, hline, hbody⟩ := frameBytes_eq_cons hframe
  rw [hframe, List.length_cons, ← hbody] at hlong
  obtain ⟨n, s', hrun, -⟩ := Stream.receiveResponse_full indeterminate out hslave hline (by omega)
  exact hstays 320 (by rw [hrun])

/-- A call stores every byte it receives within the array exactly when it is a broadcast, or the line does not deliver the expected
slave id first, or no more than 320 bytes arrive without a gap. -/
theorem receiveResponse_staysInArray_iff (indeterminate : Indeterminate) (expectedSlave : UInt8) (out : α) (s : Stream) :
    StaysInArray indeterminate expectedSlave out s ↔
      expectedSlave = 0 ∨ (frameBytes s.line).head? ≠ some expectedSlave ∨ (frameBytes s.line).length ≤ 320 := by
  by_cases hslave : expectedSlave = 0
  · have hrun : Stream.receiveResponse indeterminate expectedSlave out s = (.ok (ok, out), s) := by
      unfold Stream.receiveResponse
      rw [if_pos hslave]
      rfl
    refine ⟨fun _ => Or.inl hslave, fun _ i => ?_⟩
    rw [hrun]
    exact nofun
  · rcases hf : frameBytes s.line with _ | ⟨b, body⟩
    · refine ⟨fun _ => Or.inr (Or.inl nofun), fun _ i => ?_⟩
      rw [Stream.receiveResponse_silence indeterminate out hslave hf]
      exact nofun
    · obtain ⟨line, hline, hbody⟩ := frameBytes_eq_cons hf
      by_cases hb : b = expectedSlave
      · subst hb
        constructor
        · intro hstays
          by_contra hlong
          have hlen : 320 < (frameBytes s.line).length := by
            rw [hf]
            exact Nat.lt_of_not_le fun h => hlong (Or.inr (Or.inr h))
          exact not_staysInArray_of_long indeterminate out hslave hf hlen hstays
        · rintro (h | h | h) i
          · exact absurd h hslave
          · exact absurd rfl h
          · rw [List.length_cons, ← hbody] at h
            obtain ⟨m, hrun⟩ := Stream.receiveResponse_frame indeterminate out hslave hline (by omega)
            rw [hrun]
            exact nofun
      · refine ⟨fun _ => Or.inr (Or.inl fun h => hb (Option.some.inj h)), fun _ i => ?_⟩
        obtain ⟨m, hrun⟩ := Stream.receiveResponse_foreign indeterminate out hslave hline hb
        rw [hrun]
        exact nofun

/-- A line that keeps sending for 321 bytes. -/
def babblingLine : List LineEvent := (List.replicate 321 1).map .byte

/-- The last of these bytes is stored outside the array. -/
theorem babbling_leavesArray :
    ¬StaysInArray ⟨0, 0, 0, 0⟩ 1 (ReadHoldingPduResp.new (.ofData [0, 0])) { line := babblingLine } := by
  have hframe : frameBytes babblingLine = List.replicate 321 1 := frameBytes_map_byte _
  refine not_staysInArray_of_long _ _ (by decide) (hframe.trans List.replicate_succ) ?_
  show 320 < (frameBytes babblingLine).length
  rw [hframe, List.length_replicate]
  decide

/-! ## The line -/

/-- What the line delivers to one exchange: the bytes of a frame, or none, and the expiry of the timer that is then waited for. -/
def delivery (bytes : List UInt8) : List LineEvent := bytes.map .byte ++ [.timeout]

/-- The frame that is delivered is these bytes. -/
theorem frameBytes_delivery (bytes : List UInt8) (tail : List LineEvent) : frameBytes (delivery bytes ++ tail) = bytes := by
  induction bytes with
  | nil => rfl
  | cons b bytes ih => exact congrArg (b :: ·) ih

/-- What follows the expiry of the timer is left. -/
theorem afterFrame_delivery (bytes : List UInt8) (tail : List LineEvent) : afterFrame (delivery bytes ++ tail) = tail := by
  induction bytes with
  | nil => rfl
  | cons b bytes ih => exact ih

/-- A delivery is its bytes and the expiry. -/
theorem length_delivery_append (bytes : List UInt8) (tail : List LineEvent) :
    (delivery bytes ++ tail).length = bytes.length + 1 + tail.length := by
  rw [delivery, List.length_append, List.length_append, List.length_map, List.length_singleton]

section

variable (indeterminate : Indeterminate) {expectedSlave : UInt8} (out : α) (hslave : expectedSlave ≠ 0) {s : Stream} {b : UInt8}
  {body : List UInt8} {tail : List LineEvent}
include hslave

/-- Of a delivery of nothing a call takes the timeout. -/
theorem line_silence (hs : s.line = delivery [] ++ tail) :
    (Stream.receiveResponse indeterminate expectedSlave out s).2.line = tail := by
  have hframe : frameBytes s.line = [] := by
    rw [hs]
    exact frameBytes_delivery [] tail
  rw [Stream.receiveResponse_silence indeterminate out hslave hframe, hs]
  exact afterFrame_delivery [] tail

/-- A frame of the slave that fits the array is taken with its timeout. -/
theorem line_frame (hs : s.line = delivery (expectedSlave :: body) ++ tail) (hfit : 1 + body.length ≤ 320) :
    (Stream.receiveResponse indeterminate expectedSlave out s).2.line = tail := by
  have hfirst : s.line = .byte expectedSlave :: (delivery body ++ tail) := hs
  have hbody : frameBytes (delivery body ++ tail) = body := frameBytes_delivery body tail
  obtain ⟨m, hrun⟩ := Stream.receiveResponse_frame indeterminate out hslave hfirst (by rw [hbody]; exact hfit)
  rw [hrun]
  exact afterFrame_delivery body tail

/-- Of a frame of the slave that does not fit the array something is left. -/
theorem line_full (hs : s.line = delivery (expectedSlave :: body) ++ tail) (hlong : 320 < 1 + body.length) :
    tail.length < (Stream.receiveResponse indeterminate expectedSlave out s).2.line.length := by
  have hfirst : s.line = .byte expectedSlave :: (delivery body ++ tail) := hs
  have hbody : frameBytes (delivery body ++ tail) = body := frameBytes_delivery body tail
  obtain ⟨n, s', hrun, hn, hleft⟩ :=
    Stream.receiveResponse_full indeterminate out hslave hfirst (by rw [hbody]; exact hlong)
  rw [hbody] at hn
  rw [hrun, hleft, List.length_drop, length_delivery_append]
  omega

/-- Of a frame of another slave all but the first byte is left. -/
theorem line_foreign (hs : s.line = delivery (b :: body) ++ tail) (hb : b ≠ expectedSlave) :
    tail.length < (Stream.receiveResponse indeterminate expectedSlave out s).2.line.length := by
  have hfirst : s.line = .byte b :: (delivery body ++ tail) := hs
  obtain ⟨m, hrun⟩ := Stream.receiveResponse_foreign indeterminate out hslave hfirst hb
  rw [hrun, length_delivery_append]
  omega

end

/-- An exchange on a line: a request that can be sent, not as a broadcast, and the object its response is read into. -/
structure Exchange where
  slave : UInt8
  slave_ne : slave ≠ 0
  kind : RequestKind
  request : kind.Pdu
  asserts : PduWrite.asserts request = true
  request_length : (PduWrite.write request).length ≤ 317
  expected : ResponseKind
  out : expected.Pdu
  indeterminate : Indeterminate

namespace Exchange

/-- The request is sent and the response is read. -/
def run (e : Exchange) : Exec Fault Stream (ErrorCode × e.expected.Pdu) := do
  let transactionId ← Stream.writeRequest e.slave e.request
  Stream.readResponse e.indeterminate transactionId e.slave e.out

/-- The stream after the exchange, whatever it returned. -/
def step (i : Exchange × List UInt8) (s : Stream) : Stream := (i.1.run s).2

/-- What the line delivers to the exchange. -/
def unit (i : Exchange × List UInt8) : List LineEvent := delivery i.2

/-- The exchange receives nothing, or a frame that starts with the expected slave id and fits the array. -/
def Drains (e : Exchange) (bytes : List UInt8) : Prop := bytes = [] ∨ bytes.head? = some e.slave ∧ bytes.length ≤ 320

/-- Sending the request leaves the line as it is. -/
theorem step_eq (i : Exchange × List UInt8) (s : Stream) :
    ∃ s', s'.line = s.line ∧ step i s = (Stream.receiveResponse i.1.indeterminate i.1.slave i.1.out s').2 := by
  obtain ⟨m, hwrite⟩ := Stream.writeRequest_ok i.1.slave s i.1.asserts i.1.request_length
  refine ⟨{ s with
    messageBuffer := m, sent := s.sent ++ frame i.1.slave (PduWrite.write i.1.request), transactionId := s.transactionId + 1 },
    rfl, ?_⟩
  unfold step run
  rw [Exec.bind_ok hwrite]
  rfl

/-- An exchange takes exactly what the line delivers to it off the line if and only if that is nothing, or a frame of the
expected slave that fits the array. -/
theorem step_drains_iff (s : Stream) (i : Exchange × List UInt8) (tail : List LineEvent) (hs : s.line = unit i ++ tail) :
    (step i s).line = tail ↔ i.1.Drains i.2 := by
  obtain ⟨e, bytes⟩ := i
  obtain ⟨s', hline, hstep⟩ := step_eq (e, bytes) s
  have hs' : s'.line = delivery bytes ++ tail := hline.trans hs
  rw [hstep]
  rcases bytes with _ | ⟨b, body⟩
  · exact ⟨fun _ => Or.inl rfl, fun _ => line_silence e.indeterminate e.out e.slave_ne hs'⟩
  by_cases hb : b = e.slave
  · subst hb
    by_cases hfit : 1 + body.length ≤ 320
    · refine ⟨fun _ => Or.inr ⟨rfl, ?_⟩, fun _ => line_frame e.indeterminate e.out e.slave_ne hs' hfit⟩
      rw [List.length_cons, Nat.add_comm]
      exact hfit
    · have hmore := line_full e.indeterminate e.out e.slave_ne hs' (by omega)
      constructor
      · intro h
        rw [h] at hmore
        exact absurd hmore (Nat.lt_irrefl _)
      · rintro (h | ⟨-, h⟩)
        · cases h
        · rw [List.length_cons] at h
          omega
  · have hmore := line_foreign e.indeterminate e.out e.slave_ne hs' hb
    constructor
    · intro h
      rw [h] at hmore
      exact absurd hmore (Nat.lt_irrefl _)
    · rintro (h | ⟨h, -⟩)
      · cases h
      · exact absurd (Option.some.inj h) hb

/-- The exchanges of a run stay aligned with the frames on the line if and only if each of them receives nothing, or a frame of the
slave it is with that fits the array. -/
theorem run_drains_iff (l : List (Exchange × List UInt8)) (rest : List LineEvent) (s : Stream)
    (hs : s.line = l.flatMap unit ++ rest) :
    FramedRun.Aligned step Stream.line unit s l rest ↔ ∀ i ∈ l, i.1.Drains i.2 := by
  rw [FramedRun.aligned_iff (fun _ i => i.1.Drains i.2) step_drains_iff l s hs]
  constructor
  · intro h i hi
    obtain ⟨done, todo, hl⟩ := List.append_of_mem hi
    exact h done i todo hl
  · intro h done i todo hl
    exact h i (by rw [hl]; exact List.mem_append_right done List.mem_cons_self)

/-- Slave 1 is not the broadcast address. -/
theorem slave_one_ne_zero : (1 : UInt8) ≠ 0 := by decide

/-- A read of one register of slave 1. -/
def readOneRegister : Exchange where
  slave := 1
  slave_ne := slave_one_ne_zero
  kind := .readHolding
  request := ({ startingAddress := 0, quantityOfRegisters := 1 } : ReadHoldingPduReq)
  asserts := rfl
  request_length := by decide
  expected := .readHolding
  out := ReadHoldingPduResp.new (.ofData [0, 0])
  indeterminate := ⟨0, 0, 0, 0⟩

end Exchange

/-- A frame of slave 2 is left on the line after its first byte, and the next exchange takes the rest of it for its response. -/
theorem foreignFrame_leftOver :
    ¬FramedRun.Aligned Exchange.step Stream.line Exchange.unit
      { line := delivery (frame 2 [0x03, 2, 0, 7]) ++ delivery (frame 1 [0x03, 2, 0, 7]) }
      [(.readOneRegister, frame 2 [0x03, 2, 0, 7]), (.readOneRegister, frame 1 [0x03, 2, 0, 7])] [] := by
  intro haligned
  have hread := haligned [(.readOneRegister, frame 2 [0x03, 2, 0, 7])] [(.readOneRegister, frame 1 [0x03, 2, 0, 7])] rfl
  have hdrains := (Exchange.step_drains_iff
    { line := delivery (frame 2 [0x03, 2, 0, 7]) ++ delivery (frame 1 [0x03, 2, 0, 7]) }
    (.readOneRegister, frame 2 [0x03, 2, 0, 7]) (delivery (frame 1 [0x03, 2, 0, 7])) rfl).mp hread
  rcases hdrains with h | ⟨h, -⟩
  · cases h
  · exact absurd (Option.some.inj h) (by decide)

theorem run_drains_oneRegister :
    FramedRun.Aligned Exchange.step Stream.line Exchange.unit { line := delivery (frame 1 [0x03, 2, 0, 7]) }
      [(.readOneRegister, frame 1 [0x03, 2, 0, 7])] [] ↔
      ∀ i ∈ [(Exchange.readOneRegister, frame 1 [0x03, 2, 0, 7])], i.1.Drains i.2 :=
  Exchange.run_drains_iff [(.readOneRegister, frame 1 [0x03, 2, 0, 7])] [] { line := delivery (frame 1 [0x03, 2, 0, 7]) } rfl

end Mothbus.Rtu
