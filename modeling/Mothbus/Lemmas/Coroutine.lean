import Mothbus.Examples.Coroutine
import Mothbus.Examples.Transcript

/-!
# The coroutine follows its transcript

A suspended coroutine is at a phase of its loop, with the part of what it waits for that has arrived in its array. Being given some
bytes takes it where the loop gets to by that part and those bytes (`Session.readSome_sees`), and so any run takes it along the
transcript of the bytes that arrive (`Session.run_follows`).
-/

namespace Mothbus.Examples

open ErrorLike (ok failed)
open Tcp

/-! ## Reads under way -/

/-- A read of `size` bytes into the array from `start` on, of which `part` has been stored. -/
structure AwaitedRead.Holds (r : AwaitedRead) (start size : Nat) (part : List UInt8) : Prop where
  drained : r.source.Drained start
  size_eq : r.size = size
  transferred_eq : r.transferred = part.length
  fits : start + part.length ≤ 320
  stored : (r.source.messageBuffer.toList.drop start).take part.length = part

namespace AwaitedRead

variable {r : AwaitedRead} {start size : Nat} {part : List UInt8}

/-- A read that has been started has stored nothing. -/
theorem holds_nil {source : Buffer 320} (h : source.Drained start) (hstart : start ≤ 320) (size : Nat) :
    AwaitedRead.Holds { source, size } start size [] :=
  ⟨h, rfl, rfl, hstart, List.take_zero⟩

/-- The next bytes are stored behind those that are there, as far as the array goes. -/
theorem Holds.store_ok (h : r.Holds start size part) {bytes : List UInt8} (hfit : start + (part ++ bytes).length ≤ 320) :
    ∃ r', r.store bytes = .ok r' ∧ r'.Holds start size (part ++ bytes) := by
  rw [List.length_append] at hfit
  have hindex : r.source.outputStart + r.transferred = start + part.length := by
    rw [h.drained.outputStart_eq, h.transferred_eq]
  obtain ⟨m, hm, ht⟩ := Buffer.store_ok (m := r.source.messageBuffer) (i := start + part.length) (l := bytes) (by omega)
  refine ⟨{ r with source.messageBuffer := m, transferred := r.transferred + bytes.length }, ?_, h.drained.withArray m, h.size_eq,
    ?_, ?_, ?_⟩
  · rw [store, hindex, hm]
    rfl
  · rw [List.length_append, ← h.transferred_eq]
  · rw [List.length_append]
    exact hfit
  · have hlen : start ≤ r.source.messageBuffer.toList.length := by
      rw [Vector.length_toList]
      omega
    show (m.toList.drop start).take (part ++ bytes).length = part ++ bytes
    rw [ht, List.take_add, h.stored, List.append_assoc, List.append_assoc,
      List.drop_left' (by rw [List.length_take]; omega), ← List.append_assoc]
    exact List.take_left

/-- Bytes that do not fit are stored up to the end of the array and then outside it. -/
theorem Holds.store_error (h : r.Holds start size part) {bytes : List UInt8} (hlong : 320 < start + (part ++ bytes).length) :
    r.store bytes = .error (.outOfBounds 320) := by
  rw [List.length_append] at hlong
  have hfits := h.fits
  rw [store, h.drained.outputStart_eq, h.transferred_eq, Buffer.store_error (by omega) (by omega)]
  rfl

/-- When all bytes are there, they are the input of the buffer. -/
theorem Holds.commit (h : r.Holds start size part) (hfull : part.length = size) :
    (r.source.commit r.size).Receiving ∧ (r.source.commit r.size).data = part ∧ (r.source.commit r.size).inputEnd = start + size := by
  have hfits := h.fits
  obtain ⟨hstart, hend, hout⟩ := h.drained
  have hend' : (r.source.commit r.size).inputEnd = start + size := by
    rw [← h.size_eq, ← hend]
    rfl
  refine ⟨⟨⟨?_, ?_⟩, ?_⟩, ?_, hend'⟩
  · rw [hend']
    show r.source.inputStart ≤ _
    omega
  · rw [hend']
    omega
  · rw [hend', ← h.size_eq, ← hout]
    rfl
  · show (r.source.messageBuffer.toList.take (r.source.commit r.size).inputEnd).drop r.source.inputStart = part
    rw [hend', hstart, List.drop_take, Nat.add_sub_cancel_left, ← hfull]
    exact h.stored

end AwaitedRead

namespace Session

/-- The bytes that have arrived at the socket and have not been read. -/
abbrev incoming (s : Session) : List UInt8 := s.stream.nextLayer.incoming

/-- The bytes that have been written to the socket. -/
abbrev outgoing (s : Session) : List UInt8 := s.stream.nextLayer.outgoing

variable {r : AwaitedRead} {start size : Nat} {part : List UInt8}

/-- The bytes that a read is given. -/
def given (s : Session) (k size : Nat) (part : List UInt8) : List UInt8 := s.incoming.take (min k (size - part.length))

/-- A read is not given more than it waits for. -/
theorem length_given_le (s : Session) (k size : Nat) (part : List UInt8) : (s.given k size part).length ≤ size - part.length := by
  rw [given, List.length_take]
  omega

/-- What it is not given stays at the socket. -/
theorem given_append_drop (s : Session) (k size : Nat) (part : List UInt8) :
    s.given k size part ++ s.incoming.drop (s.given k size part).length = s.incoming :=
  List.prefix_iff_eq_append.mp (List.take_prefix _ _)

/-- The bytes that a read is given are stored if they fit the array, and are no longer at the socket. -/
theorem transfer_ok (h : r.Holds start size part) (s : Session) (k : Nat) (hfit : start + (part ++ s.given k size part).length ≤ 320) :
    ∃ r', r'.Holds start size (part ++ s.given k size part) ∧ transfer k r s =
      (.ok r', { s with stream.nextLayer.incoming := s.incoming.drop (s.given k size part).length }) := by
  obtain ⟨r', hstore, hr'⟩ := h.store_ok hfit
  refine ⟨r', hr', ?_⟩
  unfold transfer
  rw [Exec.bind_state, h.size_eq, h.transferred_eq]
  show (Exec.ofExcept (r.store (s.given k size part)) >>= _) s = _
  rw [hstore]
  rfl

/-- If they do not fit, one of them is stored outside the array. -/
theorem transfer_error (h : r.Holds start size part) (s : Session) (k : Nat)
    (hlong : 320 < start + (part ++ s.given k size part).length) : transfer k r s = (.error (.outOfBounds 320), s) := by
  have hstore := h.store_error hlong
  unfold transfer
  rw [Exec.bind_state, h.size_eq, h.transferred_eq]
  show (Exec.ofExcept (r.store (s.given k size part)) >>= _) s = _
  rw [hstore]
  rfl

/-! ## Phases of a coroutine -/

/-- Where a coroutine is in its loop, and the part of what it waits for that it has stored. -/
def Sees (s : Session) (part : List UInt8) : Phase → Prop
  | .header => ∃ r, s.point = .header r ∧ r.Holds 0 MbapHeader.headerSize part ∧ part.length < MbapHeader.headerSize
  | .body h _ => ∃ r, s.point = .body r h ∧ r.Holds MbapHeader.headerSize (h.length.toNat - 1) part ∧ part.length < h.length.toNat - 1
  | .closed => s.point = .returned ∧ part = []
  | .overflowed => False

/-- At the top of its loop a coroutine waits for a header. -/
theorem sees_top {s : Session} {m : Vector UInt8 320} (h : s.point = .top m) : s.Sees [] .header :=
  ⟨_, h, AwaitedRead.holds_nil (Buffer.drained_empty m) (Nat.zero_le 320) MbapHeader.headerSize, by decide⟩

/-- What a step of a coroutine does that takes it to a phase, leaves bytes at the socket and writes responses. -/
structure Reaches (s s' : Session) (phase : Phase) (part rest : List UInt8) (responses : List Response) : Prop where
  sees : s'.Sees part phase
  incoming_eq : s'.incoming = rest
  outgoing_eq : s'.outgoing = s.outgoing ++ responses.flatMap Response.bytes

/-- The header read completes: the coroutine waits for the body, or has answered and is at the top of its loop. -/
theorem afterHeader_reaches {h : MbapHeader} (hr : r.Holds 0 MbapHeader.headerSize h.bytes) (s : Session) :
    ∃ s', afterHeader r s = (.ok (), s') ∧
      s.Reaches s' (Loop.coroutine.afterHeader h).1 [] s.incoming (Loop.coroutine.afterHeader h).2 := by
  obtain ⟨hreceiving, hdata, hend⟩ := hr.commit h.length_bytes
  have hparse := parseHeader_eq h hreceiving.wellFormed hdata
  have hdrained := hreceiving.drained
  rw [hend, Nat.zero_add] at hdrained
  unfold afterHeader
  rw [hparse]
  by_cases hrefuse : ¬(2 ≤ h.length.toNat) ∧ h.length.toNat ≤ 254
  · have hcheck : Loop.coroutine.check h = .refuse .requestTooBig := if_pos hrefuse
    obtain ⟨m, hwrite⟩ := writeExceptionResponse_ok ⟨0⟩ .requestTooBig h.transactionId h.unitId s.stream
    rw [Loop.afterHeader_refuse hcheck]
    simp only [hrefuse, not_false_eq_true, and_self, if_true]
    refine ⟨_, Exec.bind_ok (Exec.within_apply _ hwrite), sees_top rfl, rfl, ?_⟩
    rw [List.flatMap_singleton]
  · have hcheck : Loop.coroutine.check h = .accept := if_neg hrefuse
    have hlen := Loop.coroutine.two_le h hcheck
    rw [Loop.afterHeader_accept hcheck]
    simp only [hrefuse, if_false]
    refine ⟨_, rfl, ⟨_, rfl, AwaitedRead.holds_nil hdrained (by decide) _, ?_⟩, rfl, (List.append_nil _).symm⟩
    show 0 < h.length.toNat - 1
    omega

/-- The body read completes: the coroutine has answered the request and is at the top of its loop, or it has returned. -/
theorem afterBody_reaches {reply : Reply} (hfits : reply.Fits) (indeterminate : UInt8) {h : MbapHeader} {pdu : List UInt8}
    (hr : r.Holds MbapHeader.headerSize (h.length.toNat - 1) pdu) (hfull : pdu.length = h.length.toNat - 1) (s : Session) :
    ∃ s', Session.afterBody indeterminate reply.handler r h s = (.ok (), s') ∧
      s.Reaches s' (Examples.afterBody reply h pdu).1 [] s.incoming (Examples.afterBody reply h pdu).2 := by
  have hroom : h.length.toNat - 1 ≤ 313 := by
    have := hr.fits
    have h7 : MbapHeader.headerSize = 7 := rfl
    omega
  obtain ⟨hreceiving, hdata, -⟩ := hr.commit hfull
  have hparse : parseBody indeterminate r.source r.size newRequest =
      (Server.outcome indeterminate newRequest pdu,
        (r.source.commit r.size).leaving ((readPduReq indeterminate newRequest).run Buffer.input pdu).2) := by
    unfold parseBody
    rw [Buffer.run_source _ hreceiving.wellFormed, hdata]
    rfl
  unfold Session.afterBody
  rw [hparse]
  cases hreq : requestOf pdu with
  | none =>
    have houtcome := outcome_of_nonrequest indeterminate newRequest hreq
    rw [afterBody_undecodable hroom hreq]
    simp only [houtcome, if_true]
    exact ⟨_, rfl, ⟨rfl, rfl⟩, rfl, (List.append_nil _).symm⟩
  | some req =>
    have houtcome := outcome_of_request indeterminate newRequest hreq
    obtain ⟨m, hwrite⟩ := hfits.handler_ok h.transactionId h.unitId req s.stream
    rw [afterBody_request hroom hreq]
    simp only [houtcome, ErrorLike.failed_ok, Bool.false_eq_true, if_false]
    refine ⟨_, Exec.bind_ok (Exec.within_apply _ hwrite), sees_top rfl, rfl, ?_⟩
    rw [List.flatMap_singleton]

/-! ## Steps and runs -/

/-- What a step of a coroutine does: it takes it to a phase, or it stores a byte outside the array. -/
inductive StepsTo (s : Session) : Except Fault Unit × Session → Phase → List UInt8 → List UInt8 → List Response → Prop
  | reaches {s' : Session} {phase : Phase} {part rest : List UInt8} {responses : List Response}
      (h : s.Reaches s' phase part rest responses) : StepsTo s (.ok (), s') phase part rest responses
  | overflows (s' : Session) (part rest : List UInt8) : StepsTo s (.error (.outOfBounds 320), s') .overflowed part rest []

/-- A step from a state that differs in the bytes at the socket. -/
theorem StepsTo.of_incoming {s : Session} {l : List UInt8} {x : Except Fault Unit × Session} {phase : Phase} {part rest : List UInt8}
    {responses : List Response} (h : StepsTo { s with stream.nextLayer.incoming := l } x phase part rest responses) :
    s.StepsTo x phase part rest responses := by
  cases h with
  | reaches h => exact .reaches ⟨h.sees, h.incoming_eq, h.outgoing_eq⟩
  | overflows s' => exact .overflows s' _ _

/-- Seven bytes are the header that is made of them. -/
theorem bytes_ofBytes {l : List UInt8} (h : l.length = MbapHeader.headerSize) : (MbapHeader.ofBytes l).bytes = l := by
  obtain ⟨hdr, tail, rfl⟩ := MbapHeader.exists_bytes (Nat.le_of_eq h.symm)
  rw [List.length_append, hdr.length_bytes] at h
  obtain rfl : tail = [] := List.eq_nil_of_length_eq_zero (by omega)
  rw [List.append_nil, MbapHeader.ofBytes_bytes]

variable {reply : Reply} {s : Session}

/-- While it waits for a header. -/
theorem readSome_header (indeterminate : UInt8) (k : Nat) (h : s.Sees part .header) {bytes : List UInt8}
    (hbytes : bytes = s.given k MbapHeader.headerSize part) :
    s.StepsTo (readSome indeterminate reply.handler k s) ((Loop.coroutine.server reply).drain .header (part ++ bytes)).1
      ((Loop.coroutine.server reply).drain .header (part ++ bytes)).2.1 (s.incoming.drop bytes.length)
      ((Loop.coroutine.server reply).drain .header (part ++ bytes)).2.2 := by
  obtain ⟨r, hpoint, hr, hpart⟩ := h
  have hlen := s.length_given_le k MbapHeader.headerSize part
  have h7 : MbapHeader.headerSize = 7 := rfl
  have htotal : (part ++ bytes).length ≤ MbapHeader.headerSize := by
    rw [List.length_append, hbytes]
    omega
  obtain ⟨r', hr', htransfer⟩ := transfer_ok hr s k (by rw [← hbytes]; omega)
  rw [← hbytes] at hr' htransfer
  have hread : readSome indeterminate reply.handler k s =
      (transfer k r >>= fun r => if r.transferred < r.size then suspend (.header r) else Session.afterHeader r) s := by
    unfold readSome
    rw [Exec.bind_state, hpoint]
  rw [hread, Exec.bind_ok htransfer, hr'.transferred_eq, hr'.size_eq]
  by_cases hmore : (part ++ bytes).length < MbapHeader.headerSize
  · rw [Consumer.drain_waiting rfl hmore, if_pos hmore]
    exact .reaches ⟨⟨r', rfl, hr', hmore⟩, rfl, (List.append_nil _).symm⟩
  · have hfull : (part ++ bytes).length = MbapHeader.headerSize := by omega
    have hhdr := bytes_ofBytes hfull
    rw [← hhdr] at hr'
    obtain ⟨s', hrun, hreaches⟩ := afterHeader_reaches hr' { s with stream.nextLayer.incoming := s.incoming.drop bytes.length }
    rw [if_neg hmore, hrun, Consumer.drain_step rfl (Nat.le_of_eq hfull.symm), List.take_of_length_le (Nat.le_of_eq hfull),
      List.drop_of_length_le (Nat.le_of_eq hfull), (Consumer.settled_nil _ _).drain, Consumer.prepend, List.append_nil]
    exact .of_incoming (.reaches hreaches)

/-- While it waits for a body. -/
theorem readSome_body (hfits : reply.Fits) (indeterminate : UInt8) (k : Nat) {hdr : MbapHeader} {two_le : 2 ≤ hdr.length.toNat}
    (h : s.Sees part (.body hdr two_le)) {bytes : List UInt8} (hbytes : bytes = s.given k (hdr.length.toNat - 1) part) :
    s.StepsTo (readSome indeterminate reply.handler k s) ((Loop.coroutine.server reply).drain (.body hdr two_le) (part ++ bytes)).1
      ((Loop.coroutine.server reply).drain (.body hdr two_le) (part ++ bytes)).2.1 (s.incoming.drop bytes.length)
      ((Loop.coroutine.server reply).drain (.body hdr two_le) (part ++ bytes)).2.2 := by
  obtain ⟨r, hpoint, hr, hpart⟩ := h
  have hlen := s.length_given_le k (hdr.length.toNat - 1) part
  have h7 : MbapHeader.headerSize = 7 := rfl
  have htotal : (part ++ bytes).length ≤ hdr.length.toNat - 1 := by
    rw [List.length_append, hbytes]
    omega
  have hread : readSome indeterminate reply.handler k s =
      (transfer k r >>= fun r =>
        if r.transferred < r.size then suspend (.body r hdr) else Session.afterBody indeterminate reply.handler r hdr) s := by
    unfold readSome
    rw [Exec.bind_state, hpoint]
  rw [hread]
  by_cases hlong : 313 < (part ++ bytes).length
  · have herror := transfer_error hr s k (by rw [← hbytes]; omega)
    have hneed : (Loop.coroutine.server reply).need (.body hdr two_le) = some 314 := Loop.need_body_long (by omega)
    have hstep : (Loop.coroutine.server reply).step (.body hdr two_le) ((part ++ bytes).take 314) = (.overflowed, []) :=
      afterBody_overflow (by omega) _
    rw [Exec.bind_error herror, Consumer.drain_step hneed hlong, hstep, Consumer.drain_stopped rfl]
    exact .overflows s _ _
  · obtain ⟨r', hr', htransfer⟩ := transfer_ok hr s k (by rw [← hbytes]; omega)
    rw [← hbytes] at hr' htransfer
    rw [Exec.bind_ok htransfer, hr'.transferred_eq, hr'.size_eq]
    by_cases hmore : (part ++ bytes).length < hdr.length.toNat - 1
    · have hwait : (part ++ bytes).length < min (hdr.length.toNat - 1) 314 := by omega
      rw [Consumer.drain_waiting rfl hwait, if_pos hmore]
      exact .reaches ⟨⟨r', rfl, hr', hmore⟩, rfl, (List.append_nil _).symm⟩
    · have hfull : (part ++ bytes).length = hdr.length.toNat - 1 := by omega
      have hneed : (Loop.coroutine.server reply).need (.body hdr two_le) = some (hdr.length.toNat - 1) := Loop.need_body (by omega)
      obtain ⟨s', hrun, hreaches⟩ := afterBody_reaches hfits indeterminate hr' hfull
        { s with stream.nextLayer.incoming := s.incoming.drop bytes.length }
      rw [if_neg hmore, hrun, Consumer.drain_step hneed (Nat.le_of_eq hfull.symm), List.take_of_length_le (Nat.le_of_eq hfull),
        List.drop_of_length_le (Nat.le_of_eq hfull), (Consumer.settled_nil _ _).drain, Consumer.prepend, List.append_nil]
      exact .of_incoming (.reaches hreaches)

/-- The socket gives the coroutine some bytes: it gets where its loop gets to by what it has stored and these bytes, or it stores one
of them outside its array. -/
theorem readSome_sees (hfits : reply.Fits) (indeterminate : UInt8) (k : Nat) {phase : Phase} (h : s.Sees part phase)
    {bytes : List UInt8} (hbytes : bytes = s.given k phase.size part) :
    s.StepsTo (readSome indeterminate reply.handler k s) ((Loop.coroutine.server reply).drain phase (part ++ bytes)).1
      ((Loop.coroutine.server reply).drain phase (part ++ bytes)).2.1 (s.incoming.drop bytes.length)
      ((Loop.coroutine.server reply).drain phase (part ++ bytes)).2.2 := by
  cases phase with
  | header => exact readSome_header indeterminate k h hbytes
  | body hdr two_le => exact readSome_body hfits indeterminate k h hbytes
  | overflowed => exact h.elim
  | closed =>
    obtain ⟨hpoint, rfl⟩ := h
    have hlen := s.length_given_le k 0 []
    obtain rfl : bytes = [] := List.eq_nil_of_length_eq_zero (by rw [hbytes]; exact Nat.le_zero.mp hlen)
    have hread : readSome indeterminate reply.handler k s = (.ok (), s) := by
      unfold readSome
      rw [Exec.bind_state, hpoint]
      rfl
    rw [hread, Consumer.drain_stopped rfl]
    exact .reaches ⟨⟨hpoint, rfl⟩, rfl, (List.append_nil _).symm⟩

/-- A coroutine that has come to its state by the bytes that have arrived: whatever arrives next, the transcript is what the coroutine
has written and what its loop makes of the bytes stored, those at the socket, and the new ones. -/
structure Follows (reply : Reply) (s : Session) (arrived : List UInt8) (phase : Phase) (part : List UInt8) (responses : List Response) :
    Prop where
  sees : s.Sees part phase
  outgoing_eq : s.outgoing = responses.flatMap Response.bytes
  transcript_eq : ∀ more, Loop.coroutine.transcript reply (arrived ++ more) =
    Consumer.prepend responses ((Loop.coroutine.server reply).drain phase (part ++ (s.incoming ++ more)))

/-- A coroutine that has been started is at the beginning of its transcript. -/
theorem follows_start (reply : Reply) : Follows reply {} [] .header [] [] :=
  ⟨sees_top rfl, rfl, fun _ => rfl⟩

/-- What a run of a coroutine does: the coroutine is on its transcript, or it has stored a byte outside its array, as the transcript
says. -/
inductive Outcome (reply : Reply) (arrived : List UInt8) : Except Fault Unit × Session → Prop
  | follows {s' : Session} {phase : Phase} {part : List UInt8} {responses : List Response}
      (h : Follows reply s' arrived phase part responses) : Outcome reply arrived (.ok (), s')
  | overflows (s' : Session) (h : ∀ more, (Loop.coroutine.transcript reply (arrived ++ more)).1 = .overflowed) :
      Outcome reply arrived (.error (.outOfBounds 320), s')

variable {arrived : List UInt8} {phase : Phase} {responses : List Response}

/-- Where bytes arrive, the transcript is that of these bytes too. -/
theorem Follows.arrive (h : Follows reply s arrived phase part responses) (bytes : List UInt8) :
    Follows reply { s with stream.nextLayer.incoming := s.incoming ++ bytes } (arrived ++ bytes) phase part responses where
  sees := by
    cases phase <;> exact h.sees
  outgoing_eq := h.outgoing_eq
  transcript_eq more := by
    rw [List.append_assoc, h.transcript_eq, List.append_assoc]

/-- A read takes the coroutine on along its transcript. -/
theorem Follows.readSome (hfits : reply.Fits) (indeterminate : UInt8) (k : Nat) (h : Follows reply s arrived phase part responses) :
    Outcome reply arrived (Session.readSome indeterminate reply.handler k s) := by
  have hstep := readSome_sees hfits indeterminate k h.sees rfl
  have hsplit := s.given_append_drop k phase.size part
  generalize s.given k phase.size part = bytes at hstep hsplit
  have htranscript : ∀ more, Loop.coroutine.transcript reply (arrived ++ more) = _ := fun more => by
    rw [h.transcript_eq more, ← hsplit, List.append_assoc, ← List.append_assoc part, Consumer.drain_append,
      ← Consumer.prepend_append]
  generalize (Loop.coroutine.server reply).drain phase (part ++ bytes) = r at hstep htranscript
  obtain ⟨phase', part', responses'⟩ := r
  generalize Session.readSome indeterminate reply.handler k s = x at hstep
  cases hstep with
  | reaches hreaches =>
    have hout : s.outgoing ++ responses'.flatMap Response.bytes = (responses ++ responses').flatMap Response.bytes := by
      rw [List.flatMap_append, ← h.outgoing_eq]
    refine .follows ⟨hreaches.sees, hreaches.outgoing_eq.trans hout, fun more => ?_⟩
    rw [htranscript more, hreaches.incoming_eq]
  | overflows s' =>
    refine .overflows s' fun more => ?_
    rw [htranscript more, Consumer.drain_stopped rfl]
    rfl

/-- Whatever happens to a coroutine in whatever order, it follows its transcript. -/
theorem run_follows (hfits : reply.Fits) (moves : List Move) (h : Follows reply s arrived phase part responses) :
    Outcome reply (arrived ++ Session.arrived moves) (Session.run reply.handler moves s) := by
  induction moves generalizing s arrived phase part responses with
  | nil =>
    rw [Session.arrived, List.flatMap_nil, List.append_nil]
    exact .follows h
  | cons m moves ih =>
    rw [Session.arrived, List.flatMap_cons, ← List.append_assoc]
    cases m with
    | arrive bytes => exact ih (h.arrive bytes)
    | readSome indeterminate k =>
      have hstep := h.readSome hfits indeterminate k
      rw [List.append_nil]
      rcases hx : Session.readSome indeterminate reply.handler k s with ⟨x, s'⟩
      rw [hx] at hstep
      cases hstep with
      | follows hnext =>
        have hrun : Session.run reply.handler (.readSome indeterminate k :: moves) s = Session.run reply.handler moves s' :=
          Exec.bind_ok hx
        rw [hrun]
        exact ih hnext
      | overflows _ hover =>
        have hrun : Session.run reply.handler (.readSome indeterminate k :: moves) s = (.error (.outOfBounds 320), s') :=
          Exec.bind_error hx
        rw [hrun]
        refine .overflows s' fun more => ?_
        rw [List.append_assoc]
        exact hover _

/-! ## Everything that arrived has been read -/

/-- There is nothing more to read, or nobody reads. -/
def Idle (s : Session) : Prop := s.incoming = [] ∨ s.point = .returned

/-- An idle coroutine has got where its transcript ends, has written all of it and has read all but what it leaves. -/
theorem Follows.idle (h : Follows reply s arrived phase part responses) (hidle : s.Idle) :
    Loop.coroutine.transcript reply arrived = (phase, part ++ s.incoming, responses) ∧ phase ≠ .overflowed := by
  have htranscript := h.transcript_eq []
  rw [List.append_nil, List.append_nil] at htranscript
  have hsettled : (Loop.coroutine.server reply).drain phase (part ++ s.incoming) = (phase, part ++ s.incoming, []) := by
    have hsees := h.sees
    cases phase with
    | overflowed => exact hsees.elim
    | closed => exact Consumer.drain_stopped rfl _
    | header =>
      obtain ⟨r, hpoint, -, hpart⟩ := hsees
      have hin : s.incoming = [] := hidle.resolve_right (by rw [hpoint]; nofun)
      rw [hin, List.append_nil]
      exact Consumer.drain_waiting rfl hpart
    | body hdr two_le =>
      obtain ⟨r, hpoint, hr, hpart⟩ := hsees
      have hin : s.incoming = [] := hidle.resolve_right (by rw [hpoint]; nofun)
      have hroom := hr.fits
      have h7 : MbapHeader.headerSize = 7 := rfl
      rw [hin, List.append_nil]
      exact Consumer.drain_waiting rfl (Nat.lt_min.mpr ⟨hpart, by omega⟩)
  rw [htranscript, hsettled, Consumer.prepend, List.append_nil]
  refine ⟨rfl, ?_⟩
  rintro rfl
  exact h.sees

/-- A coroutine that does not idle reads a byte when it is given one. -/
theorem length_given_one {phase : Phase} (h : s.Sees part phase) (hbusy : ¬s.Idle) : (s.given 1 phase.size part).length = 1 := by
  obtain ⟨hin, hpoint⟩ := not_or.mp hbusy
  have hpos := List.length_pos_iff.mpr hin
  have hwants : part.length < phase.size := by
    cases phase with
    | overflowed => exact h.elim
    | closed => exact absurd h.1 hpoint
    | header =>
      obtain ⟨r, -, -, hpart⟩ := h
      exact hpart
    | body hdr two_le =>
      obtain ⟨r, -, -, hpart⟩ := h
      exact hpart
  rw [given, List.length_take]
  omega

/-- Every coroutine can go on until it idles. -/
theorem Follows.exists_idle (hfits : reply.Fits) (h : Follows reply s arrived phase part responses) :
    ∃ moves, Session.arrived moves = [] ∧ ∀ s', Session.run reply.handler moves s = (.ok (), s') → s'.Idle := by
  generalize hn : s.incoming.length = n
  induction n using Nat.strongRecOn generalizing s phase part responses with
  | _ n ih =>
    by_cases hidle : s.Idle
    · refine ⟨[], rfl, fun s' hs' => ?_⟩
      obtain rfl := (Prod.mk.inj hs').2
      exact hidle
    · have hstep := readSome_sees hfits 0 1 h.sees rfl
      have hnext := h.readSome hfits 0 1
      have hone := length_given_one h.sees hidle
      rcases hx : Session.readSome 0 reply.handler 1 s with ⟨x, s₁⟩
      rw [hx] at hstep hnext
      cases hnext with
      | overflows _ hover =>
        refine ⟨[.readSome 0 1], rfl, fun s' hs' => ?_⟩
        have hrun : Session.run reply.handler [.readSome 0 1] s = (.error (.outOfBounds 320), s₁) := Exec.bind_error hx
        rw [hrun] at hs'
        nomatch hs'
      | follows hfollows =>
        have hless : s₁.incoming.length < n := by
          have hpos := List.length_pos_iff.mpr (not_or.mp hidle).1
          generalize (Loop.coroutine.server reply).drain phase (part ++ s.given 1 phase.size part) = r at hstep
          obtain ⟨phase', part', responses'⟩ := r
          cases hstep with
          | reaches hreaches =>
            rw [hreaches.incoming_eq, List.length_drop, hone]
            omega
        obtain ⟨moves, harrived, hmoves⟩ := ih _ hless hfollows rfl
        have hrun : Session.run reply.handler (.readSome 0 1 :: moves) s = Session.run reply.handler moves s₁ := Exec.bind_ok hx
        exact ⟨.readSome 0 1 :: moves, harrived, fun s' hs' => hmoves s' (hrun.symm.trans hs')⟩

theorem run_append (handler : RequestHandler) (moves moves' : List Move) :
    Session.run handler (moves ++ moves') = Session.run handler moves >>= fun _ => Session.run handler moves' :=
  List.forM_append

theorem arrived_append (moves moves' : List Move) : Session.arrived (moves ++ moves') = Session.arrived moves ++ Session.arrived moves' :=
  List.flatMap_append

end Session

end Mothbus.Examples
