import Mothbus.Lemmas.Coroutine
import Mothbus.Lemmas.EndOfInput

/-!
# What the coroutine servers answer

However the bytes of a client arrive and are handed to the coroutine, what the coroutine writes is determined by the bytes: its
transcript. From it follows what the servers answer to units, when they fall silent, and when they leave their array.
-/

namespace Mothbus.Examples

open Tcp

/-- In any run of the coroutine with a handler: what it has written is the beginning of a transcript of the bytes that arrived, all of it
once everything has been read; only where the transcript leaves the array does the coroutine do so; and there are always reads by which
it goes on until everything has been read, or until the fault, where the transcript leaves the array. -/
structure AnswersItsTranscript (handler : RequestHandler) (reply : Reply) : Prop where
  sound : ∀ moves s, Session.run handler moves {} = (.ok (), s) →
    ∃ responses, responses <+: (Loop.coroutine.transcript reply (Session.arrived moves)).2.2 ∧
      s.outgoing = responses.flatMap Response.bytes
  complete : ∀ moves s, Session.run handler moves {} = (.ok (), s) → s.Idle →
    s.outgoing = (Loop.coroutine.transcript reply (Session.arrived moves)).2.2.flatMap Response.bytes ∧
      (s.point = .returned ↔ (Loop.coroutine.transcript reply (Session.arrived moves)).1 = .closed) ∧
      (Loop.coroutine.transcript reply (Session.arrived moves)).1 ≠ .overflowed
  fault : ∀ moves f s, Session.run handler moves {} = (.error f, s) →
    f = .outOfBounds 320 ∧ (Loop.coroutine.transcript reply (Session.arrived moves)).1 = .overflowed
  progress : ∀ moves s, Session.run handler moves {} = (.ok (), s) →
    ∃ more, Session.arrived more = [] ∧ ∀ s', Session.run handler (moves ++ more) {} = (.ok (), s') → s'.Idle

/-- A coroutine has returned exactly in the phase that is closed. -/
theorem Session.sees_returned_iff {s : Session} {part : List UInt8} {phase : Phase} (h : s.Sees part phase) :
    s.point = .returned ↔ phase = .closed := by
  cases phase with
  | closed => exact ⟨fun _ => rfl, fun _ => h.1⟩
  | overflowed => exact h.elim
  | header =>
    obtain ⟨r, hpoint, -⟩ := h
    rw [hpoint]
    exact ⟨nofun, nofun⟩
  | body hdr two_le =>
    obtain ⟨r, hpoint, -⟩ := h
    rw [hpoint]
    exact ⟨nofun, nofun⟩

/-- The beginning of the transcript that a coroutine has written. -/
theorem Session.Follows.responses_prefix {reply : Reply} {s : Session} {arrived part : List UInt8} {phase : Phase}
    {responses : List Response} (h : Session.Follows reply s arrived phase part responses) :
    responses <+: (Loop.coroutine.transcript reply arrived).2.2 := by
  have htranscript := h.transcript_eq []
  rw [List.append_nil] at htranscript
  rw [htranscript]
  exact List.prefix_append _ _

/-- A run that is not over is on its transcript. -/
theorem Session.follows_of_run {reply : Reply} (hfits : reply.Fits) {moves : List Session.Move} {s : Session}
    (hrun : Session.run reply.handler moves {} = (.ok (), s)) :
    ∃ phase part responses, Session.Follows reply s (Session.arrived moves) phase part responses := by
  have hout := Session.run_follows hfits moves (Session.follows_start reply)
  rw [hrun, List.nil_append] at hout
  cases hout with
  | follows h => exact ⟨_, _, _, h⟩

/-- A coroutine whose replies fit the array answers its transcript. -/
theorem answersItsTranscript_of_fits {reply : Reply} (hfits : reply.Fits) : AnswersItsTranscript reply.handler reply where
  sound moves s hrun := by
    obtain ⟨phase, part, responses, h⟩ := Session.follows_of_run hfits hrun
    exact ⟨responses, h.responses_prefix, h.outgoing_eq⟩
  complete moves s hrun hidle := by
    obtain ⟨phase, part, responses, h⟩ := Session.follows_of_run hfits hrun
    obtain ⟨htranscript, hin⟩ := h.idle hidle
    rw [htranscript]
    exact ⟨h.outgoing_eq, Session.sees_returned_iff h.sees, hin⟩
  fault moves f s hrun := by
    have hout := Session.run_follows hfits moves (Session.follows_start reply)
    rw [hrun, List.nil_append] at hout
    cases hout with
    | overflows s' h =>
      have hover := h []
      rw [List.append_nil] at hover
      exact ⟨rfl, hover⟩
  progress moves s hrun := by
    obtain ⟨phase, part, responses, h⟩ := Session.follows_of_run hfits hrun
    obtain ⟨more, harrived, hmore⟩ := h.exists_idle hfits
    refine ⟨more, harrived, fun s' hs' => hmore s' ?_⟩
    rw [Session.run_append, Exec.bind_ok hrun] at hs'
    exact hs'

/-- The coroutine servers answer their transcript: the one with registers, on a host of either byte order, as long as the registers
stay as they are, and the one without. -/
theorem coroutines_answerTheirTranscript (native : Endian) (registers : List UInt16) :
    AnswersItsTranscript (registerHandler native registers) (registerReply registers) ∧ AnswersItsTranscript zeroHandler zeroReply := by
  rw [registerHandler_eq, zeroHandler_eq]
  exact ⟨answersItsTranscript_of_fits (registerReply_fits registers), answersItsTranscript_of_fits zeroReply_fits⟩

/-- Whatever arrives, a coroutine that answers its transcript ends a run without a fault if the transcript stays in the array. -/
theorem AnswersItsTranscript.run_ok {handler : RequestHandler} {reply : Reply} (h : AnswersItsTranscript handler reply)
    {moves : List Session.Move} (hin : (Loop.coroutine.transcript reply (Session.arrived moves)).1 ≠ .overflowed) :
    ∃ s, Session.run handler moves {} = (.ok (), s) := by
  rcases hrun : Session.run handler moves {} with ⟨f | u, s⟩
  · exact absurd (h.fault moves f s hrun).2 hin
  · exact ⟨s, rfl⟩

/-- Any bytes can arrive and be read, to the end or to a fault. -/
theorem AnswersItsTranscript.exists_run {handler : RequestHandler} {reply : Reply} (h : AnswersItsTranscript handler reply)
    (bytes : List UInt8) :
    ∃ moves, Session.arrived moves = bytes ∧
      ((∃ s, Session.run handler moves {} = (.ok (), s) ∧ s.Idle) ∨
        ∃ s, Session.run handler moves {} = (.error (.outOfBounds 320), s)) := by
  obtain ⟨more, hmore, hidle⟩ := h.progress [.arrive bytes] _ rfl
  refine ⟨[.arrive bytes] ++ more, ?_, ?_⟩
  · rw [Session.arrived_append, hmore, List.append_nil]
    exact List.append_nil bytes
  · rcases hrun : Session.run handler ([.arrive bytes] ++ more) {} with ⟨f | u, s⟩
    · obtain ⟨rfl, -⟩ := h.fault _ f s hrun
      exact Or.inr ⟨s, hrun⟩
    · exact Or.inl ⟨s, hrun, hidle s hrun⟩

/-! ## Units -/

/-- A request of none of the nine types. -/
def UnknownFunction (pdu : List UInt8) : Prop := ∃ c rest, pdu = c :: rest ∧ ∀ k : RequestKind, (PduRead.fc k.Pdu).value ≠ c

/-- The units that are no requests have a function code that is not supported, or they are too short for their function. -/
theorem not_isRequest_iff (a : Adu) : ¬IsRequest a ↔ UnknownFunction a.pdu ∨ EndsEarly a.pdu := by
  constructor
  · intro hnot
    rw [IsRequest, Bool.not_eq_true, Option.isSome_eq_false_iff, Option.isNone_iff_eq_none] at hnot
    have houtcome := outcome_of_nonrequest 0 newRequest hnot
    rcases hpdu : a.pdu with _ | ⟨c, l⟩
    · exact Or.inr (Or.inl rfl)
    by_cases hc : ∃ k : RequestKind, (PduRead.fc k.Pdu).value = c
    · obtain ⟨k, rfl⟩ := hc
      refine Or.inr (Or.inr ⟨k, l, rfl, Nat.lt_of_not_le fun hle => ?_⟩)
      rw [hpdu, Server.outcome, readPduReq_supported, if_pos hle] at houtcome
      cases houtcome
    · exact Or.inl ⟨c, l, rfl, fun k hk => hc ⟨k, hk⟩⟩
  · intro hpdu hsome
    obtain ⟨req, hreq⟩ := Option.isSome_iff_exists.mp hsome
    have houtcome := outcome_of_request 0 newRequest hreq
    rcases hpdu with ⟨c, l, hpdu, hc⟩ | hearly
    · rw [hpdu, Server.outcome, readPduReq_unsupported 0 _ hc] at houtcome
      exact absurd (Prod.mk.inj houtcome).1 (by decide)
    · rw [Server.outcome, readPduReq_early 0 _ hearly] at houtcome
      exact absurd (Prod.mk.inj houtcome).1 (by decide)

/-- To a stream of units the register server never faults, and writes one response for each unit, in their order and under their ids, up to
the first unit that is no request: there, and only there, the coroutine returns. -/
theorem coroutine_answers_units (native : Endian) (registers : List UInt16) (units : List Adu) (moves : List Session.Move)
    (harrived : Session.arrived moves = units.flatMap Adu.bytes) :
    ∃ s, Session.run (registerHandler native registers) moves {} = (.ok (), s) ∧
      (∃ responses, responses <+: answers (registerReply registers) units ∧ s.outgoing = responses.flatMap Response.bytes) ∧
      (s.Idle → s.outgoing = (answers (registerReply registers) units).flatMap Response.bytes ∧
        (s.point = .returned ↔ ¬∀ a ∈ units, IsRequest a)) := by
  have hserver : AnswersItsTranscript (registerHandler native registers) (registerReply registers) := by
    rw [registerHandler_eq]
    exact answersItsTranscript_of_fits (registerReply_fits registers)
  obtain ⟨hresponses, hphase⟩ := Loop.transcript_units (registerReply registers) Loop.check_coroutine units
  rw [← harrived] at hresponses hphase
  have hin : (Loop.coroutine.transcript (registerReply registers) (Session.arrived moves)).1 ≠ .overflowed := by
    rw [hphase]
    split <;> nofun
  obtain ⟨s, hrun⟩ := hserver.run_ok hin
  refine ⟨s, hrun, ?_, fun hidle => ?_⟩
  · rw [← hresponses]
    exact hserver.sound moves s hrun
  · obtain ⟨hout, hreturned, -⟩ := hserver.complete moves s hrun hidle
    refine ⟨hout.trans (by rw [hresponses]), hreturned.trans ?_⟩
    rw [hphase]
    by_cases hall : ∀ a ∈ units, IsRequest a
    · rw [if_pos hall]
      exact ⟨nofun, fun h => absurd hall h⟩
    · rw [if_neg hall]
      exact ⟨fun _ => hall, fun _ => rfl⟩

/-- A request for two registers from address 0 on. -/
def twoRegisters : Adu where
  transactionId := 1
  protocol := 0
  unitId := 9
  pdu := [3, 0, 0, 0, 2]
  pdu_length := by decide

theorem coroutine_answers_units_inPieces :
    let moves : List Session.Move := [.arrive [0, 1, 0, 0], .readSome 0 9, .arrive [0, 6, 9, 3, 0, 0, 0, 2], .readSome 0 9, .readSome 0 9]
    ∃ s, Session.run (registerHandler .little [0x1234, 7]) moves {} = (.ok (), s) ∧
      (∃ responses, responses <+: answers (registerReply [0x1234, 7]) [twoRegisters] ∧
        s.outgoing = responses.flatMap Response.bytes) ∧
      (s.Idle → s.outgoing = (answers (registerReply [0x1234, 7]) [twoRegisters]).flatMap Response.bytes ∧
        (s.point = .returned ↔ ¬∀ a ∈ [twoRegisters], IsRequest a)) := by
  intro moves
  exact coroutine_answers_units .little [0x1234, 7] [twoRegisters] moves (by decide)

/-- Nor does it answer such a unit: after the requests before it the register server writes nothing, not even an exception response, and
when it has ended whatever follows is still to be read. -/
theorem coroutine_silent_after_nonrequest (native : Endian) (registers : List UInt16) {units : List Adu} {a : Adu} (rest : List UInt8)
    (hunits : ∀ b ∈ units, IsRequest b) (ha : UnknownFunction a.pdu ∨ EndsEarly a.pdu) (moves : List Session.Move)
    (harrived : Session.arrived moves = units.flatMap Adu.bytes ++ (a.bytes ++ rest)) :
    ∃ s, Session.run (registerHandler native registers) moves {} = (.ok (), s) ∧
      (∃ responses, responses <+: answers (registerReply registers) units ∧ s.outgoing = responses.flatMap Response.bytes) ∧
      (s.Idle → s.point = .returned ∧ s.outgoing = (answers (registerReply registers) units).flatMap Response.bytes ∧
        s.incoming = rest) := by
  have hserver : AnswersItsTranscript (registerHandler native registers) (registerReply registers) := by
    rw [registerHandler_eq]
    exact answersItsTranscript_of_fits (registerReply_fits registers)
  have htranscript : Loop.coroutine.transcript (registerReply registers) (Session.arrived moves) =
      (.closed, rest, answers (registerReply registers) units ++ []) := by
    rw [harrived, Loop.transcript_requests Loop.check_coroutine hunits,
      Loop.transcript_unit_closed Loop.check_coroutine ((not_isRequest_iff a).mpr ha)]
    rfl
  rw [List.append_nil] at htranscript
  obtain ⟨s, hrun⟩ : ∃ s, Session.run (registerHandler native registers) moves {} = (.ok (), s) :=
    hserver.run_ok (by rw [htranscript]; nofun)
  have hsound := hserver.sound moves s hrun
  have hcomplete := hserver.complete moves s hrun
  rw [htranscript] at hsound hcomplete
  refine ⟨s, hrun, hsound, fun hidle => ?_⟩
  obtain ⟨hout, hreturned, -⟩ := hcomplete hidle
  refine ⟨hreturned.mpr rfl, hout, ?_⟩
  rw [registerHandler_eq] at hrun
  obtain ⟨phase, part, responses, h⟩ := Session.follows_of_run (registerReply_fits registers) hrun
  obtain ⟨hend, -⟩ := h.idle hidle
  rw [htranscript] at hend
  obtain ⟨rfl, hleft⟩ := Prod.mk.inj hend
  -- where it has returned nothing is stored, and what the transcript leaves is at the socket
  obtain ⟨hrest, -⟩ := Prod.mk.inj hleft
  have hpart : part = [] := h.sees.2
  rw [hrest, hpart, List.nil_append]

/-- A request of function 0x2B, read device identification, which the library does not have. -/
def identification : Adu where
  transactionId := 2
  protocol := 0
  unitId := 9
  pdu := [0x2B, 14, 1, 0]
  pdu_length := by decide

theorem coroutine_silent_after_nonrequest_identification :
    let moves : List Session.Move := [.arrive (twoRegisters.bytes ++ identification.bytes ++ twoRegisters.bytes), .readSome 0 99]
    ∃ s, Session.run (registerHandler .big [0x1234, 7]) moves {} = (.ok (), s) ∧
      (∃ responses, responses <+: answers (registerReply [0x1234, 7]) [twoRegisters] ∧
        s.outgoing = responses.flatMap Response.bytes) ∧
      (s.Idle → s.point = .returned ∧
        s.outgoing = (answers (registerReply [0x1234, 7]) [twoRegisters]).flatMap Response.bytes ∧ s.incoming = twoRegisters.bytes) := by
  intro moves
  have hunits : ∀ b ∈ [twoRegisters], IsRequest b := by decide
  have hunknown : UnknownFunction identification.pdu := ⟨0x2B, [14, 1, 0], rfl, fun k => by cases k <;> decide⟩
  exact coroutine_silent_after_nonrequest .big [0x1234, 7] twoRegisters.bytes hunits (Or.inl hunknown) moves (by decide)

/-! ## The array -/

/-- After any number of requests, a peer can make the register server store outside its array exactly by a header with a length field
above 314 and more than 313 bytes behind it: the check of the length lets such headers through. -/
theorem coroutine_leavesArray_iff (native : Endian) (registers : List UInt16) {units : List Adu} {h : MbapHeader} {body : List UInt8}
    (hunits : ∀ b ∈ units, IsRequest b) (hbody : body.length ≤ h.length.toNat - 1) :
    (∃ moves, Session.arrived moves = units.flatMap Adu.bytes ++ (h.bytes ++ body) ∧
      ∃ s, Session.run (registerHandler native registers) moves {} = (.error (.outOfBounds 320), s)) ↔
    315 ≤ h.length.toNat ∧ 314 ≤ body.length := by
  have hserver : AnswersItsTranscript (registerHandler native registers) (registerReply registers) := by
    rw [registerHandler_eq]
    exact answersItsTranscript_of_fits (registerReply_fits registers)
  have hphase : (Loop.coroutine.transcript (registerReply registers) (units.flatMap Adu.bytes ++ (h.bytes ++ body))).1 =
      (Loop.coroutine.transcript (registerReply registers) (h.bytes ++ body)).1 := by
    rw [Loop.transcript_requests Loop.check_coroutine hunits]
    rfl
  rw [← Loop.transcript_overflowed_iff (registerReply registers) h hbody, ← hphase]
  constructor
  · rintro ⟨moves, harrived, s, hrun⟩
    rw [← harrived]
    exact (hserver.fault moves _ s hrun).2
  · intro hover
    obtain ⟨moves, harrived, ⟨s, hrun, hidle⟩ | hfault⟩ :=
      hserver.exists_run (units.flatMap Adu.bytes ++ (h.bytes ++ body))
    · rw [← harrived] at hover
      exact absurd hover (hserver.complete moves s hrun hidle).2.2
    · exact ⟨moves, harrived, hfault⟩

theorem coroutine_leavesArray_iff_length315 :
    let h : MbapHeader := { length := 315 }
    let body : List UInt8 := List.replicate 314 0
    (∃ moves, Session.arrived moves = [twoRegisters].flatMap Adu.bytes ++ (h.bytes ++ body) ∧
      ∃ s, Session.run (registerHandler .little holdingRegisters) moves {} = (.error (.outOfBounds 320), s)) ↔
    315 ≤ h.length.toNat ∧ 314 ≤ body.length := by
  intro h body
  have hunits : ∀ b ∈ [twoRegisters], IsRequest b := by decide
  exact coroutine_leavesArray_iff .little holdingRegisters hunits (Nat.le_of_eq List.length_replicate)

end Mothbus.Examples
