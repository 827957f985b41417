import Mothbus.Lemmas.Backlog

/-!
# Runs with a backlog

What a master does before a call decides whether the call is to be refused: after broadcasts it is (`World.Broadcasting.refuses`), and
after a read of 124 or 125 registers it is unless the transaction id fits (`World.ReadingWide.refuses`). From there on nothing else can
come of the call (`World.refused_run`).
-/

namespace Mothbus.Examples

open Tcp

namespace World

variable {ι : Type} {native : Endian} {i : ι} {m : WorldMove ι} {c c' : Conversation} {events : List (Event ι)}

/-- The call waits and is to be refused, or it has returned the error. -/
def RefusedUntil (i : ι) (op : Operation) (code : ModbusExceptionCode) (events : List (Event ι)) (c : Conversation) : Prop :=
  (c.call = none ∨ ∃ call stale served queued, call.op = op ∧ c.Refuses call code stale served queued) ∧
    ∀ ec output, .result i ec output ∈ events → ec = makeErrorCode code ∧ output = op.output

/-- Whatever happens but a call of the master, the call waits and is to be refused, or has returned the error. -/
theorem refusedUntil_step {op : Operation} {code : ModbusExceptionCode} {es : List (Event ι)} (hm : m.NoCall i)
    (h : RefusedUntil i op code es c) (hstep : StepOf native i m c events c') : RefusedUntil i op code (es ++ events) c' := by
  obtain ⟨hstage, hresults⟩ := h
  have hquiet : (∀ ec output, .result i ec output ∈ events → ec = makeErrorCode code ∧ output = op.output) →
      ∀ ec output, .result i ec output ∈ es ++ events → ec = makeErrorCode code ∧ output = op.output := by
    intro hnew ec output hmem
    rcases List.mem_append.mp hmem with hmem | hmem
    · exact hresults ec output hmem
    · exact hnew ec output hmem
  cases hstep with
  | other hothers =>
    refine ⟨hstage, hquiet fun ec output hmem => ?_⟩
    exact absurd rfl (hothers _ hmem)
  | call hidle hstart => exact absurd rfl hm
  | travels htravels =>
    refine ⟨?_, hquiet fun ec output hmem => absurd hmem List.not_mem_nil⟩
    rcases hstage with hnone | ⟨call, stale, served, queued, hop, hrefuses⟩
    · exact Or.inl ((Conversation.call_of_travels htravels).trans hnone)
    · obtain ⟨served', queued', hrefuses'⟩ := hrefuses.travels htravels
      exact Or.inr ⟨call, stale, served', queued', hop, hrefuses'⟩
  | complete indeterminate hcomplete =>
    rcases hstage with hnone | ⟨call, stale, served, queued, rfl, hrefuses⟩
    · obtain ⟨rfl, rfl⟩ := Exec.ok_unique (Conversation.complete_idle indeterminate hnone) hcomplete
      exact ⟨Or.inl hnone, hquiet fun ec output hmem => absurd hmem List.not_mem_nil⟩
    · rcases hrefuses.complete indeterminate with hwaits | ⟨c₁, hnone, hreturns⟩
      · obtain ⟨rfl, rfl⟩ := Exec.ok_unique hwaits hcomplete
        exact ⟨Or.inr ⟨call, stale, served, queued, rfl, hrefuses⟩, hquiet fun ec output hmem => absurd hmem List.not_mem_nil⟩
      · obtain ⟨rfl, rfl⟩ := Exec.ok_unique hreturns hcomplete
        refine ⟨Or.inl hnone, hquiet fun ec output hmem => ?_⟩
        obtain ⟨-, rfl, rfl⟩ := Event.result.inj (List.mem_singleton.mp hmem)
        exact ⟨rfl, rfl⟩

/-! ## After broadcasts -/

/-- The header of the response to a broadcast is not that of a response to another slave. -/
theorem refusal_broadcast (transactionId transactionId' : UInt16) {slave : UInt8} (hslave : slave ≠ 0) (pdu : List UInt8) :
    (frameHeader transactionId 0 pdu).refusal transactionId' slave =
      some (if transactionId' = transactionId then .slaveIdInvalid else .transactionIdInvalid) := by
  have hid : (frameHeader transactionId 0 pdu).transactionId = transactionId := rfl
  have hprotocol : (frameHeader transactionId 0 pdu).protocol = protocol := rfl
  have hunit : (frameHeader transactionId 0 pdu).unitId = 0 := rfl
  rw [MbapHeader.refusal, hid, hprotocol, hunit]
  by_cases h : transactionId' = transactionId
  · rw [if_neg (not_not_intro h.symm), if_neg (not_not_intro rfl), if_pos (Ne.symm hslave), if_pos h]
  · rw [if_pos (Ne.symm h), if_neg h]

/-- A master that has only broadcast has a backlog that starts with its first broadcast. -/
def Broadcasting (i : ι) (transactionId : UInt16) (events : List (Event ι)) (c : Conversation) : Prop :=
  (∀ call, c.call = some call → call.slave = 0) ∧ ∃ served queued, c.Backlog [] served queued ∧
    ((served ++ queued = [] ∧ c.client.transactionId = transactionId ∧ ∀ slave op, .invoke i slave op ∉ events) ∨
      ∃ first rest, served ++ queued = first :: rest ∧ first.slave = 0 ∧ first.transactionId = transactionId)

/-- A master that goes on to broadcast, whatever happens besides, keeps such a backlog. -/
theorem broadcasting_step {transactionId : UInt16} {es : List (Event ι)} (hm : m.BroadcastsOnly i)
    (h : Broadcasting i transactionId es c) (hstep : StepOf native i m c events c') : Broadcasting i transactionId (es ++ events) c' := by
  obtain ⟨hcall, served, queued, hbacklog, hfirst⟩ := h
  have hquiet : c'.client.transactionId = c.client.transactionId → (∀ slave op, .invoke i slave op ∉ events) →
      ∀ {served' queued' : List PendingCall}, served' ++ queued' = served ++ queued →
        (served' ++ queued' = [] ∧ c'.client.transactionId = transactionId ∧ ∀ slave op, .invoke i slave op ∉ es ++ events) ∨
          ∃ first rest, served' ++ queued' = first :: rest ∧ first.slave = 0 ∧ first.transactionId = transactionId := by
    intro hclient hnew served' queued' hcalls
    rw [hcalls, hclient]
    refine hfirst.imp_left fun ⟨hnil, hid, hnone⟩ => ⟨hnil, hid, fun slave op hmem => ?_⟩
    rcases List.mem_append.mp hmem with hmem | hmem
    · exact hnone slave op hmem
    · exact hnew slave op hmem
  cases hstep with
  | other hothers =>
    exact ⟨hcall, served, queued, hbacklog, hquiet rfl (fun slave op hmem => hothers _ hmem rfl) rfl⟩
  | @call slave op _ _ hidle hstart =>
    obtain rfl : slave = 0 := hm rfl
    obtain ⟨call, hwaits, -, hslave, hid, -, hbacklog'⟩ := hbacklog.start hstart
    refine ⟨fun call' hcall' => ?_, served, queued ++ [call], hbacklog', Or.inr ?_⟩
    · obtain rfl := Option.some.inj (hwaits.symm.trans hcall')
      exact hslave
    · rw [← List.append_assoc]
      rcases hfirst with ⟨hnil, hclient, -⟩ | ⟨first, rest, hcalls, hfirst⟩
      · rw [hnil]
        exact ⟨call, [], rfl, hslave, hid.trans hclient⟩
      · rw [hcalls]
        exact ⟨first, rest ++ [call], rfl, hfirst⟩
  | travels htravels =>
    obtain ⟨hsame, hclient, served', queued', hcalls, hbacklog'⟩ := hbacklog.travels htravels
    exact ⟨fun call hwaits => hcall call (hsame.symm.trans hwaits), served', queued', hbacklog',
      hquiet hclient (fun slave op hmem => absurd hmem List.not_mem_nil) hcalls⟩
  | complete indeterminate hcomplete =>
    cases hwaits : c.call with
    | none =>
      obtain ⟨rfl, rfl⟩ := Exec.ok_unique (Conversation.complete_idle indeterminate hwaits) hcomplete
      exact ⟨hcall, served, queued, hbacklog, hquiet rfl (fun slave op hmem => absurd hmem List.not_mem_nil) rfl⟩
    | some call =>
      obtain ⟨result, hreturns⟩ := Conversation.complete_broadcast indeterminate hwaits (hcall call hwaits)
      obtain ⟨rfl, rfl⟩ := Exec.ok_unique hreturns hcomplete
      refine ⟨fun call' hnone => absurd hnone (Option.some_ne_none call').symm, served, queued,
        ⟨hbacklog.sent, hbacklog.requests, hbacklog.unread⟩, hquiet rfl (fun slave op hmem => ?_) rfl⟩
      nomatch List.mem_singleton.mp hmem

/-- The next call to a slave reads the response to the first broadcast. -/
theorem Broadcasting.refuses {transactionId : UInt16} {es : List (Event ι)} (h : Broadcasting i transactionId es c) {op₀ : Operation}
    (hmade : .invoke i 0 op₀ ∈ es) {slave : UInt8} {op : Operation} (hslave : slave ≠ 0)
    (hstart : Conversation.start slave op c = (.ok (), c')) :
    ∃ call served queued, call.op = op ∧
      c'.Refuses call (if c.client.transactionId = transactionId then .slaveIdInvalid else .transactionIdInvalid) [] served queued := by
  obtain ⟨-, served, queued, hbacklog, ⟨-, -, hnone⟩ | ⟨first, rest, hcalls, hzero, hid⟩⟩ := h
  · exact absurd hmade (hnone 0 op₀)
  · obtain ⟨call, hwaits, hop, rfl, hnext, hsent, hbacklog'⟩ := hbacklog.start hstart
    refine ⟨call, served, queued ++ [call], hop, hwaits, hsent.plan_eq, hslave, hbacklog', Or.inr ⟨rfl, first, rest ++ [call], ?_, ?_⟩⟩
    · rw [← List.append_assoc, hcalls]
      rfl
    · intro pdu
      rw [hzero, hid, ← hnext]
      exact refusal_broadcast transactionId call.transactionId hslave pdu

/-! ## After reads of 124 and 125 registers -/

/-- The call waits, and no other does; or it has returned an error, and has left behind what it leaves. -/
def ReadingWide (i : ι) (call : PendingCall) (quantity : UInt16) (events : List (Event ι)) (c : Conversation) : Prop :=
  (c.call = some call ∧ (∃ served queued, c.Backlog [] served queued ∧ served ++ queued = [call]) ∧
      ∀ ec output, .result i ec output ∉ events) ∨
    c.call = none ∧ ∃ stale, c.Backlog stale [] [] ∧
      ∀ ec output, .result i ec output ∈ events → output = call.op.output ∧ Conversation.LeftBehind quantity ec stale

/-- The next call to a slave takes the body that was left behind for a header. -/
theorem ReadingWide.refuses {call : PendingCall} {quantity : UInt16} {es : List (Event ι)} (h : ReadingWide i call quantity es c)
    {output : Output} (hresult : .result i (makeErrorCode .invalidResponse) output ∈ es) {slave : UInt8} {op : Operation}
    (hslave : slave ≠ 0) (hstart : Conversation.start slave op c = (.ok (), c'))
    (hid : c.client.transactionId ≠ 0x0300 + 2 * quantity) :
    ∃ call' stale served queued, call'.op = op ∧ c'.Refuses call' .transactionIdInvalid stale served queued := by
  rcases h with ⟨-, -, hnone⟩ | ⟨-, stale, hbacklog, hresults⟩
  · exact absurd hresult (hnone _ output)
  · obtain ⟨-, ⟨hcode, -⟩ | ⟨-, hdr, unread, rfl, hhdr⟩⟩ := hresults _ output hresult
    · exact absurd hcode (by decide)
    · obtain ⟨call', hwaits, hop, rfl, hnext, hsent, hbacklog'⟩ := hbacklog.start hstart
      refine ⟨call', _, [], [call'], hop, hwaits, hsent.plan_eq, hslave, hbacklog', Or.inl ⟨hdr, unread, rfl, ?_⟩⟩
      rw [MbapHeader.refusal, if_pos]
      rw [hhdr, hnext]
      exact Ne.symm hid

/-! ## From a refusal on -/

variable [DecidableEq ι] {w w' : World ι}

/-- From where a call is to be refused on, whatever happens until the master calls again: the call returns the error, its span as it was,
or it can. -/
theorem refused_run {moves : List (WorldMove ι)} (hmoves : ∀ m ∈ moves, m.NoCall i) (hrun : World.run native moves w = (.ok events, w'))
    {call : PendingCall} {code : ModbusExceptionCode} {stale : List UInt8} {served queued : List PendingCall}
    (h : (w.conversation i).Refuses call code stale served queued) :
    (∀ ec output, .result i ec output ∈ events → ec = makeErrorCode code ∧ output = call.op.output) ∧
      ((w'.conversation i).call.isSome = true → ∀ indeterminate, ∃ w'', World.run native (finishing i indeterminate) w' =
        (.ok [.result i (makeErrorCode code) call.op.output], w'')) := by
  have hstart : RefusedUntil i call.op code [] (w.conversation i) :=
    ⟨Or.inr ⟨call, stale, served, queued, rfl, h⟩, fun ec output hmem => absurd hmem List.not_mem_nil⟩
  obtain ⟨hstage, hresults⟩ := run_conversation (fun es m c events c' hm hP hstep => refusedUntil_step hm hP hstep) hmoves hrun hstart
  refine ⟨hresults, fun hwaits indeterminate => ?_⟩
  rcases hstage with hnone | ⟨call', stale', served', queued', hop, hrefuses⟩
  · rw [hnone] at hwaits
    nomatch hwaits
  · obtain ⟨c₁, c₂, hserved, hcomplete⟩ := hrefuses.finish indeterminate native w'.registers
    rw [hop] at hcomplete
    exact ⟨_, run_finishing hserved hcomplete⟩

/-- A call that a master is seen to make starts in its conversation. -/
theorem start_of_move {slave : UInt8} {op : Operation} (h : World.move native (.call i slave op) w = (.ok [.invoke i slave op], w')) :
    (w.conversation i).call = none ∧ Conversation.start slave op (w.conversation i) = (.ok (), w'.conversation i) := by
  have hstep := stepOf_of_move h i
  generalize w.conversation i = c at hstep
  generalize w'.conversation i = c' at hstep
  generalize hevents : [Event.invoke i slave op] = events at hstep
  cases hstep with
  | other hothers =>
    subst hevents
    exact absurd rfl (hothers _ (List.mem_singleton_self _))
  | call hidle hstart => exact ⟨hidle, hstart⟩
  | travels htravels => nomatch hevents
  | @complete _ _ _ _ r hcomplete =>
    cases r with
    | none => nomatch hevents
    | some result => nomatch hevents

end World

end Mothbus.Examples
