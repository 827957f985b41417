import Mothbus.Lemmas.System

/-!
# The masters and the server, move by move

Every conversation goes with its call, whatever the others do: the registers that are read at once simulate the masters and the server
(`World.simulation`). And every call that waits returns, by five moves of its own conversation (`World.Matches.finish`).
-/

namespace Mothbus.Examples

open Tcp

variable {ι : Type}

namespace World

/-- The registers are the same, and every conversation is one for the status of its call. -/
structure Matches (w : World ι) (s : AtomicState ι) : Prop where
  registers_eq : w.registers = s.registers
  conversation : ∀ i, (w.conversation i).Matches (s.status i)

/-- At the start nobody has called, and the registers are the same. -/
theorem matches_start (registers : List UInt16) :
    (World.start registers : World ι).Matches { registers, status := fun _ => .idle } where
  registers_eq := rfl
  conversation _ := ⟨rfl, Session.sees_top rfl, rfl, rfl, rfl, rfl⟩

variable [DecidableEq ι] {w : World ι} {s : AtomicState ι} {i : ι} {c : Conversation}

/-- Where one conversation changes with its status, the others are as they were. -/
theorem Matches.update (h : w.Matches s) {status : Status} (hc : c.Matches status) :
    (w.setConversation i c).Matches { s with status := Function.update s.status i status } where
  registers_eq := h.registers_eq
  conversation j := by
    by_cases hj : j = i
    · subst hj
      simp only [setConversation, Function.update_self]
      exact hc
    · simp only [setConversation, Function.update_of_ne hj]
      exact h.conversation j

/-- A conversation that keeps its status. -/
theorem Matches.update_same (h : w.Matches s) (hc : c.Matches (s.status i)) :
    (w.setConversation i c).Matches s := by
  have hupdate := h.update (i := i) hc
  rwa [Function.update_eq_self] at hupdate

theorem setConversation_self (w : World ι) (i : ι) : w.setConversation i (w.conversation i) = w := by
  rw [setConversation, Function.update_eq_self]

/-- What a conversation does by itself it does in the world. -/
theorem onConversation_ok {α : Type} {m : Exec Fault Conversation α} {a : α} (h : m (w.conversation i) = (.ok a, c)) :
    onConversation i m w = (.ok a, w.setConversation i c) :=
  Exec.within_apply _ h

/-- No move faults, and the registers that are read at once can do what it shows. -/
theorem Matches.move_ok (native : Endian) (h : w.Matches s) (m : WorldMove ι) (hm : m.Answerable) (registers : List UInt16) :
    ∃ events w' s', World.move native m w = (.ok events, w') ∧ (atomicSystem ι registers).Run s events s' ∧ w'.Matches s' := by
  cases m with
  | call i slave op =>
    have hmove : World.move native (.call i slave op) w =
        (if (w.conversation i).call.isSome = true then pure []
        else onConversation i (Conversation.start slave op) >>= fun _ => pure [.invoke i slave op]) w := rfl
    rw [hmove]
    by_cases hbusy : (w.conversation i).call.isSome = true
    · refine ⟨[], w, s, ?_, .refl s, h⟩
      rw [if_pos hbusy]
      rfl
    · have hidle : s.status i = .idle := by
        by_contra hne
        exact hbusy ((h.conversation i).call_isSome.mpr hne)
      have hrests := h.conversation i
      rw [hidle] at hrests
      obtain ⟨c', call, hrun, hop, hrequest⟩ := Conversation.Rests.start hrests hm
      refine ⟨_, _, _, ?_, .single (.invoke slave op hidle), h.update (i := i) (c := c') ⟨call, _, _, hop, hrequest⟩⟩
      rw [if_neg hbusy]
      exact Exec.bind_ok (onConversation_ok hrun)
  | requestArrives i k =>
    exact ⟨[], _, s, rfl, .refl s, h.update_same ((h.conversation i).requestArrives k)⟩
  | responseArrives i k =>
    exact ⟨[], _, s, rfl, .refl s, h.update_same ((h.conversation i).responseArrives k)⟩
  | serve i indeterminate k =>
    obtain ⟨c', hrun, hstatus⟩ := (h.conversation i).serve native w.registers indeterminate k
    have hmove : World.move native (.serve i indeterminate k) w =
        (.ok [], w.setConversation i c') :=
      (Exec.bind_state _ w).trans (Exec.bind_ok (onConversation_ok hrun))
    rcases hstatus with hsame | ⟨op, hcalled, hdone⟩
    · exact ⟨[], _, s, hmove, .refl s, h.update_same hsame⟩
    · rw [h.registers_eq] at hdone
      exact ⟨[], _, _, hmove, .single (.effect hcalled), h.update hdone⟩
  | complete i indeterminate =>
    rcases (h.conversation i).complete indeterminate with hrun | ⟨ec, output, c', hdone, hrun, hidle⟩
    · have hmove : World.move native (.complete i indeterminate) w =
          (.ok [], w.setConversation i (w.conversation i)) :=
        Exec.bind_ok (onConversation_ok hrun)
      rw [setConversation_self] at hmove
      exact ⟨[], w, s, hmove, .refl s, h⟩
    · exact ⟨_, _, _, Exec.bind_ok (onConversation_ok hrun), .single (.result hdone), h.update hidle⟩
  | update registers' => exact ⟨_, _, _, rfl, .single (.update registers'), ⟨rfl, h.conversation⟩⟩

/-- The registers that are read at once simulate the masters and the server. -/
theorem simulation (native : Endian) (registers : List UInt16) :
    (worldSystem ι native registers).Simulation (atomicSystem ι registers) Matches where
  init := by
    rintro w rfl
    exact ⟨_, rfl, matches_start registers⟩
  step := by
    rintro w s events w' h ⟨m, hm, hmove⟩
    obtain ⟨events', w'', s', hmove', hrun, h'⟩ := h.move_ok native m hm registers
    obtain ⟨rfl, rfl⟩ := Exec.ok_unique hmove' hmove
    exact ⟨s', hrun, h'⟩

/-! ## Runs of moves -/

theorem run_cons {native : Endian} {m : WorldMove ι} {moves : List (WorldMove ι)} {events more : List (Event ι)} {w' w'' : World ι}
    (hmove : World.move native m w = (.ok events, w')) (hrun : World.run native moves w' = (.ok more, w'')) :
    World.run native (m :: moves) w = (.ok (events ++ more), w'') :=
  (Exec.bind_ok hmove).trans (Exec.bind_ok hrun)

/-- Moves that are made one after the other are a run of the system. -/
theorem systemRun_of_run {native : Endian} {registers : List UInt16} {moves : List (WorldMove ι)} (hmoves : ∀ m ∈ moves, m.Answerable)
    {events : List (Event ι)} {w' : World ι} (h : World.run native moves w = (.ok events, w')) :
    (worldSystem ι native registers).Run w events w' := by
  induction moves generalizing w events with
  | nil =>
    obtain ⟨rfl, rfl⟩ := Exec.ok_inj h
    exact .refl w
  | cons m moves ih =>
    obtain ⟨hm, hrest⟩ := List.forall_mem_cons.mp hmoves
    obtain ⟨first, w₁, hmove, hmore⟩ := Exec.bind_eq_ok h
    obtain ⟨more, w₂, hrun, hresult⟩ := Exec.bind_eq_ok hmore
    obtain ⟨rfl, rfl⟩ := Exec.ok_inj hresult
    exact .head ⟨m, hm, hmove⟩ (ih hrest hrun)

/-! ## A call returns -/

/-- What a conversation does, it does in a world where it has just been put. -/
theorem onConversation_set {α : Type} {m : Exec Fault Conversation α} {a : α} {c' : Conversation} (h : m c = (.ok a, c')) :
    onConversation i m (w.setConversation i c) = (.ok a, w.setConversation i c') := by
  have hget : (w.setConversation i c).conversation i = c := by simp only [setConversation, Function.update_self]
  have hrun := onConversation_ok (w := w.setConversation i c) (by rw [hget]; exact h)
  rw [hrun]
  simp only [setConversation, Function.update_idem]

/-- The five moves by which a call returns that waits. -/
def finishing (i : ι) (indeterminate : UInt8) : List (WorldMove ι) :=
  [.requestArrives i 320, .serve i indeterminate 320, .serve i indeterminate 320, .responseArrives i 320, .complete i indeterminate]

/-- They are five steps of the conversation. -/
theorem run_finishing {native : Endian} {indeterminate : UInt8} {c₁ c' : Conversation} {result : ErrorCode × Output}
    (hserved : (Conversation.serve native w.registers indeterminate 320 >>= fun _ =>
      Conversation.serve native w.registers indeterminate 320) ((w.conversation i).requestArrives 320) = (.ok (), c₁))
    (hcomplete : Conversation.complete indeterminate (c₁.responseArrives 320) = (.ok (some result), c')) :
    World.run native (finishing i indeterminate) w = (.ok [.result i result.1 result.2], w.setConversation i c') := by
  obtain ⟨u, c₀, hserve₁, hserve₂⟩ := Exec.bind_eq_ok hserved
  have harrive : World.move native (.requestArrives i 320) w = (.ok [], w.setConversation i ((w.conversation i).requestArrives 320)) := rfl
  have hmove₁ : World.move native (.serve i indeterminate 320) (w.setConversation i ((w.conversation i).requestArrives 320)) =
      (.ok [], w.setConversation i c₀) := (Exec.bind_state _ _).trans (Exec.bind_ok (onConversation_set hserve₁))
  have hmove₂ : World.move native (.serve i indeterminate 320) (w.setConversation i c₀) = (.ok [], w.setConversation i c₁) :=
    (Exec.bind_state _ _).trans (Exec.bind_ok (onConversation_set hserve₂))
  have hback : World.move native (.responseArrives i 320) (w.setConversation i c₁) =
      (.ok [], w.setConversation i (c₁.responseArrives 320)) := Exec.bind_ok (onConversation_set rfl)
  have hreturn : World.move native (.complete i indeterminate) (w.setConversation i (c₁.responseArrives 320)) =
      (.ok [.result i result.1 result.2], w.setConversation i c') := Exec.bind_ok (onConversation_set hcomplete)
  exact run_cons harrive (run_cons hmove₁ (run_cons hmove₂ (run_cons hback (run_cons hreturn rfl))))

/-- Wherever its request or its response is, a call that waits returns by them, and nothing else changes. -/
theorem Matches.finish (native : Endian) (h : w.Matches s) (indeterminate : UInt8) (hstatus : s.status i ≠ .idle) :
    ∃ ec output c', World.run native (finishing i indeterminate) w = (.ok [.result i ec output], w.setConversation i c') ∧
      c'.Rests := by
  obtain ⟨c₁, ec, output, c', hserved, hcomplete, hrests⟩ :=
    (h.conversation i).finish native w.registers indeterminate hstatus
  exact ⟨ec, output, c', run_finishing hserved hcomplete, hrests⟩

/-! ## What a move is to a conversation -/

/-- What a move can do to the conversation of a master, and what it shows of that master. -/
inductive StepOf (native : Endian) (i : ι) : WorldMove ι → Conversation → List (Event ι) → Conversation → Prop
  | other {m : WorldMove ι} {c : Conversation} {events : List (Event ι)} (h : ∀ e ∈ events, e.master ≠ some i) :
    StepOf native i m c events c
  | call {slave : UInt8} {op : Operation} {c c' : Conversation} (hidle : c.call = none)
    (h : Conversation.start slave op c = (.ok (), c')) : StepOf native i (.call i slave op) c [.invoke i slave op] c'
  | travels {m : WorldMove ι} {c c' : Conversation} (h : c.Travels native c') : StepOf native i m c [] c'
  | complete {m : WorldMove ι} {c c' : Conversation} (indeterminate : UInt8) {r : Option (ErrorCode × Output)}
    (h : Conversation.complete indeterminate c = (.ok r, c')) :
    StepOf native i m c (r.toList.map fun r => .result i r.1 r.2) c'

/-- A computation on a conversation that gave a value. -/
theorem onConversation_eq_ok {α : Type} {j : ι} {m : Exec Fault Conversation α} {a : α} {w' : World ι}
    (h : onConversation j m w = (.ok a, w')) : ∃ c', m (w.conversation j) = (.ok a, c') ∧ w' = w.setConversation j c' := by
  obtain ⟨hresult, rfl⟩ := Prod.mk.inj h
  exact ⟨_, Prod.ext hresult rfl, rfl⟩

/-- What a move does to one conversation, seen from any. -/
theorem stepOf_setConversation {native : Endian} {m : WorldMove ι} {events : List (Event ι)} {j : ι}
    (h : StepOf native j m (w.conversation j) events c) (hmaster : ∀ e ∈ events, e.master = some j) (i : ι) :
    StepOf native i m (w.conversation i) events ((w.setConversation j c).conversation i) := by
  by_cases hj : i = j
  · subst hj
    simp only [setConversation, Function.update_self]
    exact h
  · simp only [setConversation, Function.update_of_ne hj]
    refine .other fun e he hi => hj ?_
    exact Option.some.inj (hi.symm.trans (hmaster e he))

/-- A move is a step of the conversation that it is about, and to the others nothing. -/
theorem stepOf_of_move {native : Endian} {m : WorldMove ι} {events : List (Event ι)} {w' : World ι}
    (h : World.move native m w = (.ok events, w')) (i : ι) : StepOf native i m (w.conversation i) events (w'.conversation i) := by
  cases m with
  | call j slave op =>
    have hmove : World.move native (.call j slave op) w =
        (if (w.conversation j).call.isSome = true then pure []
        else onConversation j (Conversation.start slave op) >>= fun _ => pure [.invoke j slave op]) w := rfl
    rw [hmove] at h
    by_cases hbusy : (w.conversation j).call.isSome = true
    · rw [if_pos hbusy] at h
      obtain ⟨rfl, rfl⟩ := Exec.ok_inj h
      exact .other nofun
    · rw [if_neg hbusy] at h
      obtain ⟨u, w₁, hon, hshown⟩ := Exec.bind_eq_ok h
      obtain ⟨rfl, rfl⟩ := Exec.ok_inj hshown
      obtain ⟨c', hstart, rfl⟩ := onConversation_eq_ok hon
      refine stepOf_setConversation (.call (Option.not_isSome_iff_eq_none.mp hbusy) hstart) (fun e he => ?_) i
      obtain rfl := List.mem_singleton.mp he
      rfl
  | requestArrives j k =>
    obtain ⟨rfl, rfl⟩ := Exec.ok_inj h
    exact stepOf_setConversation (.travels (.requestArrives k)) nofun i
  | responseArrives j k =>
    obtain ⟨rfl, rfl⟩ := Exec.ok_inj h
    exact stepOf_setConversation (.travels (.responseArrives k)) nofun i
  | serve j indeterminate k =>
    obtain ⟨u, w₁, hon, hshown⟩ := Exec.bind_eq_ok ((Exec.bind_state _ w).symm.trans h)
    obtain ⟨rfl, rfl⟩ := Exec.ok_inj hshown
    obtain ⟨c', hserve, rfl⟩ := onConversation_eq_ok hon
    exact stepOf_setConversation (.travels (.serve w.registers indeterminate k hserve)) nofun i
  | complete j indeterminate =>
    obtain ⟨r, w₁, hon, hshown⟩ := Exec.bind_eq_ok h
    obtain ⟨rfl, rfl⟩ := Exec.ok_inj hshown
    obtain ⟨c', hcomplete, rfl⟩ := onConversation_eq_ok hon
    refine stepOf_setConversation (.complete indeterminate hcomplete) (fun e he => ?_) i
    obtain ⟨result, -, rfl⟩ := List.mem_map.mp he
    rfl
  | update registers =>
    obtain ⟨rfl, rfl⟩ := Exec.ok_inj h
    refine .other fun e he => ?_
    obtain rfl := List.mem_singleton.mp he
    nofun

/-- What holds of a conversation and is kept by its steps holds after a run, with the events of the run. -/
theorem run_conversation {native : Endian} {allowed : WorldMove ι → Prop} {P : List (Event ι) → Conversation → Prop}
    (hstep : ∀ es m c events c', allowed m → P es c → StepOf native i m c events c' → P (es ++ events) c')
    {moves : List (WorldMove ι)} (hmoves : ∀ m ∈ moves, allowed m) {before events : List (Event ι)} {w' : World ι}
    (hrun : World.run native moves w = (.ok events, w')) (h : P before (w.conversation i)) :
    P (before ++ events) (w'.conversation i) := by
  induction moves generalizing w before events with
  | nil =>
    obtain ⟨rfl, rfl⟩ := Exec.ok_inj hrun
    rwa [List.append_nil]
  | cons m moves ih =>
    obtain ⟨hm, hrest⟩ := List.forall_mem_cons.mp hmoves
    obtain ⟨first, w₁, hmove, hmore⟩ := Exec.bind_eq_ok hrun
    obtain ⟨more, w₂, hrun', hresult⟩ := Exec.bind_eq_ok hmore
    obtain ⟨rfl, rfl⟩ := Exec.ok_inj hresult
    rw [← List.append_assoc]
    exact ih hrest hrun' (hstep _ _ _ _ _ hm h (stepOf_of_move hmove i))

end World

end Mothbus.Examples
