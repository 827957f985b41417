import Mothbus.Examples.Registers

/-!
# The history of the registers

What the events of a run of the registers that are read at once say of the state that it reaches: what the registers are, and which call
each master has made.
-/

namespace Mothbus.Examples

variable {ι : Type} {registers : List UInt16} {events : List (Event ι)} {i : ι}

/-- After some events and then others, the registers are as the others leave them. -/
theorem registersAfter_append (registers : List UInt16) (events more : List (Event ι)) :
    registersAfter registers (events ++ more) = registersAfter (registersAfter registers events) more := by
  induction events generalizing registers with
  | nil => rfl
  | cons e events ih =>
    cases e with
    | update registers' => exact ih registers'
    | invoke i slave op => exact ih registers
    | result i ec output => exact ih registers

/-- What the events say of the call of a master with a status. -/
def Accounted (registers : List UInt16) (events : List (Event ι)) (i : ι) : Status → Prop
  | .idle => True
  | .called op => ∃ before slave during, events = before ++ .invoke i slave op :: during ∧ ∀ e ∈ during, e.master ≠ some i
  | .done ec output => Explained registers events i (ec, output)

/-- An event of no call of the master changes nothing for it. -/
theorem Accounted.append {status : Status} (h : Accounted registers events i status) {e : Event ι} (he : e.master ≠ some i) :
    Accounted registers (events ++ [e]) i status := by
  cases status with
  | idle => trivial
  | called op =>
    obtain ⟨before, slave, during, rfl, hduring⟩ := h
    refine ⟨before, slave, during ++ [e], by rw [List.append_assoc, List.cons_append], fun e' he' => ?_⟩
    rcases List.mem_append.mp he' with hmem | hmem
    · exact hduring e' hmem
    · rwa [List.mem_singleton.mp hmem]
  | done ec output =>
    obtain ⟨before, slave, op, during, after, rfl, hsince, heffect⟩ := h
    refine ⟨before, slave, op, during, after ++ [e], by rw [List.append_assoc, List.cons_append, List.append_assoc], fun e' he' => ?_,
      heffect⟩
    rw [← List.append_assoc] at he'
    rcases List.mem_append.mp he' with hmem | hmem
    · exact hsince e' hmem
    · rwa [List.mem_singleton.mp hmem]

/-- A call that was made and takes effect is explained from then on. -/
theorem Accounted.effect {op : Operation} (h : Accounted registers events i (.called op)) :
    Explained registers events i (Examples.effect (registersAfter registers events) op) := by
  obtain ⟨before, slave, during, rfl, hduring⟩ := h
  refine ⟨before, slave, op, during, [], by rw [List.append_nil], by rwa [List.append_nil], ?_⟩
  rw [registersAfter_append, registersAfter_append]
  rfl

variable [DecidableEq ι]

/-- The registers are what the events made them, and every call is accounted for. -/
structure AtomicState.FollowsFrom (s : AtomicState ι) (registers : List UInt16) (events : List (Event ι)) : Prop where
  registers_eq : s.registers = registersAfter registers events
  accounted : ∀ i, Accounted registers events i (s.status i)

/-- A status is replaced by one that is accounted for. -/
theorem accounted_update {status : ι → Status} (h : ∀ j, j ≠ i → Accounted registers events j (status j)) {status' : Status}
    (hi : Accounted registers events i status') (j : ι) : Accounted registers events j (Function.update status i status' j) := by
  by_cases hj : j = i
  · subst hj
    rwa [Function.update_self]
  · rw [Function.update_of_ne hj]
    exact h j hj

/-- A step of the atomic system adds what it shows to the history. -/
theorem AtomicStep.followsFrom {s s' : AtomicState ι} {more : List (Event ι)} (hstep : AtomicStep s more s')
    (h : s.FollowsFrom registers events) : s'.FollowsFrom registers (events ++ more) := by
  cases hstep with
  | @invoke i slave op hidle =>
    have hother : ∀ j, j ≠ i → (Event.invoke i slave op).master ≠ some j := fun j hj he => hj (Option.some.inj he).symm
    refine ⟨?_, accounted_update (fun j hj => (h.accounted j).append (hother j hj)) ?_⟩
    · rw [registersAfter_append]
      exact h.registers_eq
    · exact ⟨events, slave, [], rfl, nofun⟩
  | @effect i op hcalled =>
    have hi := h.accounted i
    rw [hcalled] at hi
    rw [List.append_nil]
    refine ⟨h.registers_eq, accounted_update (fun j _ => h.accounted j) ?_⟩
    rw [h.registers_eq]
    exact hi.effect
  | @result i ec output hdone =>
    have hother : ∀ j, j ≠ i → (Event.result i ec output).master ≠ some j := fun j hj he => hj (Option.some.inj he).symm
    refine ⟨?_, accounted_update (fun j hj => (h.accounted j).append (hother j hj)) trivial⟩
    rw [registersAfter_append]
    exact h.registers_eq
  | update registers' =>
    refine ⟨?_, fun j => (h.accounted j).append nofun⟩
    rw [registersAfter_append]
    rfl

/-- Every result in a trace is explained by the events before it. -/
theorem explained_of_trace {trace before after : List (Event ι)} {ec : ErrorCode} {output : Output}
    (h : (atomicSystem ι registers).Trace trace) (htrace : trace = before ++ .result i ec output :: after) :
    Explained registers before i (ec, output) := by
  have hone : ∀ s e s', (atomicSystem ι registers).step s e s' → e.length ≤ 1 := fun s e s' hstep => by
    cases hstep <;> simp
  obtain ⟨s, s', rfl, hrun⟩ := h
  obtain ⟨s₁, s₂, hbefore, hresult, -⟩ := hrun.split hone htrace
  have hstart : AtomicState.FollowsFrom { registers, status := fun _ => .idle } registers ([] : List (Event ι)) :=
    ⟨rfl, fun _ => trivial⟩
  have hfollows := hbefore.history (P := fun events s => s.FollowsFrom registers events)
    (fun _ _ _ _ h hstep => AtomicStep.followsFrom hstep h) hstart
  cases hresult with
  | result hdone =>
    have hi := hfollows.accounted i
    rwa [hdone, List.nil_append] at hi

end Mothbus.Examples
