import Mathlib.Data.List.Basic
import Mathlib.Tactic.Common

/-!
# Transition systems and simulations

A step of a transition system shows a list of events; an internal step shows none. A simulation takes the steps of one system to runs
of another that show the same, and so every trace of the first is a trace of the second (`TransitionSystem.Simulation.trace`).
-/

/-- A transition system with states `σ` whose steps show events `ε`. -/
structure TransitionSystem (σ ε : Type) where
  init : σ → Prop
  step : σ → List ε → σ → Prop

namespace TransitionSystem

variable {σ τ ε : Type}

/-- A run from one state to another and the events it shows. -/
inductive Run (A : TransitionSystem σ ε) : σ → List ε → σ → Prop
  | refl (s : σ) : A.Run s [] s
  | head {s s' s'' : σ} {e es : List ε} (h : A.step s e s') (hrest : A.Run s' es s'') : A.Run s (e ++ es) s''

/-- The events of a run from an initial state. -/
def Trace (A : TransitionSystem σ ε) (es : List ε) : Prop := ∃ s s', A.init s ∧ A.Run s es s'

/-- The states that runs from initial states reach. -/
def Reachable (A : TransitionSystem σ ε) (s : σ) : Prop := ∃ s₀ es, A.init s₀ ∧ A.Run s₀ es s

namespace Run

variable {A : TransitionSystem σ ε}

theorem single {s s' : σ} {e : List ε} (h : A.step s e s') : A.Run s e s' := by
  have hrun := Run.head h (.refl s')
  rwa [List.append_nil] at hrun

/-- One run and then another is a run that shows the events of both. -/
theorem trans {s s' s'' : σ} {es es' : List ε} (h : A.Run s es s') (h' : A.Run s' es' s'') : A.Run s (es ++ es') s'' := by
  induction h with
  | refl s => exact h'
  | head hstep _ ih =>
    rw [List.append_assoc]
    exact .head hstep (ih h')

/-- What holds of the empty history and is kept by every step holds of the history of every run. -/
theorem history {P : List ε → σ → Prop} (hstep : ∀ es s e s', P es s → A.step s e s' → P (es ++ e) s') {s s' : σ} {es : List ε}
    (h : A.Run s es s') {before : List ε} (hs : P before s) : P (before ++ es) s' := by
  induction h generalizing before with
  | refl s => rwa [List.append_nil]
  | head h _ ih =>
    rw [← List.append_assoc]
    exact ih (hstep _ _ _ _ hs h)

/-- Where a step shows at most one event, a run can be cut at any event. -/
theorem split (hone : ∀ s e s', A.step s e s' → e.length ≤ 1) {s s'' : σ} {es before after : List ε} {a : ε} (h : A.Run s es s'')
    (hes : es = before ++ a :: after) : ∃ s₁ s₂, A.Run s before s₁ ∧ A.step s₁ [a] s₂ ∧ A.Run s₂ after s'' := by
  induction h generalizing before with
  | refl s => simp at hes
  | @head s s' s'' e es hstep hrest ih =>
    rcases e with _ | ⟨e₀, _ | ⟨e₁, e⟩⟩
    · obtain ⟨s₁, s₂, hrun, hstep', hafter⟩ := ih hes
      exact ⟨s₁, s₂, .head hstep hrun, hstep', hafter⟩
    · rcases before with _ | ⟨b, before⟩
      · obtain ⟨rfl, rfl⟩ := List.cons.inj hes
        exact ⟨s, s', .refl s, hstep, hrest⟩
      · obtain ⟨rfl, htail⟩ := List.cons.inj hes
        obtain ⟨s₁, s₂, hrun, hstep', hafter⟩ := ih htail
        exact ⟨s₁, s₂, .head hstep hrun, hstep', hafter⟩
    · have hshort := hone _ _ _ hstep
      simp at hshort

end Run

/-- A relation between the states of two systems: the second can follow each step of the first and show the same. -/
structure Simulation (A : TransitionSystem σ ε) (B : TransitionSystem τ ε) (R : σ → τ → Prop) : Prop where
  init : ∀ s, A.init s → ∃ t, B.init t ∧ R s t
  step : ∀ s t e s', R s t → A.step s e s' → ∃ t', B.Run t e t' ∧ R s' t'

namespace Simulation

variable {A : TransitionSystem σ ε} {B : TransitionSystem τ ε} {R : σ → τ → Prop}

/-- The second system can follow each run of the first. -/
theorem run (h : Simulation A B R) {s s' : σ} {es : List ε} (hrun : A.Run s es s') {t : τ} (hR : R s t) :
    ∃ t', B.Run t es t' ∧ R s' t' := by
  induction hrun generalizing t with
  | refl s => exact ⟨t, .refl t, hR⟩
  | head hstep _ ih =>
    obtain ⟨t₁, hrun₁, hR₁⟩ := h.step _ _ _ _ hR hstep
    obtain ⟨t₂, hrun₂, hR₂⟩ := ih hR₁
    exact ⟨t₂, hrun₁.trans hrun₂, hR₂⟩

/-- Every trace of the first system is one of the second. -/
theorem trace (h : Simulation A B R) {es : List ε} (htrace : A.Trace es) : B.Trace es := by
  obtain ⟨s, s', hs, hrun⟩ := htrace
  obtain ⟨t, ht, hR⟩ := h.init s hs
  obtain ⟨t', hrun', -⟩ := h.run hrun hR
  exact ⟨t, t', ht, hrun'⟩

/-- Every state that the first system reaches is related to one that the second reaches. -/
theorem reachable (h : Simulation A B R) {s : σ} (hs : A.Reachable s) : ∃ t, B.Reachable t ∧ R s t := by
  obtain ⟨s₀, es, h₀, hrun⟩ := hs
  obtain ⟨t₀, ht₀, hR⟩ := h.init s₀ h₀
  obtain ⟨t, hrun', hR'⟩ := h.run hrun hR
  exact ⟨t, ⟨t₀, es, ht₀, hrun'⟩, hR'⟩

end Simulation

end TransitionSystem
