import Mathlib.Data.List.Basic

/-!
# Runs over concatenated frames

A component reads one frame of its input per step. A run is aligned when every step starts at the boundary of its frame and has
read exactly that frame when it ends. Whether a step does so is a question about the step alone (`FramedRun.aligned_iff`): a run
is aligned exactly when each of its steps, taken at the boundary of its frame, reads exactly that frame.
-/

namespace FramedRun

variable {σ ι β : Type} (step : ι → σ → σ) (input : σ → List β) (frame : ι → List β)

/-- The state after steps taken one after the other. -/
def run (l : List ι) (s : σ) : σ := l.foldl (fun s i => step i s) s

@[simp] theorem run_nil (s : σ) : run step [] s = s := rfl

@[simp] theorem run_cons (i : ι) (l : List ι) (s : σ) : run step (i :: l) s = run step l (step i s) := rfl

/-- At every point of the run the input is what the steps still to come will read, and then the rest. -/
def Aligned (s : σ) (l : List ι) (rest : List β) : Prop :=
  ∀ done todo, l = done ++ todo → input (run step done s) = todo.flatMap frame ++ rest

variable {step input frame}

/-- A run that is aligned stays so after its first step. -/
theorem Aligned.tail {s : σ} {i : ι} {l : List ι} {rest : List β} (h : Aligned step input frame s (i :: l) rest) :
    Aligned step input frame (step i s) l rest := by
  intro done todo hl
  exact h (i :: done) todo (by rw [hl, List.cons_append])

/-- A run is aligned if its input is there at the start and the rest of it is aligned after the first step. -/
theorem aligned_cons {s : σ} {i : ι} {l : List ι} {rest : List β} (hs : input s = (i :: l).flatMap frame ++ rest)
    (h : Aligned step input frame (step i s) l rest) : Aligned step input frame s (i :: l) rest := by
  intro done todo hl
  cases done with
  | nil =>
    rw [List.nil_append] at hl
    rw [← hl]
    exact hs
  | cons j done =>
    rw [List.cons_append] at hl
    obtain ⟨rfl, rfl⟩ := List.cons.inj hl
    exact h done todo rfl

/-- If a step taken at the boundary of its frame reads exactly that frame just when it is good, a run is aligned just when all
its steps are good. -/
theorem aligned_iff (good : σ → ι → Prop)
    (h : ∀ s i tail, input s = frame i ++ tail → (input (step i s) = tail ↔ good s i)) {rest : List β} (l : List ι) (s : σ)
    (hs : input s = l.flatMap frame ++ rest) :
    Aligned step input frame s l rest ↔ ∀ done i todo, l = done ++ i :: todo → good (run step done s) i := by
  induction l generalizing s with
  | nil =>
    constructor
    · intro _ done i todo hl
      exact absurd hl.symm (List.append_ne_nil_of_right_ne_nil done (List.cons_ne_nil i todo))
    · intro _ done todo hl
      obtain ⟨rfl, rfl⟩ := List.append_eq_nil_iff.mp hl.symm
      exact hs
  | cons j l ih =>
    rw [List.flatMap_cons, List.append_assoc] at hs
    have hj := h s j _ hs
    constructor
    · intro ha done i todo hl
      have hs' : input (step j s) = l.flatMap frame ++ rest := ha [j] l rfl
      cases done with
      | nil =>
        obtain ⟨rfl, rfl⟩ := List.cons.inj hl
        exact hj.mp hs'
      | cons j' done =>
        rw [List.cons_append] at hl
        obtain ⟨rfl, rfl⟩ := List.cons.inj hl
        exact (ih _ hs').mp ha.tail done i todo rfl
    · intro hg
      have hs' : input (step j s) = l.flatMap frame ++ rest := hj.mpr (hg [] j l rfl)
      refine aligned_cons (by rw [List.flatMap_cons, List.append_assoc]; exact hs) ((ih _ hs').mpr ?_)
      intro done i todo hl
      exact hg (j :: done) i todo (by rw [hl, List.cons_append])

/-- If every step taken at the boundary of its frame reads exactly that frame, every run is aligned. -/
theorem aligned_of_step (h : ∀ s i tail, input s = frame i ++ tail → input (step i s) = tail) {rest : List β} (l : List ι)
    (s : σ) (hs : input s = l.flatMap frame ++ rest) : Aligned step input frame s l rest :=
  (aligned_iff (fun _ _ => True) (fun s i tail hi => ⟨fun _ => trivial, fun _ => h s i tail hi⟩) l s hs).mpr
    (fun _ _ _ _ => trivial)

end FramedRun
