import Mathlib.Tactic.Common

/-!
# Computations that can stop

A computation acts on a state and either gives a value or stops with a fault. The state it had reached survives the fault, so
that what was done before it can still be spoken of.
-/

/-- A computation on states `σ` that gives a value or stops with a fault `φ`. -/
def Exec (φ σ α : Type) : Type := σ → Except φ α × σ

namespace Exec

variable {φ σ α γ : Type}

instance : Monad (Exec φ σ) where
  pure a := fun s => (.ok a, s)
  bind m f := fun s =>
    match m s with
    | (.ok a, s') => f a s'
    | (.error e, s') => (.error e, s')

/-- The current state. -/
def state : Exec φ σ σ := fun s => (.ok s, s)

/-- Change the state. -/
def update (f : σ → σ) : Exec φ σ Unit := fun s => (.ok (), f s)

/-- Stop with a fault. -/
def stop (e : φ) : Exec φ σ α := fun s => (.error e, s)

/-- A computation that does not look at the state. -/
def ofExcept (x : Except φ α) : Exec φ σ α := fun s => (x, s)

/-- After a step that gave a value, a computation goes on from the state it left. -/
theorem bind_ok {m : Exec φ σ α} {f : α → Exec φ σ γ} {s s' : σ} {a : α} (h : m s = (.ok a, s')) :
    (m >>= f) s = f a s' := by
  show (match m s with | (.ok a, s') => f a s' | (.error e, s') => (.error e, s')) = _
  rw [h]

/-- After a step that stopped, a computation has stopped. -/
theorem bind_error {m : Exec φ σ α} {f : α → Exec φ σ γ} {s s' : σ} {e : φ} (h : m s = (.error e, s')) :
    (m >>= f) s = (.error e, s') := by
  show (match m s with | (.ok a, s') => f a s' | (.error e, s') => (.error e, s')) = _
  rw [h]

/-- Two outcomes with a value are the same only with the same value and the same state. -/
theorem ok_inj {s s' : σ} {a b : α} (h : ((.ok a, s) : Except φ α × σ) = (.ok b, s')) : a = b ∧ s = s' := by
  obtain ⟨hvalue, hstate⟩ := Prod.mk.inj h
  exact ⟨Except.ok.inj hvalue, hstate⟩

/-- A computation gives one value and leaves one state. -/
theorem ok_unique {m : Exec φ σ α} {s s₁ s₂ : σ} {a b : α} (h : m s = (.ok a, s₁)) (h' : m s = (.ok b, s₂)) : a = b ∧ s₁ = s₂ :=
  ok_inj (h.symm.trans h')

@[simp] theorem bind_state (f : σ → Exec φ σ γ) (s : σ) : (state >>= f) s = f s s := rfl

@[simp] theorem bind_update (g : σ → σ) (f : Unit → Exec φ σ γ) (s : σ) : (update g >>= f) s = f () (g s) := rfl

instance : LawfulMonad (Exec φ σ) := LawfulMonad.mk' (Exec φ σ)
  (by
    intro α x
    funext s
    show (match x s with | (.ok a, s') => (.ok a, s') | (.error e, s') => (.error e, s')) = x s
    rcases x s with ⟨_ | _, _⟩ <;> rfl)
  (fun _ _ => rfl)
  (by
    intro α β γ x f g
    funext s
    rcases hx : x s with ⟨e | a, s'⟩
    · rw [bind_error hx, bind_error (bind_error hx)]
    · rw [bind_ok hx]
      rcases hf : f a s' with ⟨e | b, s''⟩
      · rw [bind_error hf, bind_error ((bind_ok hx).trans hf)]
      · rw [bind_ok hf, bind_ok ((bind_ok hx).trans hf)])

/-- A sequence of computations that do not look at the state. -/
theorem ofExcept_bind (x : Except φ α) (f : α → Except φ γ) :
    (ofExcept (x >>= f) : Exec φ σ γ) = ofExcept x >>= fun a => ofExcept (f a) := by
  cases x <;> rfl

theorem ofExcept_pure (a : α) : (ofExcept (pure a) : Exec φ σ α) = pure a := rfl

/-- A computation that gave a value went through each of its steps. -/
theorem bind_eq_ok {m : Exec φ σ α} {f : α → Exec φ σ γ} {s s'' : σ} {c : γ} (h : (m >>= f) s = (.ok c, s'')) :
    ∃ a s', m s = (.ok a, s') ∧ f a s' = (.ok c, s'') := by
  rcases hm : m s with ⟨e | a, s'⟩
  · rw [bind_error hm] at h
    cases h
  · exact ⟨a, s', rfl, by rwa [bind_ok hm] at h⟩

/-- A loop over one element is one pass. -/
theorem forM_singleton {a : α} {f : α → Exec φ σ PUnit} {s s' : σ} (h : f a s = (.ok ⟨⟩, s')) :
    [a].forM f s = (.ok ⟨⟩, s') :=
  bind_ok h

/-! ## Computations on a part of the state -/

/-- Run a computation on the part of the state that `get` sees. -/
def within {τ : Type} (get : σ → τ) (set : τ → σ → σ) (m : Exec φ τ α) : Exec φ σ α :=
  fun s => ((m (get s)).1, set (m (get s)).2 s)

/-- A computation on a part of the state does there what it does by itself. -/
theorem within_apply {τ : Type} {get : σ → τ} (set : τ → σ → σ) {m : Exec φ τ α} {s : σ} {t : τ} {x : Except φ α}
    (h : m (get s) = (x, t)) : within get set m s = (x, set t s) := by
  unfold within
  rw [h]

/-! ## What a computation leaves alone -/

/-- Whether it gives a value or stops, the computation leaves what `f` sees of the state as it is. -/
def Keeps {τ : Type} (f : σ → τ) (m : Exec φ σ α) : Prop := ∀ s, f (m s).2 = f s

namespace Keeps

variable {τ : Type} {f : σ → τ}

theorem pure (a : α) : Keeps f (Pure.pure a : Exec φ σ α) := fun _ => rfl

theorem state : Keeps f (state : Exec φ σ σ) := fun _ => rfl

theorem stop (e : φ) : Keeps f (stop e : Exec φ σ α) := fun _ => rfl

theorem ofExcept (x : Except φ α) : Keeps f (ofExcept x : Exec φ σ α) := fun _ => rfl

/-- An update leaves alone what the function does. -/
theorem update {g : σ → σ} (h : ∀ s, f (g s) = f s) : Keeps f (update g : Exec φ σ Unit) := h

/-- A sequence leaves alone what each of its parts does. -/
theorem bind {m : Exec φ σ α} {k : α → Exec φ σ γ} (hm : Keeps f m) (hk : ∀ a, Keeps f (k a)) : Keeps f (m >>= k) := by
  intro s
  rcases h : m s with ⟨e | a, s'⟩
  · rw [bind_error h, ← hm s, h]
  · rw [bind_ok h, hk a s', ← hm s, h]

/-- A choice leaves alone what both its sides do. -/
theorem ite {c : Prop} [Decidable c] {m m' : Exec φ σ α} (hm : Keeps f m) (hm' : Keeps f m') :
    Keeps f (if c then m else m') := by
  by_cases hc : c
  · rwa [if_pos hc]
  · rwa [if_neg hc]

end Keeps

end Exec
