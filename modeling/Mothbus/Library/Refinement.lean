import Mothbus.Library.Exec

/-!
# Computations seen through a view

A computation on states `σ` refines one on states `τ` when a view of the states takes the runs of the first to the runs of the
second. What the view does not show then has no effect on what it shows (`Exec.Refines.agree`).
-/

namespace Exec

variable {φ σ τ α γ : Type}

/-- From every state that `I` holds of, `m` does what `m'` does on what `view` shows of it; and `I` holds of the state it leaves. -/
def Refines (I : σ → Prop) (view : σ → τ) (m : Exec φ σ α) (m' : Exec φ τ α) : Prop :=
  ∀ s, I s → (m s).1 = (m' (view s)).1 ∧ view (m s).2 = (m' (view s)).2 ∧ I (m s).2

namespace Refines

variable {I : σ → Prop} {view : σ → τ}

theorem pure (a : α) : Refines I view (Pure.pure a : Exec φ σ α) (Pure.pure a) := fun _ hs => ⟨rfl, rfl, hs⟩

/-- An update refines another if it shows as the other and keeps the invariant. -/
theorem update {f : σ → σ} {g : τ → τ} (hview : ∀ s, I s → view (f s) = g (view s)) (hI : ∀ s, I s → I (f s)) :
    Refines I view (update f : Exec φ σ Unit) (update g) :=
  fun s hs => ⟨rfl, hview s hs, hI s hs⟩

/-- A sequence is refined part by part. -/
theorem bind {m : Exec φ σ α} {m' : Exec φ τ α} {k : α → Exec φ σ γ} {k' : α → Exec φ τ γ} (h : Refines I view m m')
    (hk : ∀ a, Refines I view (k a) (k' a)) : Refines I view (m >>= k) (m' >>= k') := by
  intro s hs
  obtain ⟨h1, h2, h3⟩ := h s hs
  rcases hm : m s with ⟨x, t⟩
  rcases hm' : m' (view s) with ⟨x', t'⟩
  rw [hm, hm'] at h1 h2
  rw [hm] at h3
  obtain rfl := h1
  obtain rfl := h2
  cases x with
  | error e =>
    rw [bind_error hm, bind_error hm']
    exact ⟨rfl, rfl, h3⟩
  | ok a =>
    rw [bind_ok hm, bind_ok hm']
    exact hk a t h3

/-- A loop is refined pass by pass. -/
theorem forM {β : Type} {f : β → Exec φ σ PUnit} {g : β → Exec φ τ PUnit} (h : ∀ b, Refines I view (f b) (g b))
    (l : List β) : Refines I view (l.forM f) (l.forM g) := by
  induction l with
  | nil => exact .pure _
  | cons b l ih => exact (h b).bind fun _ => ih

/-- A computation on a part of the state is refined on the part of the view that the part shows as. -/
theorem within {σ' τ' : Type} {view' : σ' → τ'} {m : Exec φ σ' α} {m' : Exec φ τ' α} {get : σ → σ'}
    {set : σ' → σ → σ} {get' : τ → τ'} {set' : τ' → τ → τ} (h : Refines (fun _ => True) view' m m') (hget : ∀ s, view' (get s) = get' (view s))
    (hset : ∀ t s, view (set t s) = set' (view' t) (view s)) (hI : ∀ t s, I s → I (set t s)) :
    Refines I view (within get set m) (within get' set' m') := by
  intro s hs
  obtain ⟨h1, h2, -⟩ := h (get s) trivial
  rw [hget] at h1 h2
  refine ⟨h1, ?_, hI _ s hs⟩
  show view (set (m (get s)).2 s) = set' (m' (get' (view s))).2 (view s)
  rw [hset, h2]

/-- Two computations that refine the same, from states that look the same, give the same and leave states that look the same. -/
theorem agree {m₁ m₂ : Exec φ σ α} {m' : Exec φ τ α} (h₁ : Refines I view m₁ m') (h₂ : Refines I view m₂ m') {s t : σ}
    (hs : I s) (ht : I t) (hv : view s = view t) : (m₁ s).1 = (m₂ t).1 ∧ view (m₁ s).2 = view (m₂ t).2 := by
  obtain ⟨h1, h2, -⟩ := h₁ s hs
  obtain ⟨h3, h4, -⟩ := h₂ t ht
  rw [hv] at h1 h2
  exact ⟨h1.trans h3.symm, h2.trans h4.symm⟩

end Refines

end Exec
