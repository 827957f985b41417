import Mothbus.Library.Exec

/-!
# Computations that keep a log

A computation can note what it does while it runs. Without its notes it is another computation (`Logged.Erases`), step by step; and
a property of every note is proved step by step as well, along with what is known of the state in between (`Logged.Notes`).
-/

/-- A computation on states `σ` that notes events of type `E`. -/
abbrev Logged (φ σ E α : Type) : Type := Exec φ (σ × List E) α

namespace Logged

variable {φ σ E α γ : Type}

/-- Note some events. -/
def note (es : List E) : Logged φ σ E Unit := Exec.update (fun s => (s.1, s.2 ++ es))

/-- A computation that notes nothing. -/
def quiet (m : Exec φ σ α) : Logged φ σ E α := Exec.within Prod.fst (fun t s => (t, s.2)) m

/-- What is noted goes to the end of the log. -/
@[simp] theorem note_bind_apply (es : List E) (k : Unit → Logged φ σ E α) (s : σ) (log : List E) :
    (note es >>= k) (s, log) = k () (s, log ++ es) := rfl

/-! ## Without the log -/

/-- Without its log, a computation gives what another gives and leaves the state the other leaves. -/
def Erases (l : Logged φ σ E α) (m : Exec φ σ α) : Prop :=
  ∀ s log, (l (s, log)).1 = (m s).1 ∧ (l (s, log)).2.1 = (m s).2

/-- A computation that notes nothing is itself without the log. -/
theorem erases_quiet (m : Exec φ σ α) : Erases (quiet m : Logged φ σ E α) m := fun _ _ => ⟨rfl, rfl⟩

theorem erases_pure (a : α) : Erases (pure a : Logged φ σ E α) (pure a) := fun _ _ => ⟨rfl, rfl⟩

namespace Erases

/-- Notes before a computation are forgotten. -/
theorem note_bind {l : Logged φ σ E α} {m : Exec φ σ α} (h : Erases l m) (es : List E) :
    Erases (note es >>= fun _ => l) m := by
  intro s log
  rw [note_bind_apply]
  exact h s (log ++ es)

/-- A sequence is forgotten part by part. -/
theorem bind {l : Logged φ σ E α} {m : Exec φ σ α} {k : α → Logged φ σ E γ} {f : α → Exec φ σ γ} (h : Erases l m)
    (hk : ∀ a, Erases (k a) (f a)) : Erases (l >>= k) (m >>= f) := by
  intro s log
  obtain ⟨h1, h2⟩ := h s log
  rcases hl : l (s, log) with ⟨e | a, s', log'⟩
  · rcases hm : m s with ⟨x, t⟩
    rw [hl, hm] at h1 h2
    obtain rfl := h1
    rw [Exec.bind_error hl, Exec.bind_error hm]
    exact ⟨rfl, h2⟩
  · rcases hm : m s with ⟨x, t⟩
    rw [hl, hm] at h1 h2
    obtain rfl := h1
    obtain rfl := h2
    rw [Exec.bind_ok hl, Exec.bind_ok hm]
    exact hk a s' log'

/-- A choice is forgotten side by side. -/
theorem ite {c : Prop} [Decidable c] {l l' : Logged φ σ E α} {m m' : Exec φ σ α} (h : Erases l m) (h' : Erases l' m') :
    Erases (if c then l else l') (if c then m else m') := by
  by_cases hc : c
  · rwa [if_pos hc, if_pos hc]
  · rwa [if_neg hc, if_neg hc]

/-- A loop is forgotten pass by pass. -/
theorem forM {β : Type} {f : β → Logged φ σ E PUnit} {g : β → Exec φ σ PUnit} (h : ∀ b, Erases (f b) (g b)) (l : List β) :
    Erases (l.forM f) (l.forM g) := by
  induction l with
  | nil => exact erases_pure _
  | cons b l ih => exact (h b).bind fun _ => ih

/-- From an empty log, a run is the run of the other computation and some notes. -/
theorem exists_notes {l : Logged φ σ E α} {m : Exec φ σ α} (h : Erases l m) (s : σ) :
    l (s, []) = ((m s).1, ((m s).2, (l (s, [])).2.2)) := by
  obtain ⟨h1, h2⟩ := h s []
  rw [← h1, ← h2]

end Erases

/-! ## A property of every note -/

/-- From a state that `pre` holds of, `P` holds of everything that is noted, and `post` of what is given and of the state then. -/
def Notes (P : E → Prop) (pre : σ → Prop) (l : Logged φ σ E α) (post : α → σ → Prop) : Prop :=
  ∀ s log, pre s → (∀ e ∈ log, P e) →
    (∀ e ∈ (l (s, log)).2.2, P e) ∧ ∀ a, (l (s, log)).1 = .ok a → post a (l (s, log)).2.1

namespace Notes

variable {P : E → Prop} {pre : σ → Prop} {post : α → σ → Prop} {mid : γ → σ → Prop}

theorem pure {a : α} (h : ∀ s, pre s → post a s) : Notes P pre (Pure.pure a : Logged φ σ E α) post := by
  intro s log hs hlog
  refine ⟨hlog, ?_⟩
  rintro _ ⟨⟩
  exact h s hs

/-- A note has the property, and then what follows it. -/
theorem note_bind {es : List E} {l : Logged φ σ E α} (hes : ∀ e ∈ es, P e) (hl : Notes P pre l post) :
    Notes P pre (Logged.note es >>= fun _ => l) post := by
  intro s log hs hlog
  refine hl s (log ++ es) hs ?_
  intro e he
  rcases List.mem_append.mp he with he | he
  · exact hlog e he
  · exact hes e he

/-- So it is with a note of one event. -/
theorem note_one_bind {e : E} {l : Logged φ σ E α} (he : P e) (hl : Notes P pre l post) :
    Notes P pre (Logged.note [e] >>= fun _ => l) post := by
  refine note_bind ?_ hl
  intro e' he'
  rw [List.mem_singleton.mp he']
  exact he

/-- A computation that notes nothing. -/
theorem quiet {m : Exec φ σ α} (h : ∀ s a s', pre s → m s = (.ok a, s') → post a s') :
    Notes P pre (Logged.quiet m : Logged φ σ E α) post := by
  intro s log hs hlog
  exact ⟨hlog, fun a ha => h s a _ hs (Prod.ext ha rfl)⟩

theorem silent (m : Exec φ σ α) : Notes P pre (Logged.quiet m : Logged φ σ E α) fun _ _ => True := quiet fun _ _ _ _ _ => trivial

/-- In sequence, what the first part leaves is what the second starts from. -/
theorem bind {l : Logged φ σ E γ} {k : γ → Logged φ σ E α} (h : Notes P pre l mid) (hk : ∀ c, Notes P (mid c) (k c) post) :
    Notes P pre (l >>= k) post := by
  intro s log hs hlog
  obtain ⟨h1, h2⟩ := h s log hs hlog
  rcases hl : l (s, log) with ⟨e | c, s', log'⟩
  · rw [hl] at h1
    rw [Exec.bind_error hl]
    refine ⟨h1, ?_⟩
    rintro _ ⟨⟩
  · rw [hl] at h1 h2
    rw [Exec.bind_ok hl]
    exact hk c s' log' (h2 c rfl) h1

/-- A part that notes nothing and of which nothing has to be known. -/
theorem quiet_bind {m : Exec φ σ γ} {k : γ → Logged φ σ E α} (hk : ∀ c, Notes P (fun _ => True) (k c) post) :
    Notes P pre (Logged.quiet m >>= k) post :=
  .bind (silent m) hk

/-- A look at the state. -/
theorem state_bind {k : σ → Logged φ σ E α} (hk : ∀ c, pre c → Notes P (fun s => s = c) (k c) post) :
    Notes P pre (Logged.quiet Exec.state >>= k) post :=
  fun s log hs hlog => hk s hs s log rfl hlog

/-- What the state says about values that are known already. -/
theorem of_pre {q : Prop} {l : Logged φ σ E α} (h : ∀ s, pre s → q) (hl : q → Notes P pre l post) : Notes P pre l post :=
  fun s log hs hlog => hl (h s hs) s log hs hlog

/-- A choice notes what the side does that is taken. -/
theorem ite {c : Prop} [Decidable c] {l l' : Logged φ σ E α} (h : c → Notes P pre l post) (h' : ¬c → Notes P pre l' post) :
    Notes P pre (if c then l else l') post := by
  by_cases hc : c
  · rw [if_pos hc]
    exact h hc
  · rw [if_neg hc]
    exact h' hc

/-- What a computation leaves is what it leaves without its notes. -/
theorem of_erases {l : Logged φ σ E α} {m : Exec φ σ α} (h : Notes P pre l fun _ _ => True) (he : Erases l m)
    (hm : ∀ s, pre s → ∀ a, (m s).1 = .ok a → post a (m s).2) : Notes P pre l post := by
  intro s log hs hlog
  obtain ⟨h1, h2⟩ := he s log
  refine ⟨(h s log hs hlog).1, ?_⟩
  rw [h1, h2]
  exact hm s hs

/-- In a loop, what a pass starts from holds after it. -/
theorem forM {β : Type} {f : β → Logged φ σ E PUnit} (h : ∀ b, Notes P pre (f b) fun _ => pre) (l : List β) :
    Notes P pre (l.forM f) fun _ => pre := by
  induction l with
  | nil => exact .pure fun _ hs => hs
  | cons b l ih => exact (h b).bind fun _ => ih

end Notes

end Logged
