import Mothbus.Library.Decoder

/-!
# Where the input ends

A source can report its end or hide it. A program that stops at the first failure, and that does not end with the error of the
end by itself, gives the same on both exactly when its input does not end before it is done (`ReadProgram.Propagates.hiding_iff`).
-/

open ErrorLike (ok failed)

namespace ReadProgram

variable {ε β α γ : Type} [ErrorLike ε] {P Q : ε → Prop}

/-- The source of items that hides its end: there, a request succeeds and leaves the variable as it was. -/
def hidingSource : Source ε β (List β) where
  get old
    | [] => (ok, old, [])
    | b :: rest => (ok, b, rest)

@[simp] theorem hidingSource_nil (old : β) : (hidingSource (ε := ε)).get old [] = (ok, old, []) := rfl

@[simp] theorem hidingSource_cons (old b : β) (rest : List β) :
    (hidingSource (ε := ε)).get old (b :: rest) = (ok, b, rest) := rfl

/-! ## The errors of a program itself -/

/-- As long as none of its requests fails, the program ends with an error that `P` holds of. -/
def Ends (P : ε → Prop) : ReadProgram ε β (ε × α) → Prop
  | done r => P r.1
  | get _ next => ∀ b, (next ok b).Ends P

/-- A request that does not fail ends with success. -/
theorem ends_request (old : β) : Ends (· = ok) (request old : ReadProgram ε β (ε × β)) := fun _ => rfl

/-- What holds of the errors of a program may be weakened. -/
theorem Ends.mono {p : ReadProgram ε β (ε × α)} (h : Ends P p) (hPQ : ∀ e, P e → Q e) : Ends Q p := by
  induction p with
  | done r => exact hPQ _ h
  | get old next ih => exact fun b => ih ok b (h b)

/-- In sequence, a program ends as its second part does. -/
theorem Ends.bind {p : ReadProgram ε β (ε × α)} {f : ε × α → ReadProgram ε β (ε × γ)} (hp : Ends P p)
    (hf : ∀ e a, P e → Ends Q (f (e, a))) : Ends Q (p >>= f) := by
  show Ends Q (p.bind f)
  induction p with
  | done r => exact hf r.1 r.2 hp
  | get old next ih => exact fun b => ih ok b (hp b)

/-- On a source that hides its end, a program ends with an error of its own. -/
theorem Ends.run_hiding {p : ReadProgram ε β (ε × α)} (h : Ends P p) (l : List β) : P (p.run hidingSource l).1.1 := by
  induction p generalizing l with
  | done r => exact h
  | get old next ih =>
    rcases l with _ | ⟨b, rest⟩
    · exact ih ok old (h old) []
    · exact ih ok b (h b) rest

variable {eof : ε}

/-- On a source that reports its end, a program that stops at the first failure ends with an error of its own or with that of the
end. -/
theorem Propagates.run_ends {p : ReadProgram ε β (ε × α)} (hp : Propagates p) (heof : failed eof = true) (h : Ends P p)
    (l : List β) : P (p.run (listSource eof) l).1.1 ∨ (p.run (listSource eof) l).1.1 = eof := by
  induction p generalizing l with
  | done r => exact Or.inl h
  | get old next ih =>
    rcases l with _ | ⟨b, rest⟩
    · obtain ⟨a, ha⟩ := (hp eof old).1 heof
      simp only [run, listSource_nil, ha]
      exact Or.inr trivial
    · exact ih ok b ((hp ok b).2 ErrorLike.failed_ok) (h b) rest

/-- A run that did not meet the end of its input is the same where the end is hidden. -/
theorem Propagates.run_hiding {p : ReadProgram ε β (ε × α)} (hp : Propagates p) (heof : failed eof = true) {l : List β}
    (h : (p.run (listSource eof) l).1.1 ≠ eof) : p.run hidingSource l = p.run (listSource eof) l := by
  induction p generalizing l with
  | done r => rfl
  | get old next ih =>
    rcases l with _ | ⟨b, rest⟩
    · obtain ⟨a, ha⟩ := (hp eof old).1 heof
      simp only [run, listSource_nil, ha] at h
      exact absurd rfl h
    · exact ih ok b ((hp ok b).2 ErrorLike.failed_ok) h

/-- A program that stops at the first failure, and never ends with the error of the end by itself, gives the same where the end is
hidden exactly when it does not meet it. -/
theorem Propagates.hiding_iff {p : ReadProgram ε β (ε × α)} (hp : Propagates p) (heof : failed eof = true)
    (h : Ends (· ≠ eof) p) (l : List β) :
    (p.run hidingSource l).1 = (p.run (listSource eof) l).1 ↔ (p.run (listSource eof) l).1.1 ≠ eof := by
  constructor
  · intro heq
    rw [← heq]
    exact h.run_hiding l
  · intro hne
    rw [hp.run_hiding heof hne]

end ReadProgram

namespace Decoder

open ReadProgram

variable {ε β α γ : Type}

/-- Through a view of a variable as another type, two sources give the same exactly if they do so for that type. -/
theorem run_through_eq_iff {σ τ : Type} {S : Source ε β σ} {T : Source ε β τ} (d : Decoder ε β γ) (e : α ≃ γ) (a : α) {s : σ}
    {t : τ} : ((d.through e a).run S s).1 = ((d.through e a).run T t).1 ↔ ((d (e a)).run S s).1 = ((d (e a)).run T t).1 := by
  simp only [through, focus, run_bind, run_pure, EmbeddingLike.apply_eq_iff_eq, Prod.ext_iff]

variable [ErrorLike ε] {P : ε → Prop}

/-- Whatever the variable held, the decoder ends with an error that `P` holds of unless a request fails. -/
def Ending (P : ε → Prop) (d : Decoder ε β α) : Prop := ∀ a, Ends P (d a)

theorem ending_succeed : Ending (· = ok) (succeed : Decoder ε β α) := fun _ => rfl

theorem ending_alter (f : α → α) : Ending (· = ok) (alter f : Decoder ε β α) := fun _ => rfl

/-- A test ends with success or with its own error. -/
theorem ending_require (test : α → Bool) (e : ε) : Ending (fun er => er = ok ∨ er = e) (require test e : Decoder ε β α) := by
  intro a
  show (if test a then ok else e) = ok ∨ (if test a then ok else e) = e
  cases test a
  · exact Or.inr rfl
  · exact Or.inl rfl

/-- A step that does not fail by itself, and then others. -/
theorem Ending.checked {d e : Decoder ε β α} (hd : Ending (· = ok) d) (he : Ending P e) : Ending P (d.checked e) := by
  intro a
  refine (hd a).bind ?_
  rintro er b rfl
  simp only [ErrorLike.failed_ok]
  exact he b

/-- A last step that can fail by itself. -/
theorem Ending.checked_succeed {d : Decoder ε β α} (hd : Ending P d) (hok : P ok) : Ending P (d.checked succeed) := by
  intro a
  refine (hd a).bind fun er b hP => ?_
  by_cases h : failed er = true
  · simp only [h, if_true]
    exact hP
  · simp only [h]
    exact hok

/-- Filling a part of a variable ends as filling the part does. -/
theorem Ending.focus {d : Decoder ε β γ} (hd : Ending P d) (part : α → γ) (put : γ → α → α) :
    Ending P (d.focus part put) := by
  intro a
  exact (hd (part a)).bind fun _ _ h => h

/-- So does filling a variable that is seen as another type. -/
theorem Ending.through {d : Decoder ε β γ} (hd : Ending P d) (e : α ≃ γ) : Ending P (d.through e) := hd.focus _ _

/-- Filling the items of a list ends with success if filling each item does. -/
theorem Ending.each {d : Decoder ε β α} (hd : Ending (· = ok) d) : Ending (· = ok) d.each := by
  intro as
  induction as with
  | nil => rfl
  | cons a as ih =>
    refine (hd a).bind ?_
    rintro er b rfl
    simp only [ErrorLike.failed_ok]
    exact ih.bind fun _ _ h => h

end Decoder
