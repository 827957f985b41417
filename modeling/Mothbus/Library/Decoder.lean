import Mathlib.Logic.Equiv.Defs
import Mothbus.Library.ReadProgram

/-!
# Decoders: read programs that fill a variable

A decoder takes the variable to fill and gives back an error and the variable as it then stands; on an error the variable may
be half filled. Decoders are put together field by field, each step checked: after a failing step the decoder returns that
step's error at once.
-/

open ErrorLike (ok failed)

/-- A decoder of `α`: a read program that fills a variable of that type. -/
abbrev Decoder (ε β α : Type) := α → ReadProgram ε β (ε × α)

namespace Decoder

open ReadProgram

variable {ε β α γ : Type} [ErrorLike ε]

/-- Nothing left to read: success. -/
def succeed : Decoder ε β α := fun a => pure (ok, a)

/-- Run a decoder and return its error if it failed; otherwise go on. -/
def checked (d e : Decoder ε β α) : Decoder ε β α := fun a => do
  let r ← d a
  if failed r.1 then pure r else e r.2

/-- Fill one part of a variable. -/
def focus (part : α → γ) (put : γ → α → α) (d : Decoder ε β γ) : Decoder ε β α := fun a => do
  let r ← d (part a)
  pure (r.1, put r.2 a)

/-- Read nothing; fail with `e` unless the variable passes a test. -/
def require (test : α → Bool) (e : ε) : Decoder ε β α := fun a => pure (if test a then ok else e, a)

/-- Read nothing; change the variable. -/
def alter (f : α → α) : Decoder ε β α := fun a => pure (ok, f a)

/-- Fill a variable through a view of it as another type. -/
def through (e : α ≃ γ) (d : Decoder ε β γ) : Decoder ε β α := d.focus e (fun c _ => e.symm c)

/-- Fill the items of a list one by one, each step checked; the items after a failing step stay as they were. -/
def each (d : Decoder ε β α) : Decoder ε β (List α)
  | [] => pure (ok, [])
  | a :: as => do
    let r ← d a
    if failed r.1 then pure (r.1, r.2 :: as)
    else do
      let rs ← each d as
      pure (rs.1, r.2 :: rs.2)

/-! ## Decoders that stop at the first failure -/

/-- A decoder that stops at the first failing request, whatever the variable held. -/
def Propagating (d : Decoder ε β α) : Prop := ∀ a, (d a).Propagates

theorem propagating_succeed : Propagating (succeed : Decoder ε β α) := fun _ => trivial

theorem propagating_require (test : α → Bool) (e : ε) : Propagating (require test e : Decoder ε β α) := fun _ => trivial

theorem propagating_alter (f : α → α) : Propagating (alter f : Decoder ε β α) := fun _ => trivial

/-- Two decoders in sequence stop at the first failure if each does. -/
theorem Propagating.checked {d e : Decoder ε β α} (hd : Propagating d) (he : Propagating e) :
    Propagating (d.checked e) := by
  intro a
  refine (hd a).bind (fun er b h => ⟨b, ?_⟩) (fun er b h => ?_)
  · simp only [h, if_true]
    rfl
  · simp only [h]
    exact he b

/-- A part of a variable is filled up to the first failure, as the decoder of the part does. -/
theorem Propagating.focus {d : Decoder ε β γ} (hd : Propagating d) (part : α → γ) (put : γ → α → α) :
    Propagating (d.focus part put) := by
  intro a
  exact (hd (part a)).bind (fun _ c _ => ⟨put c a, rfl⟩) (fun _ _ _ => trivial)

theorem Propagating.through {d : Decoder ε β γ} (hd : Propagating d) (e : α ≃ γ) : Propagating (d.through e) :=
  hd.focus _ _

/-- The items of a list are filled up to the first failure. -/
theorem Propagating.each {d : Decoder ε β α} (hd : Propagating d) : Propagating d.each := by
  intro as
  induction as with
  | nil => trivial
  | cons a as ih =>
    refine (hd a).bind (fun er b h => ⟨b :: as, ?_⟩) (fun er b h => ?_)
    · simp only [h, if_true]
      rfl
    · simp only [h]
      exact ih.bind (fun _ bs _ => ⟨b :: bs, rfl⟩) (fun _ _ _ => trivial)

/-! ## What a decoder decodes -/

variable {eof : ε}

/-- From the variable `a`, a decoder succeeds on exactly the items `used` and leaves `a'`, whatever comes after them. -/
def Decodes (eof : ε) (d : Decoder ε β α) (a : α) (used : List β) (a' : α) : Prop := Consumes eof (d a) used (ok, a')

theorem decodes_succeed (a : α) : Decodes eof (succeed : Decoder ε β α) a [] a := consumes_pure _

/-- A variable that passes the test stays as it is. -/
theorem decodes_require {test : α → Bool} {e : ε} {a : α} (h : test a = true) :
    Decodes eof (require test e : Decoder ε β α) a [] a := by
  intro rest
  simp [require, h]

theorem decodes_alter (f : α → α) (a : α) : Decodes eof (alter f : Decoder ε β α) a [] (f a) := consumes_pure _

/-- Two checked steps decode what the first decodes and then what the second decodes. -/
theorem Decodes.checked {d e : Decoder ε β α} {a a' a'' : α} {u v : List β} (hd : Decodes eof d a u a')
    (he : Decodes eof e a' v a'') : Decodes eof (d.checked e) a (u ++ v) a'' := by
  refine Consumes.bind hd ?_
  rw [ErrorLike.failed_ok]
  exact he

/-- What is decoded for a part is put there. -/
theorem Decodes.focus {d : Decoder ε β γ} {part : α → γ} {put : γ → α → α} {a : α} {c : γ} {u : List β}
    (hd : Decodes eof d (part a) u c) : Decodes eof (d.focus part put) a u (put c a) :=
  Consumes.map hd (fun r => (r.1, put r.2 a))

/-- What is decoded as the other type is the variable seen as that type. -/
theorem Decodes.through {d : Decoder ε β γ} {e : α ≃ γ} {a a' : α} {u : List β} (hd : Decodes eof d (e a) u (e a')) :
    Decodes eof (d.through e) a u a' := by
  have h : Decodes eof (d.focus e (fun c _ => e.symm c)) a u (e.symm (e a')) := Decodes.focus hd
  rwa [e.symm_apply_apply] at h

/-- A list of variables is filled by the items of its elements, in order. -/
theorem decodes_each {d : Decoder ε β α} {enc : α → List β} (h : ∀ a a', Decodes eof d a (enc a') a') :
    ∀ as bs : List α, as.length = bs.length → Decodes eof d.each as (bs.flatMap enc) bs
  | [], [], _ => consumes_pure _
  | a :: as, b :: bs, hlen => by
    have hrec := decodes_each h as bs (by simpa using hlen)
    refine Consumes.bind (h a b) ?_
    rw [ErrorLike.failed_ok]
    exact Consumes.map hrec (fun rs => (rs.1, b :: rs.2))

/-! ## Inversion: what a successful decoder has read -/

/-- A decoder that reads nothing has read nothing. -/
theorem succeed_inv {a a' : α} {used : List β} {e : ε} (h : Consumes eof (succeed (β := β) a) used (e, a')) :
    used = [] ∧ e = ok ∧ a' = a := by
  obtain ⟨h1, h2⟩ := Prod.mk.inj (h.run_eq.symm.trans (run_pure _ _ _))
  obtain ⟨rfl, rfl⟩ := Prod.mk.inj h1
  exact ⟨h2.symm, rfl, rfl⟩

/-- A test that has not failed has been passed, and nothing has been read or changed. -/
theorem require_inv {test : α → Bool} {err e : ε} {a a' : α} {used : List β} (herr : failed err = true)
    (h : Consumes eof (require (β := β) test err a) used (e, a')) (hok : failed e = false) :
    used = [] ∧ e = ok ∧ a' = a ∧ test a = true := by
  obtain ⟨h1, h2⟩ := Prod.mk.inj (h.run_eq.symm.trans (run_pure _ _ _))
  obtain ⟨rfl, rfl⟩ := Prod.mk.inj h1
  cases ht : test a' with
  | true => exact ⟨h2.symm, rfl, rfl, rfl⟩
  | false =>
    rw [ht] at hok
    exact absurd (hok.symm.trans herr) (by decide)

/-- A change has read nothing and has made that change. -/
theorem alter_inv {f : α → α} {a a' : α} {used : List β} {e : ε} (h : Consumes eof (alter (β := β) f a) used (e, a')) :
    used = [] ∧ e = ok ∧ a' = f a :=
  succeed_inv (a := f a) h

/-- If a program's failures are passed on and the whole did not fail, its first step did not fail. -/
theorem first_not_failed {p : ReadProgram ε β (ε × α)} {f : ε × α → ReadProgram ε β (ε × γ)} {used : List β} {e : ε} {c : γ}
    (hfail : ∀ r, failed r.1 = true → ∃ c', f r = pure (r.1, c')) (h : Consumes eof (p >>= f) used (e, c))
    (hok : failed e = false) : failed (p.run (listSource eof) used).1.1 = false := by
  cases hf : failed (p.run (listSource eof) used).1.1 with
  | false => rfl
  | true =>
    obtain ⟨c', hc⟩ := hfail _ hf
    have h' := h.run_eq
    rw [run_bind, hc, run_pure] at h'
    obtain ⟨h1, -⟩ := Prod.mk.inj h'
    obtain ⟨rfl, -⟩ := Prod.mk.inj h1
    exact absurd (hok.symm.trans hf) (by decide)

/-- Two checked steps that succeeded: the items split into those of the first and those of the second, and neither failed. -/
theorem Propagating.checked_inv {d e : Decoder ε β α} (hd : Propagating d) (heof : failed eof = true) {a a'' : α}
    {used : List β} {er : ε} (h : Consumes eof (d.checked e a) used (er, a'')) (hok : failed er = false) :
    ∃ u v er' a', used = u ++ v ∧ failed er' = false ∧ Consumes eof (d a) u (er', a') ∧
      Consumes eof (e a') v (er, a'') := by
  have hd' := first_not_failed (fun r hr => ⟨r.2, by simp only [hr, if_true]⟩) h hok
  obtain ⟨u, v, r, rfl, hc, hv⟩ := (hd a).consumes_bind_inv heof h hd'
  have hr : failed r.1 = false := by rwa [hc v] at hd'
  refine ⟨u, v, r.1, r.2, rfl, hr, hc, ?_⟩
  simpa [hr] using hv

/-- Where a part has been filled without an error, its decoder has used the items. -/
theorem Propagating.focus_inv {d : Decoder ε β γ} {part : α → γ} {put : γ → α → α} {a a' : α} {used : List β} {e : ε}
    (hd : Propagating d) (heof : failed eof = true) (h : Consumes eof (d.focus part put a) used (e, a'))
    (hok : failed e = false) : ∃ c, a' = put c a ∧ Consumes eof (d (part a)) used (e, c) := by
  have hd' := first_not_failed (fun r _ => ⟨put r.2 a, rfl⟩) h hok
  obtain ⟨r, hr, hc⟩ := (hd (part a)).consumes_map_inv heof h hd'
  obtain ⟨rfl, rfl⟩ := Prod.mk.inj hr
  exact ⟨r.2, rfl, hc⟩

/-- A checked field that was read: its items, and those of the rest, from the variable with the field filled. -/
theorem Propagating.field_inv {d : Decoder ε β γ} {part : α → γ} {put : γ → α → α} {rest : Decoder ε β α} {a a' : α}
    {used : List β} {e : ε} (hd : Propagating d) (heof : failed eof = true)
    (h : Consumes eof ((d.focus part put).checked rest a) used (e, a')) (hok : failed e = false) :
    ∃ u v er c, used = u ++ v ∧ failed er = false ∧ Consumes eof (d (part a)) u (er, c) ∧
      Consumes eof (rest (put c a)) v (e, a') := by
  obtain ⟨u, v, er, b, hu, her, hc, hr⟩ := (hd.focus part put).checked_inv heof h hok
  obtain ⟨c, rfl, hcc⟩ := hd.focus_inv heof hc her
  exact ⟨u, v, er, c, hu, her, hcc, hr⟩

/-- Where a variable has been filled through a view without an error, so it has been seen as the other type. -/
theorem Propagating.through_inv {d : Decoder ε β γ} {v : α ≃ γ} {a a' : α} {used : List β} {e : ε}
    (hd : Propagating d) (heof : failed eof = true) (h : Consumes eof (d.through v a) used (e, a'))
    (hok : failed e = false) : Consumes eof (d (v a)) used (e, v a') := by
  obtain ⟨c, rfl, hc⟩ := hd.focus_inv heof h hok
  rwa [v.apply_symm_apply]

/-- A list of variables that was filled has as many items as before, and what was read is what its elements read. -/
theorem Propagating.each_inv {d : Decoder ε β α} {enc : α → List β} (hd : Propagating d) (heof : failed eof = true)
    (henc : ∀ a a' used e, Consumes eof (d a) used (e, a') → failed e = false → used = enc a') :
    ∀ (as bs : List α) (used : List β) (e : ε), Consumes eof (d.each as) used (e, bs) → failed e = false →
      as.length = bs.length ∧ used = bs.flatMap enc
  | [], bs, used, e, h, _ => by
    obtain ⟨rfl, -, rfl⟩ := succeed_inv h
    exact ⟨rfl, rfl⟩
  | a :: as, bs, used, e, h, hok => by
    have hd' := first_not_failed (fun r hr => ⟨r.2 :: as, by simp only [hr, if_true]⟩) h hok
    obtain ⟨u, v, r, rfl, hc, hv⟩ := (hd a).consumes_bind_inv heof h hd'
    have hr : failed r.1 = false := by rwa [hc v] at hd'
    simp only [hr] at hv
    have hrest := first_not_failed (fun r' _ => ⟨r.2 :: r'.2, rfl⟩) hv hok
    obtain ⟨r', hr', hc'⟩ := (hd.each as).consumes_map_inv heof hv hrest
    obtain ⟨rfl, rfl⟩ := Prod.mk.inj hr'
    obtain ⟨hlen, rfl⟩ := hd.each_inv heof henc as r'.2 v r'.1 hc' hok
    refine ⟨by simp [hlen], ?_⟩
    rw [henc a r.2 u r.1 hc hr, List.flatMap_cons]

end Decoder
