import Mathlib.Control.Basic

/-!
# Read programs: decoding against an abstract byte source

A decoder that is generic in the source it reads from can do only one thing with that source: ask it for the next item. Such
a decoder is a read program, a tree of requests; a source says how a request is answered. What a program does is then the
same for all sources that answer alike (`ReadProgram.run_simulates`), and a program that stops at the first failing request
depends only on the items it consumed (`ReadProgram.Propagates.exists_consumes`).

Nothing here is about a particular protocol: the error type `ε`, the item type `β` and the state of the source are arbitrary.
-/

/-- An error type in which one value stands for success and a test tells the failures from the rest. -/
class ErrorLike (ε : Type) where
  ok : ε
  failed : ε → Bool
  failed_ok : failed ok = false

attribute [simp] ErrorLike.failed_ok

open ErrorLike (ok failed)

/-- A program that asks a source for items one by one. A request hands over the old value of the variable to fill; the program
goes on with the error of the request and the value the variable then holds. -/
inductive ReadProgram (ε β α : Type) : Type where
  | done (a : α)
  | get (old : β) (next : ε → β → ReadProgram ε β α)

/-- A source of items: how it answers a request, given the old value of the variable to fill. -/
structure Source (ε β σ : Type) where
  get : β → σ → ε × β × σ

namespace ReadProgram

variable {ε β α γ σ τ : Type}

/-- Run one program, then another on its result. -/
def bind : ReadProgram ε β α → (α → ReadProgram ε β γ) → ReadProgram ε β γ
  | done a, f => f a
  | get old next, f => get old (fun e b => (next e b).bind f)

instance : Monad (ReadProgram ε β) where
  pure := done
  bind := bind

/-- One request. -/
def request (old : β) : ReadProgram ε β (ε × β) := get old (fun e b => done (e, b))

/-- Run a program against a source. -/
def run (S : Source ε β σ) : ReadProgram ε β α → σ → α × σ
  | done a, s => (a, s)
  | get old next, s =>
    match S.get old s with
    | (e, b, s') => (next e b).run S s'

@[simp] theorem run_pure (S : Source ε β σ) (a : α) (s : σ) : (pure a : ReadProgram ε β α).run S s = (a, s) := rfl

@[simp] theorem run_request (S : Source ε β σ) (old : β) (s : σ) :
    (request old : ReadProgram ε β _).run S s = (((S.get old s).1, (S.get old s).2.1), (S.get old s).2.2) := rfl

/-- A sequence of two programs runs the first, then the second from the state the first leaves. -/
@[simp] theorem run_bind (S : Source ε β σ) (p : ReadProgram ε β α) (f : α → ReadProgram ε β γ) (s : σ) :
    (p >>= f).run S s = (f (p.run S s).1).run S (p.run S s).2 := by
  show (p.bind f).run S s = _
  induction p generalizing s with
  | done a => rfl
  | get old next ih => exact ih _ _ _

/-! ## Every request of a run -/

/-- The requests of a run, in order: the state of the source, the error it answers with, and its state after the answer. -/
def visits (S : Source ε β σ) : ReadProgram ε β α → σ → List (σ × ε × σ)
  | done _, _ => []
  | get old next, s =>
    match S.get old s with
    | (e, b, s') => (s, e, s') :: (next e b).visits S s'

/-- What each answer of a source preserves holds after a run, and what holds of each answer then holds of all requests of the run. -/
theorem visits_all {S : Source ε β σ} {I : σ → Prop} {Q : σ × ε × σ → Prop}
    (hstep : ∀ old s, I s → I (S.get old s).2.2 ∧ Q (s, (S.get old s).1, (S.get old s).2.2)) (p : ReadProgram ε β α) {s : σ}
    (hs : I s) : (∀ v ∈ p.visits S s, Q v) ∧ I (p.run S s).2 := by
  induction p generalizing s with
  | done a =>
    refine ⟨?_, hs⟩
    intro v hv
    cases hv
  | get old next ih =>
    obtain ⟨hI, hQ⟩ := hstep old s hs
    obtain ⟨hall, hrun⟩ := ih (S.get old s).1 (S.get old s).2.1 hI
    refine ⟨?_, hrun⟩
    intro v hv
    rcases List.mem_cons.mp hv with rfl | hv
    · exact hQ
    · exact hall v hv

/-! ## Sources that answer alike -/

/-- Two sources answer alike along a relation of their states: related states give the same error and the same item, and stay
related. -/
def Simulates (S : Source ε β σ) (T : Source ε β τ) (rel : σ → τ → Prop) : Prop :=
  ∀ old s t, rel s t → (S.get old s).1 = (T.get old t).1 ∧ (S.get old s).2.1 = (T.get old t).2.1 ∧
    rel (S.get old s).2.2 (T.get old t).2.2

/-- A program gives the same result on sources that answer alike. -/
theorem run_simulates {S : Source ε β σ} {T : Source ε β τ} {rel : σ → τ → Prop} (h : Simulates S T rel)
    (p : ReadProgram ε β α) {s : σ} {t : τ} (hst : rel s t) :
    (p.run S s).1 = (p.run T t).1 ∧ rel (p.run S s).2 (p.run T t).2 := by
  induction p generalizing s t with
  | done a => exact ⟨rfl, hst⟩
  | get old next ih =>
    obtain ⟨he, hb, hrel⟩ := h old s t hst
    simp only [run]
    rw [he, hb]
    exact ih _ _ hrel

/-! ## The list source -/

/-- The source of items that are all there from the start: a request takes the next one, and past the end it fails with
`eof` and leaves the variable as it was. -/
def listSource [ErrorLike ε] (eof : ε) : Source ε β (List β) where
  get old
    | [] => (eof, old, [])
    | b :: rest => (ok, b, rest)

variable [ErrorLike ε] {eof : ε}

@[simp] theorem listSource_nil (old : β) : (listSource eof).get old [] = (eof, old, []) := rfl

@[simp] theorem listSource_cons (old b : β) (rest : List β) :
    (listSource eof).get old (b :: rest) = (ok, b, rest) := rfl

/-- What a program leaves of a list is a suffix of it. -/
theorem run_suffix (p : ReadProgram ε β α) (l : List β) : (p.run (listSource eof) l).2 <:+ l := by
  induction p generalizing l with
  | done a => exact List.suffix_refl l
  | get old next ih =>
    cases l with
    | nil => exact ih _ _ []
    | cons b rest => exact (ih _ _ rest).trans (List.suffix_cons b rest)

/-- A list is what a program read of it and then what it leaves. -/
theorem take_append_run (p : ReadProgram ε β α) (l : List β) :
    l.take (l.length - (p.run (listSource eof) l).2.length) ++ (p.run (listSource eof) l).2 = l := by
  have h : (p.run (listSource eof) l).2 <:+ l := run_suffix p l
  generalize (p.run (listSource eof) l).2 = rest at h
  obtain ⟨used, rfl⟩ := h
  rw [List.length_append, Nat.add_sub_cancel, List.take_left' rfl]

/-! ## What a program consumes -/

/-- A program consumes exactly the items `used`, and gives `a`, whatever comes after them. -/
def Consumes (eof : ε) (p : ReadProgram ε β α) (used : List β) (a : α) : Prop :=
  ∀ rest, p.run (listSource eof) (used ++ rest) = (a, rest)

theorem consumes_pure (a : α) : Consumes eof (pure a : ReadProgram ε β α) [] a := fun _ => rfl

/-- A request consumes the item that it gives. -/
theorem consumes_request (old b : β) : Consumes eof (request old) [b] (ok, b) := fun _ => rfl

/-- On just the items that it consumes, a program leaves nothing. -/
theorem Consumes.run_eq {p : ReadProgram ε β α} {used : List β} {a : α} (h : Consumes eof p used a) :
    p.run (listSource eof) used = (a, []) := by
  simpa using h []

/-- In sequence, two programs consume what the first consumes and then what the second consumes. -/
theorem Consumes.bind {p : ReadProgram ε β α} {f : α → ReadProgram ε β γ} {u v : List β} {a : α} {c : γ}
    (hp : Consumes eof p u a) (hf : Consumes eof (f a) v c) : Consumes eof (p >>= f) (u ++ v) c := by
  intro rest
  rw [List.append_assoc, run_bind, hp (v ++ rest)]
  exact hf rest

/-- A function of a program's result consumes what the program consumes. -/
theorem Consumes.map {p : ReadProgram ε β α} {used : List β} {a : α} (h : Consumes eof p used a) (g : α → γ) :
    Consumes eof (p >>= fun r => pure (g r)) used (g a) := by
  intro rest
  rw [run_bind, h rest, run_pure]

/-- What a program consumes of one list, and what it gives, are determined by that list. -/
theorem Consumes.unique {p : ReadProgram ε β α} {u v rest rest' : List β} {a c : α} (hu : Consumes eof p u a)
    (hv : Consumes eof p v c) (h : u ++ rest = v ++ rest') : u = v ∧ a = c := by
  have e : (a, rest) = (c, rest') := by rw [← hu rest, h, hv rest']
  obtain ⟨rfl, rfl⟩ := Prod.mk.inj e
  exact ⟨List.append_cancel_right h, rfl⟩

/-! ## Programs that stop at the first failure -/

/-- A program that stops at the first failing request, with the error of that request. -/
def Propagates : ReadProgram ε β (ε × α) → Prop
  | done _ => True
  | get _ next => ∀ e b, (failed e = true → ∃ a, next e b = done (e, a)) ∧ (failed e = false → (next e b).Propagates)

/-- A request stops at its own failure. -/
theorem propagates_request (old : β) : Propagates (request old : ReadProgram ε β (ε × β)) :=
  fun _ b => ⟨fun _ => ⟨b, rfl⟩, fun _ => trivial⟩

/-- In sequence, two programs that stop at the first failure do so when the second passes a failure of the first on. -/
theorem Propagates.bind {p : ReadProgram ε β (ε × α)} {f : ε × α → ReadProgram ε β (ε × γ)} (hp : Propagates p)
    (hfail : ∀ e a, failed e = true → ∃ c, f (e, a) = done (e, c))
    (hok : ∀ e a, failed e = false → Propagates (f (e, a))) : Propagates (p >>= f) := by
  show Propagates (p.bind f)
  induction p with
  | done r =>
    cases he : failed r.1 with
    | true =>
      obtain ⟨_, hc⟩ := hfail r.1 r.2 he
      simp only [ReadProgram.bind, hc]
      trivial
    | false => exact hok r.1 r.2 he
  | get old next ih =>
    intro er b
    obtain ⟨h1, h2⟩ := hp er b
    refine ⟨fun he => ?_, fun he => ih er b (h2 he)⟩
    obtain ⟨a, ha⟩ := h1 he
    obtain ⟨c, hc⟩ := hfail er a he
    exact ⟨c, by simp only [ha, ReadProgram.bind, hc]⟩

/-- A program that stops at the first failure and did not end with the error of the end met no end of input: it consumed a prefix of
the list, and does the same whatever follows that prefix. -/
theorem Propagates.exists_consumes_of_ne {p : ReadProgram ε β (ε × α)} (hp : Propagates p) (heof : failed eof = true)
    {l : List β} (h : (p.run (listSource eof) l).1.1 ≠ eof) :
    ∃ used, l = used ++ (p.run (listSource eof) l).2 ∧ Consumes eof p used (p.run (listSource eof) l).1 := by
  induction p generalizing l with
  | done r => exact ⟨[], rfl, fun _ => rfl⟩
  | get old next ih =>
    cases l with
    | nil =>
      obtain ⟨a, ha⟩ := (hp eof old).1 heof
      simp only [run, listSource_nil, ha] at h
      exact absurd rfl h
    | cons b rest =>
      obtain ⟨used, hl, hc⟩ := ih ok b ((hp ok b).2 ErrorLike.failed_ok) h
      exact ⟨b :: used, congrArg (b :: ·) hl, hc⟩

/-- The same of a program that did not fail. -/
theorem Propagates.exists_consumes {p : ReadProgram ε β (ε × α)} (hp : Propagates p) (heof : failed eof = true)
    {l : List β} (h : failed (p.run (listSource eof) l).1.1 = false) :
    ∃ used, l = used ++ (p.run (listSource eof) l).2 ∧ Consumes eof p used (p.run (listSource eof) l).1 := by
  refine hp.exists_consumes_of_ne heof ?_
  intro heq
  rw [heq, heof] at h
  cases h

/-- Items that are cut off before all those that a program consumes make it end with the error of the end. -/
theorem Propagates.run_cut {p : ReadProgram ε β (ε × α)} (hp : Propagates p) (heof : failed eof = true) {l more : List β}
    {r : ε × α} (h : Consumes eof p (l ++ more) r) (hmore : more ≠ []) : (p.run (listSource eof) l).1.1 = eof := by
  refine Classical.byContradiction fun hne => ?_
  obtain ⟨used, hl, hc⟩ := hp.exists_consumes_of_ne heof hne
  have hall : l ++ more ++ [] = used ++ ((p.run (listSource eof) l).2 ++ more) := by
    rw [List.append_nil, ← List.append_assoc, ← hl]
  obtain ⟨hused, -⟩ := h.unique hc hall
  rw [hused, List.append_nil] at hall
  exact hmore (List.append_eq_nil_iff.mp (List.self_eq_append_right.mp hall)).2

/-- A sequence whose first part stops at the first failure, and which did not fail in it, consumes what its first part
consumes and then the rest. -/
theorem Propagates.consumes_bind_inv {p : ReadProgram ε β (ε × α)} {f : ε × α → ReadProgram ε β γ} (hp : Propagates p)
    (heof : failed eof = true) {used : List β} {c : γ} (h : Consumes eof (p >>= f) used c)
    (hok : failed (p.run (listSource eof) used).1.1 = false) :
    ∃ u v r, used = u ++ v ∧ Consumes eof p u r ∧ Consumes eof (f r) v c := by
  obtain ⟨u, hu, hc⟩ := hp.exists_consumes heof hok
  generalize (p.run (listSource eof) used).1 = r at hc
  generalize (p.run (listSource eof) used).2 = v at hu
  refine ⟨u, v, r, hu, hc, ?_⟩
  intro rest
  have h' := h rest
  rwa [hu, List.append_assoc, run_bind, hc (v ++ rest)] at h'

/-- What a program consumes before its result is changed it consumes without the change, if it has not failed. -/
theorem Propagates.consumes_map_inv {p : ReadProgram ε β (ε × α)} {g : ε × α → γ} (hp : Propagates p)
    (heof : failed eof = true) {used : List β} {c : γ} (h : Consumes eof (p >>= fun r => pure (g r)) used c)
    (hok : failed (p.run (listSource eof) used).1.1 = false) : ∃ r, c = g r ∧ Consumes eof p used r := by
  obtain ⟨u, v, r, rfl, hc, hv⟩ := hp.consumes_bind_inv heof h hok
  obtain ⟨hg, rfl⟩ := Prod.mk.inj (hv.run_eq.symm.trans (run_pure _ _ _))
  exact ⟨r, hg, by rwa [List.append_nil]⟩

end ReadProgram
