import Mathlib.Data.List.Basic
import Mathlib.Tactic.Common

/-!
# Consumers of a stream

A consumer waits, in each of its states, for a number of symbols; once they are there it takes them, moves on and puts something out;
or it has stopped. What it does with a stream does not depend on the pieces that the stream arrives in (`Consumer.drain_append`).
-/

/-- A consumer with states `S` of symbols `β`, that puts out items `O`. -/
structure Consumer (S β O : Type) where
  /-- How many symbols it waits for, or `none` if it has stopped. -/
  need : S → Option Nat
  need_pos : ∀ s n, need s = some n → 0 < n
  /-- What it does with the symbols it waited for. -/
  step : S → List β → S × List O

namespace Consumer

variable {S β O : Type} (C : Consumer S β O)

/-- A result, with something put out before it. -/
def prepend (out : List O) (r : S × List β × List O) : S × List β × List O := (r.1, r.2.1, out ++ r.2.2)

@[simp] theorem prepend_nil (r : S × List β × List O) : prepend [] r = r := rfl

/-- What is put out before a result goes there in order. -/
theorem prepend_append (out out' : List O) (r : S × List β × List O) : prepend (out ++ out') r = prepend out (prepend out' r) := by
  rw [prepend, prepend, prepend, List.append_assoc]

/-- Everything that can be done with symbols that are there: the state reached, the symbols left, and what was put out. -/
def drain (s : S) (l : List β) : S × List β × List O :=
  match _hn : C.need s with
  | none => (s, l, [])
  | some n =>
    if n ≤ l.length then
      let r := C.step s (l.take n)
      prepend r.2 (drain r.1 (l.drop n))
    else (s, l, [])
termination_by l.length
decreasing_by
  have hpos := C.need_pos s n _hn
  rw [List.length_drop]
  omega

variable {C}

/-- A consumer that has stopped takes nothing. -/
theorem drain_stopped {s : S} (h : C.need s = none) (l : List β) : C.drain s l = (s, l, []) := by
  rw [drain]
  split
  · rfl
  · rename_i n hn
    rw [h] at hn
    cases hn

/-- While there are not enough symbols, none is taken. -/
theorem drain_waiting {s : S} {n : Nat} (h : C.need s = some n) {l : List β} (hl : l.length < n) : C.drain s l = (s, l, []) := by
  rw [drain]
  split
  · rfl
  · rename_i m hm
    obtain rfl : n = m := Option.some.inj (h.symm.trans hm)
    rw [if_neg (Nat.not_le.mpr hl)]

/-- When there are enough, the consumer takes a step with as many as it waits for and goes on with the others. -/
theorem drain_step {s : S} {n : Nat} (h : C.need s = some n) {l : List β} (hl : n ≤ l.length) :
    C.drain s l = prepend (C.step s (l.take n)).2 (C.drain (C.step s (l.take n)).1 (l.drop n)) := by
  rw [drain]
  split
  · rename_i hn
    rw [h] at hn
    cases hn
  · rename_i m hm
    obtain rfl : n = m := Option.some.inj (h.symm.trans hm)
    rw [if_pos hl]

/-- One step, on symbols that start with the ones waited for. -/
theorem drain_append_step {s s' : S} {n : Nat} (h : C.need s = some n) {l : List β} (hl : l.length = n) {out : List O}
    (hs : C.step s l = (s', out)) (rest : List β) : C.drain s (l ++ rest) = prepend out (C.drain s' rest) := by
  have hle : n ≤ (l ++ rest).length := by
    rw [List.length_append]
    omega
  rw [drain_step h hle, List.take_left' hl, List.drop_left' hl, hs]

/-- The symbols left over are not enough for another step. -/
def Settled (C : Consumer S β O) (s : S) (l : List β) : Prop := ∀ n, C.need s = some n → l.length < n

theorem settled_nil (C : Consumer S β O) (s : S) : C.Settled s [] := fun n hn => C.need_pos s n hn

/-- Nothing can be done with symbols that are not enough. -/
theorem Settled.drain {s : S} {l : List β} (h : C.Settled s l) : C.drain s l = (s, l, []) := by
  cases hn : C.need s with
  | none => exact drain_stopped hn l
  | some n => exact drain_waiting hn (h n hn)

/-- Symbols that arrive in two pieces: the second piece goes behind what the first has left. -/
theorem drain_append (s : S) (l l' : List β) :
    C.drain s (l ++ l') = prepend (C.drain s l).2.2 (C.drain (C.drain s l).1 ((C.drain s l).2.1 ++ l')) := by
  induction s, l using Consumer.drain.induct C with
  | case1 s l hn =>
    rw [drain_stopped hn l, prepend_nil]
  | case2 s l n hn hle r ih =>
    have hle' : n ≤ (l ++ l').length := by
      rw [List.length_append]
      omega
    rw [drain_step hn hle, drain_step hn hle', List.take_append_of_le_length hle, List.drop_append_of_le_length hle, ih,
      ← prepend_append]
    rfl
  | case3 s l n hn hlt =>
    rw [drain_waiting hn (Nat.not_le.mp hlt), prepend_nil]

end Consumer
