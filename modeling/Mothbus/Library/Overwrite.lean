import Mathlib.Data.List.Basic

/-!
# Overwriting part of a vector

A run of items stored one after the other into a vector of fixed size, from an index on. The first store outside the vector
ends the run and says which index it was for.
-/

variable {α : Type} {n : Nat}

/-- Store the items of a list from index `i` on; the error is the first index outside the vector. -/
def Vector.overwrite (m : Vector α n) (i : Nat) : List α → Except Nat (Vector α n)
  | [] => .ok m
  | a :: l => if h : i < n then (m.set i a h).overwrite (i + 1) l else .error i

namespace Vector

/-- The first item is stored in its place, the others behind it. -/
theorem overwrite_cons (m : Vector α n) (i : Nat) (h : i < n) (a : α) (l : List α) :
    m.overwrite i (a :: l) = (m.set i a h).overwrite (i + 1) l := by
  simp only [overwrite, h, dif_pos]

/-- A run that fits stores its items in order and leaves the rest of the vector as it was. -/
theorem exists_overwrite (l : List α) : ∀ (m : Vector α n) (i : Nat), i + l.length ≤ n →
    ∃ m', m.overwrite i l = .ok m' ∧ m'.toList = m.toList.take i ++ l ++ m.toList.drop (i + l.length) := by
  induction l with
  | nil =>
    intro m i _
    exact ⟨m, rfl, by simp⟩
  | cons a l ih =>
    intro m i hi
    have hin : i < n := by
      simp only [List.length_cons] at hi
      omega
    obtain ⟨m', h, hm⟩ := ih (m.set i a hin) (i + 1) (by simp only [List.length_cons] at hi; omega)
    refine ⟨m', by rw [overwrite_cons m i hin, h], ?_⟩
    have hlen : i < m.toList.length := by simpa using hin
    have htake : (m.toList.set i a).take (i + 1) = m.toList.take i ++ [a] := by
      rw [List.take_add_one, List.take_set_of_le (Nat.le_refl i), List.getElem?_set_self hlen]
      rfl
    have hdrop : (m.toList.set i a).drop (i + 1 + l.length) = m.toList.drop (i + (a :: l).length) := by
      rw [List.drop_set_of_lt (by omega), List.length_cons]
      congr 1
      omega
    rw [hm, toList_set, htake, hdrop]
    simp

/-- A run that is stored behind another one extends it. -/
theorem exists_overwrite_behind (m : Vector α n) (i k : Nat) {l : List α} (h : i + k + l.length ≤ n) :
    ∃ m', m.overwrite (i + k) l = .ok m' ∧ (m'.toList.drop i).take (k + l.length) = (m.toList.drop i).take k ++ l := by
  obtain ⟨m', hm', ht⟩ := exists_overwrite l m (i + k) h
  refine ⟨m', hm', ?_⟩
  have hlen : (m.toList.take (i + k) ++ l).length = i + k + l.length := by
    rw [List.length_append, List.length_take, length_toList]
    omega
  have hbefore : i ≤ (m.toList.take (i + k)).length := by
    rw [List.length_take, length_toList]
    omega
  have hrun : ((m.toList.take (i + k) ++ l).drop i).length = k + l.length := by
    rw [List.length_drop, hlen]
    omega
  rw [ht, List.drop_append_of_le_length (by omega), List.take_left' hrun, List.drop_append_of_le_length hbefore, List.drop_take,
    Nat.add_sub_cancel_left]

/-- A run that is stored over itself changes nothing. -/
theorem overwrite_self (m : Vector α n) {i k : Nat} (h : i + k ≤ n) : m.overwrite i ((m.toList.drop i).take k) = .ok m := by
  have hlen : ((m.toList.drop i).take k).length = k := by
    rw [List.length_take, List.length_drop, length_toList]
    omega
  obtain ⟨m', hm', ht⟩ := exists_overwrite ((m.toList.drop i).take k) m i (by omega)
  have hsame : m'.toList = m.toList := by
    rw [ht, hlen, List.append_assoc, ← List.drop_drop, List.take_append_drop, List.take_append_drop]
  rw [hm', toList_inj.mp hsame]

/-- A run that does not fit stops at the first index outside the vector. -/
theorem overwrite_error (l : List α) : ∀ (m : Vector α n) (i : Nat), i ≤ n → n < i + l.length →
    m.overwrite i l = .error n := by
  induction l with
  | nil =>
    intro m i h1 h2
    simp only [List.length_nil] at h2
    omega
  | cons a l ih =>
    intro m i h1 h2
    by_cases hi : i < n
    · rw [overwrite_cons m i hi]
      exact ih _ _ hi (by simp only [List.length_cons] at h2; omega)
    · have : i = n := by omega
      subst this
      simp only [overwrite, Nat.lt_irrefl, dite_false]

end Vector

/-! ## Part of a list -/

/-- What becomes of items that lie from index `i` on when others are stored from the start on. -/
def List.overlaid (front : List α) (i : Nat) (l : List α) : List α := (front.drop i).take l.length ++ l.drop (front.length - i)

/-- A part of a list before and after others are stored over the start of the list. -/
theorem List.take_drop_overlaid (front l : List α) {i k : Nat} (h : i + k ≤ l.length) :
    ((front ++ l.drop front.length).drop i).take k = front.overlaid i ((l.drop i).take k) := by
  have hlen : ((l.drop i).take k).length = k := by
    rw [List.length_take, List.length_drop]
    omega
  have hindex : front.length + (i - front.length) = i + (front.length - i) := by omega
  rw [List.overlaid, hlen, List.drop_append, List.take_append, List.length_drop, List.drop_drop, hindex, List.drop_take, List.drop_drop]

/-- Items that lie within those that are stored are replaced by them. -/
theorem List.overlaid_of_le {front l : List α} {i : Nat} (h : i + l.length ≤ front.length) :
    front.overlaid i l = (front.drop i).take l.length := by
  have hnone : l.drop (front.length - i) = [] := List.drop_of_length_le (by omega)
  rw [List.overlaid, hnone, List.append_nil]

/-! ## The start of a list -/

/-- The list `after` is `before` with a run of items of the source stored from its start on. -/
def Overwritten (source before after : List α) : Prop :=
  ∃ run, run <:+: source ∧ run.length ≤ before.length ∧ after = run ++ before.drop run.length

namespace Overwritten

variable {source source' before after : List α}

theorem refl (source l : List α) : Overwritten source l l := ⟨[], List.nil_infix, Nat.zero_le _, rfl⟩

theorem mono (h : Overwritten source before after) (hs : source <:+: source') : Overwritten source' before after := by
  obtain ⟨run, hrun, hlen, hafter⟩ := h
  exact ⟨run, hrun.trans hs, hlen, hafter⟩

/-- Nothing is stored behind the end. -/
theorem length_eq (h : Overwritten source before after) : after.length = before.length := by
  obtain ⟨run, -, hlen, rfl⟩ := h
  rw [List.length_append, List.length_drop]
  omega

end Overwritten
