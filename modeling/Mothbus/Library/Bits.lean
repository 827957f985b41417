import Mathlib.Data.List.GetD
import Mathlib.Data.Nat.Digits.Lemmas
import Mathlib.Tactic.Ring

/-!
# Numbers made of bits

The number with given binary digits, least significant first: its bits are the digits, and they determine it. Digits that are too
large make the number of their low parts and of their excesses.
-/

namespace Nat

variable {l : List Bool} {n : Nat}

/-- The bits of a number made of bits. -/
theorem testBit_ofDigits_toNat (l : List Bool) (k : Nat) : (ofDigits 2 (l.map Bool.toNat)).testBit k = l.getD k false := by
  induction l generalizing k with
  | nil => simp
  | cons b l ih =>
    rw [List.map_cons, ofDigits_cons]
    cases k with
    | zero => cases b <;> simp [testBit_zero]
    | succ k =>
      have hhalf : (b.toNat + 2 * ofDigits 2 (l.map Bool.toNat)) / 2 = ofDigits 2 (l.map Bool.toNat) := by
        have hb := b.toNat_lt
        omega
      rw [testBit_succ, hhalf, ih, List.getD_cons_succ]

/-- As many bits as `n`, or fewer, make a number below `2 ^ n`. -/
theorem ofDigits_toNat_lt (h : l.length ≤ n) : ofDigits 2 (l.map Bool.toNat) < 2 ^ n := by
  have hdigits : ∀ d ∈ l.map Bool.toNat, d < 2 := by
    intro d hd
    obtain ⟨b, -, rfl⟩ := List.mem_map.mp hd
    exact b.toNat_lt
  calc ofDigits 2 (l.map Bool.toNat) < 2 ^ (l.map Bool.toNat).length := ofDigits_lt_base_pow_length one_lt_two hdigits
    _ ≤ 2 ^ n := by
      rw [List.length_map]
      exact Nat.pow_le_pow_right two_pos h

/-- A number of so many bits is the one made of some bits if and only if these are its bits. -/
theorem eq_ofDigits_toNat_iff {m : Nat} (hm : m < 2 ^ n) (h : l.length ≤ n) :
    m = ofDigits 2 (l.map Bool.toNat) ↔ ∀ k < n, m.testBit k = l.getD k false := by
  constructor
  · rintro rfl k -
    exact testBit_ofDigits_toNat l k
  · intro hbits
    apply eq_of_testBit_eq
    intro k
    rw [testBit_ofDigits_toNat]
    by_cases hk : k < n
    · exact hbits k hk
    · have hpow : 2 ^ n ≤ 2 ^ k := Nat.pow_le_pow_right two_pos (by omega)
      rw [testBit_lt_two_pow (by omega), List.getD_eq_default _ _ (by omega)]

/-- Digits that are sums make the sum of the numbers. -/
theorem ofDigits_map_add {α : Type} (b : Nat) (f g : α → Nat) (l : List α) :
    ofDigits b (l.map fun a => f a + g a) = ofDigits b (l.map f) + ofDigits b (l.map g) := by
  induction l with
  | nil => rfl
  | cons a l ih =>
    rw [List.map_cons, List.map_cons, List.map_cons, ofDigits_cons, ofDigits_cons, ofDigits_cons, ih]
    ring

end Nat
