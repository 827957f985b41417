import Mathlib.Logic.Function.Iterate
import Mathlib.Tactic.Common

/-!
# Cyclic redundancy checks

A register of `w` bits is divided by a polynomial one bit at a time, low bit first (the reflected form). Dividing is linear in
exclusive or, and loses nothing when the polynomial has a constant term; from these two come the table that takes several bits at
once (`Crc.absorb_table`), the residue of a message with its own checksum (`Crc.remainder_eq_zero_iff`) and the detection of every
burst that is no longer than the register (`Crc.crc_burst`).
-/

namespace Crc

variable {w k : Nat} (poly : BitVec w)

/-- One step of the division: the register moves down, and the polynomial is added if a one falls out. -/
def step (r : BitVec w) : BitVec w := if r.getLsbD 0 then (r >>> 1) ^^^ poly else r >>> 1

/-- Take in a bit of the message. -/
def feed (r : BitVec w) (b : Bool) : BitVec w := step poly (r ^^^ (BitVec.ofBool b).setWidth w)

/-- The register after some bits of a message. -/
def remainder (r : BitVec w) (l : List Bool) : BitVec w := l.foldl (feed poly) r

/-- Take in a unit of `k` bits at once: add it to the low bits of the register, and divide `k` times. -/
def absorb (r : BitVec w) (x : BitVec k) : BitVec w := (step poly)^[k] (r ^^^ x.setWidth w)

/-- The register after some units of a message. -/
def crc (init : BitVec w) (l : List (BitVec k)) : BitVec w := l.foldl (absorb poly) init

/-! ## Bits -/

/-- The bits of a unit, in the order in which they are taken in. -/
def bits (x : BitVec k) : List Bool := List.ofFn fun i : Fin k => x.getLsbD i

/-- A register whose low bits are the bits of a list. -/
def ofBits : List Bool → BitVec w
  | [] => 0#w
  | b :: l => (BitVec.ofBool b).setWidth w ^^^ (ofBits l <<< 1)

@[simp] theorem length_bits (x : BitVec k) : (bits x).length = k := List.length_ofFn

/-- A bit as a register: it is the lowest one. -/
theorem getLsbD_ofBool_setWidth (b : Bool) (i : Nat) :
    ((BitVec.ofBool b).setWidth w).getLsbD i = (decide (i < w) && (decide (i = 0) && b)) := by
  rw [BitVec.getLsbD_setWidth, BitVec.getLsbD_ofBool]

/-- The low bits of the register of a list are those of the list. -/
theorem getLsbD_ofBits (l : List Bool) (i : Nat) :
    (ofBits l : BitVec w).getLsbD i = (decide (i < w) && l.getD i false) := by
  induction l generalizing i with
  | nil => simp [ofBits]
  | cons b l ih =>
    rw [ofBits, BitVec.getLsbD_xor, getLsbD_ofBool_setWidth, BitVec.getLsbD_shiftLeft]
    cases i with
    | zero => simp
    | succ i =>
      rw [ih]
      by_cases h : i + 1 < w
      · have h' : i < w := by omega
        simp [h, h']
      · simp [h]

/-- A unit no wider than the register is the register of its bits. -/
theorem ofBits_bits (x : BitVec k) : (ofBits (bits x) : BitVec w) = x.setWidth w := by
  apply BitVec.eq_of_getLsbD_eq
  intro i hi
  rw [getLsbD_ofBits, BitVec.getLsbD_setWidth, bits, List.getD_eq_getElem?_getD]
  by_cases h : i < k
  · simp [h]
  · simp [h, BitVec.getLsbD_of_ge x i (by omega)]

/-- Two units make the register that they are the halves of, the second the upper one. -/
theorem ofBits_bits_append {j : Nat} (x : BitVec k) (y : BitVec j) : (ofBits (bits x ++ bits y) : BitVec (j + k)) = y ++ x := by
  apply BitVec.eq_of_getLsbD_eq
  intro i hi
  rw [getLsbD_ofBits, BitVec.getLsbD_append, List.getD_eq_getElem?_getD]
  by_cases h : i < k
  · rw [List.getElem?_append_left (by rw [length_bits]; exact h)]
    simp [bits, h, hi]
  · have hj : i - k < j := by omega
    rw [List.getElem?_append_right (by rw [length_bits]; omega), length_bits]
    simp [bits, h, hi, hj]

/-- The bits of a sum are the sums of the bits. -/
theorem bits_xor (x y : BitVec k) : bits (x ^^^ y) = List.zipWith xor (bits x) (bits y) := by
  apply List.ext_getElem
  · simp
  · intro i h1 h2
    simp [bits]

/-- Units of `k` bits have `k` bits each. -/
theorem length_flatMap_bits (l : List (BitVec k)) : (l.flatMap bits).length = l.length * k := by
  induction l with
  | nil => simp
  | cons x l ih => rw [List.flatMap_cons, List.length_append, length_bits, ih, List.length_cons, Nat.succ_mul, Nat.add_comm]

/-- The bits of the sum of two messages are the sums of their bits. -/
theorem flatMap_bits_zipWith (l e : List (BitVec k)) (h : l.length = e.length) :
    (List.zipWith (· ^^^ ·) l e).flatMap bits = List.zipWith xor (l.flatMap bits) (e.flatMap bits) := by
  induction l generalizing e with
  | nil => rfl
  | cons x l ih =>
    rcases e with _ | ⟨y, e⟩
    · cases h
    · rw [List.zipWith_cons_cons, List.flatMap_cons, List.flatMap_cons, List.flatMap_cons,
        List.zipWith_append (by rw [length_bits, length_bits]), bits_xor, ih e (Nat.succ.inj h)]

/-- Bits that fit the register and are not all zero do not make it zero. -/
theorem ofBits_ne_zero {l : List Bool} (hl : l.length ≤ w) (h : true ∈ l) : (ofBits l : BitVec w) ≠ 0#w := by
  intro h0
  obtain ⟨i, hi, hb⟩ := List.getElem_of_mem h
  have hbit := congrArg (fun r : BitVec w => r.getLsbD i) h0
  simp only [getLsbD_ofBits, List.getD_eq_getElem?_getD, List.getElem?_eq_getElem hi, hb, Option.getD_some, Bool.and_true,
    BitVec.getLsbD_zero, decide_eq_false_iff_not] at hbit
  omega

/-! ## Dividing is linear -/

/-- A step of the register is linear. -/
theorem step_xor (a b : BitVec w) : step poly (a ^^^ b) = step poly a ^^^ step poly b := by
  unfold step
  rw [BitVec.getLsbD_xor, BitVec.ushiftRight_xor_distrib]
  cases a.getLsbD 0 <;> cases b.getLsbD 0
  · rfl
  · exact BitVec.xor_assoc _ _ _
  · show a >>> 1 ^^^ b >>> 1 ^^^ poly = a >>> 1 ^^^ poly ^^^ b >>> 1
    rw [BitVec.xor_assoc, BitVec.xor_comm (b >>> 1), BitVec.xor_assoc]
  · show a >>> 1 ^^^ b >>> 1 = a >>> 1 ^^^ poly ^^^ (b >>> 1 ^^^ poly)
    rw [BitVec.xor_comm (b >>> 1) poly, BitVec.xor_assoc, ← BitVec.xor_assoc poly, BitVec.xor_self, BitVec.zero_xor]

@[simp] theorem step_zero : step poly 0#w = 0#w := by
  unfold step
  rw [BitVec.getLsbD_zero]
  exact BitVec.zero_ushiftRight

/-- Any number of steps is linear. -/
theorem iterate_step_xor (n : Nat) (a b : BitVec w) :
    (step poly)^[n] (a ^^^ b) = (step poly)^[n] a ^^^ (step poly)^[n] b := by
  induction n generalizing a b with
  | zero => rfl
  | succ n ih => rw [Function.iterate_succ_apply, step_xor, ih, Function.iterate_succ_apply, Function.iterate_succ_apply]

theorem iterate_step_zero (n : Nat) : (step poly)^[n] 0#w = 0#w := Function.iterate_fixed (step_zero poly) n

/-- Zeros taken in leave a zero register. -/
theorem remainder_replicate_false (r : BitVec w) (n : Nat) :
    remainder poly r (List.replicate n false) = (step poly)^[n] r := by
  induction n generalizing r with
  | zero => rfl
  | succ n ih =>
    have hbit : (BitVec.ofBool false).setWidth w = 0#w := by simp
    rw [List.replicate_succ, Function.iterate_succ_apply, ← ih]
    show remainder poly (step poly (r ^^^ (BitVec.ofBool false).setWidth w)) _ = _
    rw [hbit, BitVec.xor_zero]

/-- Two pieces of a message are taken in one after the other. -/
theorem remainder_append (r : BitVec w) (l l' : List Bool) :
    remainder poly r (l ++ l') = remainder poly (remainder poly r l) l' := List.foldl_append

/-- The register after the sum of two messages, from the sum of two registers, is the sum of the two. -/
theorem remainder_xor (r r' : BitVec w) (l l' : List Bool) (h : l.length = l'.length) :
    remainder poly (r ^^^ r') (List.zipWith xor l l') = remainder poly r l ^^^ remainder poly r' l' := by
  induction l generalizing r r' l' with
  | nil =>
    cases l' with
    | nil => rfl
    | cons => cases h
  | cons b l ih =>
    cases l' with
    | nil => cases h
    | cons b' l' =>
      have hbit : (BitVec.ofBool (xor b b')).setWidth w =
          (BitVec.ofBool b).setWidth w ^^^ (BitVec.ofBool b').setWidth w := by
        rw [← BitVec.setWidth_xor, BitVec.ofBool_xor_ofBool]
      have hfeed : feed poly (r ^^^ r') (xor b b') = feed poly r b ^^^ feed poly r' b' := by
        unfold feed
        rw [hbit, ← step_xor]
        congr 1
        ac_rfl
      show remainder poly (feed poly (r ^^^ r') (xor b b')) (List.zipWith xor l l') = _
      rw [hfeed]
      exact ih _ _ l' (Nat.succ.inj h)

/-! ## Several bits at once -/

/-- A register that starts with a zero and is moved up comes back down in one step. -/
theorem step_shiftLeft {x : BitVec w} (h : x.getLsbD (w - 1) = false) : step poly (x <<< 1) = x := by
  have hlow : (x <<< 1).getLsbD 0 = false := by simp
  unfold step
  rw [hlow]
  apply BitVec.eq_of_getLsbD_eq
  intro i hi
  show (x <<< 1 >>> 1).getLsbD i = _
  rw [BitVec.getLsbD_ushiftRight, BitVec.getLsbD_shiftLeft]
  by_cases hlast : i = w - 1
  · rw [hlast, h]
    simp
    omega
  · have hnext : 1 + i < w := by omega
    simp [hnext]

/-- Bits that fit the register can be added to it at once. -/
theorem remainder_eq_iterate (r : BitVec w) (l : List Bool) (h : l.length ≤ w) :
    remainder poly r l = (step poly)^[l.length] (r ^^^ ofBits l) := by
  induction l generalizing r with
  | nil =>
    show r = r ^^^ 0#w
    rw [BitVec.xor_zero]
  | cons b l ih =>
    rw [List.length_cons] at h
    have htop : (ofBits l : BitVec w).getLsbD (w - 1) = false := by
      rw [getLsbD_ofBits, List.getD_eq_getElem?_getD, List.getElem?_eq_none (by omega)]
      simp
    show remainder poly (feed poly r b) l = _
    rw [ih _ (by omega), List.length_cons, Function.iterate_succ_apply, ofBits, ← BitVec.xor_assoc, step_xor,
      step_shiftLeft poly htop]
    rfl

/-- A unit taken in at once is its bits taken in one by one. -/
theorem absorb_eq_remainder (r : BitVec w) (x : BitVec k) (h : k ≤ w) : absorb poly r x = remainder poly r (bits x) := by
  rw [remainder_eq_iterate poly r _ (by rw [length_bits]; exact h), length_bits, ofBits_bits]
  rfl

/-- Two pieces of a message of units are taken in one after the other. -/
theorem crc_append (r : BitVec w) (l l' : List (BitVec k)) : crc poly r (l ++ l') = crc poly (crc poly r l) l' :=
  List.foldl_append

/-- Unit by unit or bit by bit the register comes to the same, if no unit is wider than it. -/
theorem crc_eq_remainder (r : BitVec w) (l : List (BitVec k)) (h : k ≤ w) :
    crc poly r l = remainder poly r (l.flatMap bits) := by
  induction l generalizing r with
  | nil => rfl
  | cons x l ih =>
    rw [List.flatMap_cons, remainder_append, ← absorb_eq_remainder poly r x h]
    exact ih _

/-- The same of a register that starts with some zeros and is moved up as many times. -/
theorem iterate_step_shiftLeft {x : BitVec w} (n : Nat) (h : ∀ i, w ≤ i + n → x.getLsbD i = false) :
    (step poly)^[n] (x <<< n) = x := by
  induction n with
  | zero => exact BitVec.shiftLeft_zero x
  | succ n ih =>
    have htop : (x <<< n).getLsbD (w - 1) = false := by
      rw [BitVec.getLsbD_shiftLeft]
      by_cases hn : w - 1 < n
      · simp [hn]
      · rw [h (w - 1 - n) (by omega), Bool.and_false]
    rw [Function.iterate_succ_apply, BitVec.shiftLeft_add, step_shiftLeft poly htop]
    exact ih fun i hi => h i (by omega)

/-- A unit taken in with one look into a table: what a zero register makes of the unit and the low bits together, added to the
register moved down. -/
theorem absorb_table (r : BitVec w) (x : BitVec k) :
    absorb poly r x = (r >>> k) ^^^ absorb poly 0#w (r.setWidth k ^^^ x) := by
  have hsplit : r ^^^ x.setWidth w = (r >>> k <<< k) ^^^ (r.setWidth k ^^^ x).setWidth w := by
    apply BitVec.eq_of_getLsbD_eq
    intro i hi
    by_cases h : i < k
    · simp [hi, h]
    · have hback : k + (i - k) = i := by omega
      simp [hi, h, hback, BitVec.getLsbD_of_ge x i (by omega)]
  have hhigh : ∀ i, w ≤ i + k → (r >>> k).getLsbD i = false := by
    intro i hi
    rw [BitVec.getLsbD_ushiftRight]
    exact BitVec.getLsbD_of_ge r _ (by omega)
  unfold absorb
  rw [hsplit, iterate_step_xor, iterate_step_shiftLeft poly k hhigh, BitVec.zero_xor]

/-! ## Dividing loses nothing -/

section

variable {poly} (hpoly : poly.getLsbD (w - 1) = true)
include hpoly

/-- Only the zero register goes to zero in a step. -/
theorem eq_zero_of_step {r : BitVec w} (h : step poly r = 0#w) : r = 0#w := by
  have hbit : ∀ i, (step poly r).getLsbD i = false := fun i => by rw [h, BitVec.getLsbD_zero]
  cases hlow : r.getLsbD 0 with
  | true =>
    -- the polynomial has just been added, and nothing moved into its highest bit
    have htop := hbit (w - 1)
    have hover : r.getLsbD (1 + (w - 1)) = false := BitVec.getLsbD_of_ge r _ (by omega)
    unfold step at htop
    rw [if_pos hlow, BitVec.getLsbD_xor, BitVec.getLsbD_ushiftRight, hover, hpoly] at htop
    cases htop
  | false =>
    unfold step at hbit
    rw [hlow] at hbit
    apply BitVec.eq_of_getLsbD_eq
    intro i hi
    rw [BitVec.getLsbD_zero]
    cases i with
    | zero => exact hlow
    | succ i =>
      have hnext : (r >>> 1).getLsbD i = false := hbit i
      rwa [BitVec.getLsbD_ushiftRight, Nat.add_comm] at hnext

/-- Only the zero register goes to zero in any number of steps. -/
theorem eq_zero_of_iterate_step {r : BitVec w} (n : Nat) (h : (step poly)^[n] r = 0#w) : r = 0#w := by
  induction n generalizing r with
  | zero => exact h
  | succ n ih => exact eq_zero_of_step hpoly (ih h)

/-- A message and then as many bits as the register has leave nothing exactly when these bits are the register. -/
theorem remainder_eq_zero_iff (r : BitVec w) {l : List Bool} (h : l.length = w) :
    remainder poly r l = 0#w ↔ ofBits l = r := by
  rw [remainder_eq_iterate poly r l (Nat.le_of_eq h)]
  constructor
  · intro h0
    exact (BitVec.xor_eq_zero_iff.mp (eq_zero_of_iterate_step hpoly _ h0)).symm
  · rintro rfl
    rw [BitVec.xor_self, iterate_step_zero]

end

/-! ## Bursts -/

/-- Bits that are not all zero, the ones among them within `n` places. -/
def Burst (n : Nat) (e : List Bool) : Prop := true ∈ e ∧ ∃ p, ∀ i, e[i]? = some true → p ≤ i ∧ i < p + n

/-- A burst between zeros. -/
theorem Burst.exists_middle {n : Nat} {e : List Bool} (h : Burst n e) :
    ∃ a b mid, e = List.replicate a false ++ (mid ++ List.replicate b false) ∧ mid.length ≤ n ∧ true ∈ mid := by
  obtain ⟨hone, p, hp⟩ := h
  have hzeros : ∀ l : List Bool, (∀ x ∈ l, x ≠ true) → l = List.replicate l.length false := by
    intro l hl
    exact List.eq_replicate_iff.mpr ⟨rfl, fun x hx => Bool.eq_false_iff.mpr (hl x hx)⟩
  have hfront := hzeros (e.take p) (by
    rintro x hx rfl
    obtain ⟨i, hi, hb⟩ := List.getElem_of_mem hx
    rw [List.length_take] at hi
    rw [List.getElem_take] at hb
    have := hp i (by rw [List.getElem?_eq_getElem (by omega), hb])
    omega)
  have hback := hzeros ((e.drop p).drop n) (by
    rintro x hx rfl
    obtain ⟨i, hi, hb⟩ := List.getElem_of_mem hx
    rw [List.length_drop, List.length_drop] at hi
    rw [List.getElem_drop, List.getElem_drop] at hb
    have := hp (p + (n + i)) (by rw [List.getElem?_eq_getElem (by omega), hb])
    omega)
  have hsplit : e = e.take p ++ ((e.drop p).take n ++ (e.drop p).drop n) := by
    rw [List.take_append_drop, List.take_append_drop]
  refine ⟨(e.take p).length, ((e.drop p).drop n).length, (e.drop p).take n, ?_, ?_, ?_⟩
  · rw [← hfront, ← hback]
    exact hsplit
  · rw [List.length_take]
    omega
  · rw [hsplit, hfront, hback, List.mem_append, List.mem_append, List.mem_replicate, List.mem_replicate] at hone
    rcases hone with ⟨-, h⟩ | h | ⟨-, h⟩
    · cases h
    · exact h
    · cases h

/-- Zeros on both sides do not make a burst longer. -/
theorem burst_of_middle {n a b : Nat} {mid : List Bool} (hlen : mid.length ≤ n) (hone : true ∈ mid) :
    Burst n (List.replicate a false ++ (mid ++ List.replicate b false)) := by
  constructor
  · exact List.mem_append_right _ (List.mem_append_left _ hone)
  · refine ⟨a, fun i hi => ?_⟩
    by_cases hfront : i < a
    · rw [List.getElem?_append_left (by rw [List.length_replicate]; exact hfront), List.getElem?_replicate] at hi
      simp [hfront] at hi
    · rw [List.getElem?_append_right (by rw [List.length_replicate]; omega), List.length_replicate] at hi
      by_cases hmid : i - a < mid.length
      · omega
      · rw [List.getElem?_append_right (by omega), List.getElem?_replicate] at hi
        simp at hi

/-- A burst no longer than the register leaves something in it. -/
theorem remainder_burst {poly : BitVec w} (hpoly : poly.getLsbD (w - 1) = true) {e : List Bool} (h : Burst w e) :
    remainder poly 0#w e ≠ 0#w := by
  obtain ⟨a, b, mid, rfl, hlen, hone⟩ := h.exists_middle
  intro h0
  rw [remainder_append, remainder_replicate_false, iterate_step_zero, remainder_append, remainder_replicate_false,
    remainder_eq_iterate poly _ mid hlen, BitVec.zero_xor] at h0
  exact ofBits_ne_zero hlen hone (eq_zero_of_iterate_step hpoly _ (eq_zero_of_iterate_step hpoly _ h0))

/-- The sum of a message that leaves nothing and a burst no longer than the register leaves something. -/
theorem crc_burst {poly : BitVec w} (hpoly : poly.getLsbD (w - 1) = true) (hk : k ≤ w) {init : BitVec w} {l e : List (BitVec k)}
    (hl : crc poly init l = 0#w) (hlen : l.length = e.length) (h : Burst w (e.flatMap bits)) :
    crc poly init (List.zipWith (· ^^^ ·) l e) ≠ 0#w := by
  rw [crc_eq_remainder poly _ _ hk] at hl
  have hsum := remainder_xor poly init 0#w (l.flatMap bits) (e.flatMap bits)
    (by rw [length_flatMap_bits, length_flatMap_bits, hlen])
  rw [BitVec.xor_zero, hl, BitVec.zero_xor] at hsum
  rw [crc_eq_remainder poly _ _ hk, flatMap_bits_zipWith l e hlen, hsum]
  exact remainder_burst hpoly h

end Crc
