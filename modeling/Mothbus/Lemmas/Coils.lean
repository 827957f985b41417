import Mothbus.Adu.Master
import Mothbus.Library.Bits

/-!
# The packing of coils

`write_multiple_coils` adds the value of coil `c` of a byte, shifted by `c`, to the byte. The byte is that of the coils that are not
zero as long as what the values are more than one does not carry into it.
-/

namespace Mothbus.Master

/-- One pass of the packing loop adds to the byte modulo 256. -/
theorem toNat_add_shifted (pack v : UInt8) (c : Nat) :
    (pack + UInt8.ofNat (v.toNat <<< c)).toNat = (pack.toNat + v.toNat * 2 ^ c) % 256 := by
  rw [UInt8.toNat_add, UInt8.toNat_ofNat', Nat.shiftLeft_eq]
  omega

/-- The passes from a coil on add the coils as binary digits, from the bit of that coil on. -/
theorem toNat_packCoils_from (coils : List UInt8) (c : Nat) (pack : UInt8) :
    ((coils.zipIdx c).foldl (fun pack p => pack + UInt8.ofNat (p.1.toNat <<< p.2)) pack).toNat =
      (pack.toNat + 2 ^ c * Nat.ofDigits 2 (coils.map UInt8.toNat)) % 256 := by
  induction coils generalizing c pack with
  | nil =>
    have hpack := pack.toNat_lt
    rw [List.zipIdx_nil, List.foldl_nil, List.map_nil, Nat.ofDigits_nil]
    omega
  | cons v coils ih =>
    have hsplit : 2 ^ c * (v.toNat + 2 * Nat.ofDigits 2 (coils.map UInt8.toNat)) =
        v.toNat * 2 ^ c + 2 ^ (c + 1) * Nat.ofDigits 2 (coils.map UInt8.toNat) := by ring
    rw [List.zipIdx_cons, List.foldl_cons, ih, toNat_add_shifted, List.map_cons, Nat.ofDigits_cons, hsplit]
    dsimp only
    omega

/-- A packed byte is the number whose binary digits are the values, modulo 256. -/
theorem toNat_packCoils (coils : List UInt8) :
    (packCoils coils).toNat = Nat.ofDigits 2 (coils.map UInt8.toNat) % 256 := by
  rw [packCoils, toNat_packCoils_from, UInt8.toNat_zero, Nat.pow_zero, Nat.one_mul, Nat.zero_add]

/-- What the values of some coils are more than one, each at the bit of its coil. -/
def excess (coils : List UInt8) : Nat := Nat.ofDigits 2 (coils.map fun v => v.toNat - 1)

/-- Values of zero and one have no excess. -/
theorem excess_eq_zero {coils : List UInt8} (h : ∀ v ∈ coils, v.toNat ≤ 1) : excess coils = 0 := by
  unfold excess
  induction coils with
  | nil => rfl
  | cons v coils ih =>
    have hv := h v List.mem_cons_self
    have hzero : v.toNat - 1 = 0 := by omega
    rw [List.map_cons, Nat.ofDigits_cons, ih fun w hw => h w (List.mem_cons_of_mem _ hw), hzero]

/-- The values are the coils that are not zero, and the excess. -/
theorem ofDigits_values (coils : List UInt8) :
    Nat.ofDigits 2 (coils.map UInt8.toNat) =
      Nat.ofDigits 2 ((coils.map fun v => decide (v ≠ 0)).map Bool.toNat) + excess coils := by
  have hv : ∀ v : UInt8, v.toNat = (decide (v ≠ 0)).toNat + (v.toNat - 1) := by
    intro v
    by_cases h : v = 0
    · subst h
      rfl
    · have hpos : v.toNat ≠ 0 := fun h0 => h (UInt8.toNat_inj.mp h0)
      simp only [h, ne_eq, not_false_eq_true, decide_true, Bool.toNat_true]
      omega
  rw [excess, List.map_map, ← Nat.ofDigits_map_add]
  exact congrArg _ (List.map_congr_left fun v _ => hv v)

/-- The bits of the byte of up to eight coils are the coils that are not zero if and only if the excess is a multiple of 256. -/
theorem packCoils_exact_iff {coils : List UInt8} (h : coils.length ≤ 8) :
    (∀ c < 8, (packCoils coils).toNat.testBit c = decide (coils.getD c 0 ≠ 0)) ↔ 256 ∣ excess coils := by
  have hlen : (coils.map fun v => decide (v ≠ 0)).length ≤ 8 := by
    rw [List.length_map]
    exact h
  have hbits : ∀ c, (coils.map fun v => decide (v ≠ 0)).getD c false = decide (coils.getD c 0 ≠ 0) := by
    intro c
    exact List.getD_map coils 0 fun v => decide (v ≠ 0)
  have hexact := Nat.ofDigits_toNat_lt hlen
  have hiff := Nat.eq_ofDigits_toNat_iff (packCoils coils).toNat_lt hlen
  simp only [hbits] at hiff
  rw [← hiff, toNat_packCoils, ofDigits_values]
  omega

/-- The quantity of coils is their number, for as many as the operation asserts. -/
theorem toNat_quantityOfCoils {n : Nat} (h : n ≤ 1968) : (UInt16.ofNat n).toNat = n := by
  rw [UInt16.toNat_ofNat']
  omega

/-- The byte count is that of the coils, eight to a byte. -/
theorem toNat_coilByteCount {n : Nat} (h : 1 ≤ n ∧ n ≤ 1968) :
    (UInt8.ofNat (((UInt16.ofNat n).toNat - 1) / 8 + 1)).toNat = (n + 7) / 8 := by
  rw [toNat_quantityOfCoils h.2, UInt8.toNat_ofNat']
  omega

/-- The coils of byte `i`. -/
def coilsOfByte (values : List UInt8) (i : Nat) : List UInt8 := (values.drop (8 * i)).take 8

/-- A byte has room for eight coils. -/
theorem length_coilsOfByte (values : List UInt8) (i : Nat) : (coilsOfByte values i).length ≤ 8 := List.length_take_le _ _

/-- The coils of a byte are some of the values. -/
theorem mem_of_mem_coilsOfByte {values : List UInt8} {i : Nat} {v : UInt8} (h : v ∈ coilsOfByte values i) : v ∈ values :=
  List.mem_of_mem_drop (List.mem_of_mem_take h)

/-- Past the last value there are no coils. -/
theorem coilsOfByte_eq_nil {values : List UInt8} {i : Nat} (h : values.length ≤ 8 * i) : coilsOfByte values i = [] := by
  rw [coilsOfByte, List.drop_eq_nil_of_le h, List.take_nil]

/-- The span of a pass of the outer loop. -/
theorem chunk_eq_coilsOfByte (values : List UInt8) (i : Nat) :
    (values.drop (i * 8)).take (min ((i + 1) * 8) values.length - i * 8) = coilsOfByte values i := by
  rw [coilsOfByte, Nat.mul_comm i 8, List.take_eq_take_iff, List.length_drop]
  omega

/-- A coil stands in the byte, and at the place there, that the division of its number by eight gives. -/
theorem getD_coilsOfByte (values : List UInt8) (k : Nat) : (coilsOfByte values (k / 8)).getD (k % 8) 0 = values.getD k 0 := by
  have hlt : k % 8 < 8 := Nat.mod_lt _ (by decide)
  have hk : 8 * (k / 8) + k % 8 = k := Nat.div_add_mod k 8
  rw [coilsOfByte, List.getD_eq_getElem?_getD, List.getElem?_take_of_lt hlt, List.getElem?_drop, hk,
    ← List.getD_eq_getElem?_getD]

end Mothbus.Master
