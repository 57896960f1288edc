import TrainPP.Foundations.Words

/-!
# Bits of bytes and of byte lists

A byte is determined by its eight bits (`ext_bit`), can be made from eight bits (`ofBits`), and
tells whether a single bit is set by a mask (`flag_eq_bit`). A bit of a byte list is addressed by
the position of its byte and its place in the byte; flipping it changes this bit and no other
(`bitAt_flipAt`).
-/

namespace TrainPP.Bits

open Words

/-! ## Bytes -/

/-- The bit `k` of a byte, the lowest bit being the bit 0. -/
def bit (b : UInt8) (k : ℕ) : Bool := b.toNat.testBit k

theorem bit_of_le (b : UInt8) {k : ℕ} (hk : 8 ≤ k) : bit b k = false :=
  Nat.testBit_lt_two_pow (b.toNat_lt.trans_le (Nat.pow_le_pow_right Nat.two_pos hk))

theorem bit_of_lt {b : UInt8} {n k : ℕ} (hb : b.toNat < 2 ^ n) (hk : n ≤ k) : bit b k = false :=
  Nat.testBit_lt_two_pow (hb.trans_le (Nat.pow_le_pow_right Nat.two_pos hk))

theorem ext_bit {a b : UInt8} (h : ∀ k < 8, bit a k = bit b k) : a = b := by
  apply UInt8.toNat_inj.1
  apply Nat.eq_of_testBit_eq
  intro k
  by_cases hk : k < 8
  · exact h k hk
  · exact (bit_of_le a (Nat.le_of_not_lt hk)).trans (bit_of_le b (Nat.le_of_not_lt hk)).symm

@[simp] theorem bit_and (a b : UInt8) (k : ℕ) : bit (a &&& b) k = (bit a k && bit b k) := by
  rw [bit, UInt8.toNat_and, Nat.testBit_and]
  rfl

@[simp] theorem bit_or (a b : UInt8) (k : ℕ) : bit (a ||| b) k = (bit a k || bit b k) := by
  rw [bit, UInt8.toNat_or, Nat.testBit_or]
  rfl

@[simp] theorem bit_xor (a b : UInt8) (k : ℕ) : bit (a ^^^ b) k = (bit a k ^^ bit b k) := by
  rw [bit, UInt8.toNat_xor, Nat.testBit_xor]
  rfl

theorem or_and (a b mask : UInt8) : (a ||| b) &&& mask = a &&& mask ||| b &&& mask := by
  apply ext_bit
  intro k _
  rw [bit_and, bit_or, bit_or, bit_and, bit_and, Bool.and_or_distrib_right]

/-- A mask of the `k` lowest bits keeps a byte that has no others. -/
theorem and_mask_of_lt {a mask : UInt8} (k : ℕ) (h : mask.toNat = 2 ^ k - 1)
    (ha : a.toNat < 2 ^ k) : a &&& mask = a := by
  apply UInt8.toNat_inj.1
  rw [toNat_and_mask a k h, Nat.mod_eq_of_lt ha]

/-- Masks without a common bit. -/
theorem and_and_of_disjoint (a : UInt8) {mask mask' : UInt8} (h : mask &&& mask' = 0) :
    a &&& mask &&& mask' = 0 := by
  rw [UInt8.and_assoc, h, UInt8.and_zero]

/-- A mask of one bit tells whether this bit is set. -/
theorem flag_eq_bit (b : UInt8) {mask : UInt8} (k : ℕ) (h : mask.toNat = 2 ^ k) :
    flag b mask = bit b k := by
  have hand : (b &&& mask).toNat = (bit b k).toNat * 2 ^ k := by
    rw [UInt8.toNat_and, h, Nat.and_two_pow]
    rfl
  cases hb : bit b k with
  | false =>
    rw [hb, Bool.toNat_false, Nat.zero_mul] at hand
    have hzero : b &&& mask = 0 := UInt8.toNat_inj.1 hand
    rw [flag, hzero]
    rfl
  | true =>
    rw [hb, Bool.toNat_true, Nat.one_mul] at hand
    refine bne_iff_ne.2 fun hzero => ?_
    rw [hzero] at hand
    exact absurd hand.symm (Nat.two_pow_pos k).ne'

/-- The highest bit of a byte. -/
theorem flag_high (b : UInt8) : flag b 0x80 = decide (128 ≤ b.toNat) := by
  have hb := b.toNat_lt
  rw [flag_eq_bit b 7 rfl, bit, Nat.testBit_eq_decide_div_mod_eq, decide_eq_decide]
  omega

/-- The byte with given bits, the lowest first. -/
def ofBits (f : Fin 8 → Bool) : UInt8 := UInt8.ofNat (Nat.ofBits f)

@[simp] theorem bit_ofBits (f : Fin 8 → Bool) (k : Fin 8) : bit (ofBits f) k = f k := by
  rw [bit, ofBits, UInt8.toNat_ofNat_of_lt' (Nat.ofBits_lt_two_pow f),
    Nat.testBit_ofBits_lt f k k.isLt]

/-- A byte of which one bit is inverted. -/
def flipBit (b : UInt8) (k : ℕ) : UInt8 := b ^^^ UInt8.ofNat (2 ^ k)

theorem bit_flipBit (b : UInt8) {k : ℕ} (hk : k < 8) (j : ℕ) :
    bit (flipBit b k) j = (bit b j ^^ decide (k = j)) := by
  have hlt : 2 ^ k < 2 ^ 8 := Nat.pow_lt_pow_right Nat.one_lt_two hk
  rw [flipBit, bit_xor, bit, bit, UInt8.toNat_ofNat_of_lt' hlt, Nat.testBit_two_pow]

/-! ## Byte lists -/

/-- The bit of a byte list at a byte and a place in it. -/
def bitAt (data : List UInt8) (p : ℕ × ℕ) : Bool := bit (data.getD p.1 0) p.2

/-- A byte list of which one bit is inverted. -/
def flipAt (data : List UInt8) (p : ℕ × ℕ) : List UInt8 := data.modify p.1 (flipBit · p.2)

@[simp] theorem length_flipAt (data : List UInt8) (p : ℕ × ℕ) :
    (flipAt data p).length = data.length := List.length_modify ..

/-- The byte in which a bit is inverted. -/
theorem getD_flipAt_self {data : List UInt8} {p : ℕ × ℕ} (hp : p.1 < data.length) :
    (flipAt data p).getD p.1 0 = flipBit (data.getD p.1 0) p.2 := by
  rw [List.getD_eq_getElem _ _ (by rwa [length_flipAt]), List.getD_eq_getElem _ _ hp]
  exact List.getElem_modify_eq ..

/-- Another byte. -/
theorem getD_flipAt_of_ne {data : List UInt8} {p : ℕ × ℕ} {i : ℕ} (hi : p.1 ≠ i) :
    (flipAt data p).getD i 0 = data.getD i 0 := by
  rw [List.getD_eq_getElem?_getD, List.getD_eq_getElem?_getD, flipAt,
    List.getElem?_modify_ne _ _ hi]

/-- **Flipping a bit changes this bit and no other.** -/
theorem bitAt_flipAt {data : List UInt8} {p : ℕ × ℕ} (hp : p.1 < data.length) (hk : p.2 < 8)
    (q : ℕ × ℕ) : bitAt (flipAt data p) q = (bitAt data q ^^ decide (p = q)) := by
  by_cases hi : p.1 = q.1
  · have hpq : p = q ↔ p.2 = q.2 := Prod.ext_iff.trans (and_iff_right hi)
    rw [bitAt, bitAt, ← hi, getD_flipAt_self hp, bit_flipBit _ hk, decide_eq_decide.2 hpq]
  · have hpq : p ≠ q := fun h => hi (congrArg Prod.fst h)
    rw [bitAt, bitAt, getD_flipAt_of_ne hi, decide_eq_false hpq, Bool.xor_false]

end TrainPP.Bits
