import Mathlib.Data.Nat.Bitwise

/-!
# Bytes and words

A word is put together from bytes by shifts and sums or disjunctions, in the width of the word, and
taken apart into bytes by shifts and masks. This module gives the value of the word (`toNat_le16`,
`toNat_be16`, `toNat_le32`), and recovers a word from its bytes.
-/

namespace TrainPP.Words

/-- Some bit of `mask` is set in `b`. -/
def flag (b mask : UInt8) : Bool := b &&& mask != 0

/-- The word with low byte `lo` and high byte `hi`, as a disjunction. -/
def le16 (lo hi : UInt8) : UInt16 := lo.toUInt16 ||| (hi.toUInt16 <<< 8)

/-- The word with high byte `hi` and low byte `lo`, as a sum. -/
def be16 (hi lo : UInt8) : UInt16 := (hi.toUInt16 <<< 8) + lo.toUInt16

/-- The double word with bytes `b₀` to `b₃`, the lowest first. -/
def le32 (b₀ b₁ b₂ b₃ : UInt8) : UInt32 :=
  b₀.toUInt32 + (b₁.toUInt32 <<< 8) + (b₂.toUInt32 <<< 16) + (b₃.toUInt32 <<< 24)

/-! ## Values -/

theorem toNat_le16 (lo hi : UInt8) : (le16 lo hi).toNat = lo.toNat + 256 * hi.toNat := by
  have h := Nat.shiftLeft_add_eq_or_of_lt lo.toNat_lt hi.toNat
  have hhi := hi.toNat_lt
  have hs : hi.toNat <<< 8 = 256 * hi.toNat := by rw [Nat.shiftLeft_eq]; omega
  simp only [le16, UInt16.toNat_or, UInt16.toNat_shiftLeft, UInt8.toNat_toUInt16,
    UInt16.reduceToNat, Nat.reduceMod]
  rw [Nat.mod_eq_of_lt (by omega), Nat.or_comm, ← h]
  omega

theorem toNat_be16 (hi lo : UInt8) : (be16 hi lo).toNat = 256 * hi.toNat + lo.toNat := by
  have hhi := hi.toNat_lt
  have hlo := lo.toNat_lt
  have hs : hi.toNat <<< 8 = 256 * hi.toNat := by rw [Nat.shiftLeft_eq]; omega
  simp only [be16, UInt16.toNat_add, UInt16.toNat_shiftLeft, UInt8.toNat_toUInt16,
    UInt16.reduceToNat, Nat.reduceMod, hs]
  omega

theorem toNat_le32 (b₀ b₁ b₂ b₃ : UInt8) :
    (le32 b₀ b₁ b₂ b₃).toNat =
      b₀.toNat + 256 * b₁.toNat + 65536 * b₂.toNat + 16777216 * b₃.toNat := by
  have h₀ := b₀.toNat_lt
  have h₁ := b₁.toNat_lt
  have h₂ := b₂.toNat_lt
  have h₃ := b₃.toNat_lt
  simp only [le32, UInt32.toNat_add, UInt32.toNat_shiftLeft, UInt8.toNat_toUInt32,
    UInt32.reduceToNat, Nat.shiftLeft_eq, Nat.reduceMod, Nat.reducePow]
  omega

/-! ## Masks -/

/-- A mask of the `k` lowest bits. -/
theorem toNat_and_mask (a : UInt8) {mask : UInt8} (k : ℕ) (h : mask.toNat = 2 ^ k - 1) :
    (a &&& mask).toNat = a.toNat % 2 ^ k := by
  rw [UInt8.toNat_and, h, Nat.and_two_pow_sub_one_eq_mod]

theorem toNat_and_mask16 (a : UInt16) {mask : UInt16} (k : ℕ) (h : mask.toNat = 2 ^ k - 1) :
    (a &&& mask).toNat = a.toNat % 2 ^ k := by
  rw [UInt16.toNat_and, h, Nat.and_two_pow_sub_one_eq_mod]

@[simp] theorem and_255_toUInt8 (a : UInt16) : (a &&& 0xff).toUInt8 = a.toUInt8 := by
  apply UInt8.toNat_inj.1
  rw [UInt16.toNat_toUInt8, toNat_and_mask16 a 8 rfl, UInt16.toNat_toUInt8, Nat.mod_mod]

/-! ## Words from their bytes -/

theorem toNat_shiftRight_toUInt8 (a : UInt16) : (a >>> 8).toUInt8.toNat = a.toNat / 256 := by
  have := a.toNat_lt
  simp only [UInt16.toNat_toUInt8, UInt16.toNat_shiftRight, UInt16.reduceToNat,
    Nat.shiftRight_eq_div_pow, Nat.reduceMod, Nat.reducePow]
  omega

@[simp] theorem be16_bytes (a : UInt16) : be16 (a >>> 8).toUInt8 a.toUInt8 = a := by
  apply UInt16.toNat_inj.1
  rw [toNat_be16, toNat_shiftRight_toUInt8, UInt16.toNat_toUInt8]
  omega

@[simp] theorem le16_bytes (a : UInt16) : le16 a.toUInt8 (a >>> 8).toUInt8 = a := by
  apply UInt16.toNat_inj.1
  rw [toNat_le16, toNat_shiftRight_toUInt8, UInt16.toNat_toUInt8]
  omega

@[simp] theorem le16_toUInt8 (lo hi : UInt8) : (le16 lo hi).toUInt8 = lo := by
  have := lo.toNat_lt
  apply UInt8.toNat_inj.1
  rw [UInt16.toNat_toUInt8, toNat_le16]
  omega

@[simp] theorem le16_shiftRight_toUInt8 (lo hi : UInt8) : (le16 lo hi >>> 8).toUInt8 = hi := by
  have := lo.toNat_lt
  apply UInt8.toNat_inj.1
  rw [toNat_shiftRight_toUInt8, toNat_le16]
  omega

@[simp] theorem be16_toUInt8 (hi lo : UInt8) : (be16 hi lo).toUInt8 = lo := by
  have := lo.toNat_lt
  apply UInt8.toNat_inj.1
  rw [UInt16.toNat_toUInt8, toNat_be16]
  omega

@[simp] theorem be16_shiftRight_toUInt8 (hi lo : UInt8) : (be16 hi lo >>> 8).toUInt8 = hi := by
  have := lo.toNat_lt
  apply UInt8.toNat_inj.1
  rw [toNat_shiftRight_toUInt8, toNat_be16]
  omega

@[simp] theorem le32_bytes (a : UInt32) :
    le32 (a &&& 0xff).toUInt8 ((a >>> 8) &&& 0xff).toUInt8 ((a >>> 16) &&& 0xff).toUInt8
      ((a >>> 24) &&& 0xff).toUInt8 = a := by
  have hmask : ∀ b : UInt32, (b &&& 0xff).toUInt8.toNat = b.toNat % 256 := by
    intro b
    rw [UInt32.toNat_toUInt8, UInt32.toNat_and]
    exact (congrArg (· % 2 ^ 8) (Nat.and_two_pow_sub_one_eq_mod b.toNat 8)).trans (Nat.mod_mod _ _)
  apply UInt32.toNat_inj.1
  rw [toNat_le32, hmask, hmask, hmask, hmask]
  simp only [UInt32.toNat_shiftRight, UInt32.reduceToNat, Nat.shiftRight_eq_div_pow, Nat.reduceMod,
    Nat.reducePow]
  have := a.toNat_lt
  omega

/-- The high byte of a word, of which the `k` lowest bits are kept. -/
theorem toNat_high_and_mask (a : UInt16) {mask : UInt16} (k : ℕ) (hk : k ≤ 8)
    (h : mask.toNat = 2 ^ k - 1) :
    ((a >>> 8) &&& mask).toUInt8.toNat = a.toNat / 256 % 2 ^ k := by
  have hpow : 2 ^ k ≤ 2 ^ 8 := Nat.pow_le_pow_right Nat.two_pos hk
  have hlt := Nat.mod_lt (a.toNat / 256) (Nat.two_pow_pos k)
  rw [UInt16.toNat_toUInt8, toNat_and_mask16 _ k h, UInt16.toNat_shiftRight]
  change a.toNat >>> 8 % 2 ^ k % 2 ^ 8 = _
  rw [Nat.shiftRight_eq_div_pow]
  exact Nat.mod_eq_of_lt (hlt.trans_le hpow)

/-- A word keeps its value when bits above its value are masked off. -/
theorem be16_bytes_of_lt {a mask : UInt16} (k : ℕ) (hk : k ≤ 8) (h : mask.toNat = 2 ^ k - 1)
    (ha : a.toNat / 256 < 2 ^ k) : be16 ((a >>> 8) &&& mask).toUInt8 a.toUInt8 = a := by
  apply UInt16.toNat_inj.1
  rw [toNat_be16, toNat_high_and_mask a k hk h, Nat.mod_eq_of_lt ha, UInt16.toNat_toUInt8]
  omega

end TrainPP.Words
