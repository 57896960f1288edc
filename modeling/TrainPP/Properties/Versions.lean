import TrainPP.Foundations.Numerals
import TrainPP.Protocol.Bodies
import TrainPP.Protocol.Refinement

/-!
# Firmware versions

A version is the non-zero bytes, read as BCD and joined by dots.

* `decodeBcdVersion_agree`: the version of `LAN_GET_HWINFO`, whose bytes come in the other order and
  are padded with zeros, is the version of the LAN_X response;
* `sameVersion_iff_filter_eq`: valid BCD bytes give the same version exactly when their non-zero
  bytes are the same.
-/

namespace TrainPP

open Checked Words Numerals

/-! ## Two ways to the same version -/

/-- Zeros in front of the most significant byte are left out. -/
theorem bcdVersion_replicate_append (k : ℕ) (bytes : List UInt8) :
    bcdVersion (List.replicate k 0 ++ bytes) = bcdVersion bytes := by
  have hfilter : (List.replicate k (0 : UInt8)).filter (· ≠ 0) = [] :=
    List.filter_replicate_of_neg (by decide)
  have hall : (List.replicate k (0 : UInt8)).all (· == 0) = true := by
    simp
  rw [bcdVersion, bcdVersion, List.all_append, hall, Bool.true_and, List.filter_append, hfilter,
    List.nil_append]

theorem toOption_decodeBcdVersion_append_replicate (xs : List UInt8) (k : ℕ) :
    (decodeBcdVersion (xs ++ List.replicate k 0) true).toOption = bcdVersion xs.reverse := by
  rw [toOption_decodeBcdVersion, if_pos rfl, List.reverse_append, List.reverse_replicate,
    bcdVersion_replicate_append]

/-- A `LAN_GET_HWINFO` with a version of two bytes. -/
theorem Dataset.message_hwInfo (size : UInt16) (b₀ b₁ b₂ b₃ : UInt8) {minor major : UInt8}
    {version : String} (h : bcdVersion [major, minor] = some version) :
    message ⟨size, DataSet.lanGetHwinfo.id, [b₀, b₁, b₂, b₃, minor, major, 0, 0]⟩ =
      some (.hwInfo (some ⟨le32 b₀ b₁ b₂ b₃, version⟩)) := by
  have hversion : bcdVersion [0, 0, major, minor] = some version :=
    (bcdVersion_replicate_append 2 [major, minor]).trans h
  show Option.map _ (Option.map _ (bcdVersion [0, 0, major, minor])) = _
  rw [hversion]
  rfl

/-- A LAN_X response with a version. -/
theorem Dataset.message_fwVersion (size : UInt16) {x major minor : UInt8} {rest : List UInt8}
    {version : String} (hb : LanX.checkChecksum (0xf3 :: x :: major :: minor :: rest) = .ok true)
    (h : bcdVersion [major, minor] = some version) :
    message ⟨size, DataSet.lanX.id, 0xf3 :: x :: major :: minor :: rest⟩ =
      some (.lanX (.getFirmwareVersionResponse ⟨version⟩)) := by
  have hi := LanX.checkChecksum_eq_true_iff_intact.1 hb
  show LanX.decode (0xf3 :: x :: major :: minor :: rest) = _
  rw [LanX.decode, if_neg (List.cons_ne_nil _ _), if_pos hi]
  show Option.map _ (Option.map _ (Option.map _ (bcdVersion [major, minor]))) = _
  rw [h]
  rfl

/-- **Two ways to the same version**: bytes with the lowest first, padded with zeros at the end, and
the same bytes with the highest first give the same version, if not all are zero. So the version in
the status is the same after a `LAN_GET_HWINFO` and after a LAN_X response with the same two bytes
of a version. -/
theorem decodeBcdVersion_agree :
    (∀ (xs : List UInt8) (k : ℕ), (∃ b ∈ xs, b ≠ 0) →
        ∃ version, decodeBcdVersion (xs ++ List.replicate k 0) true = .ok version ∧
          decodeBcdVersion xs.reverse false = .ok version) ∧
      ∀ (z₁ z₂ : Z21) (size₁ size₂ : UInt16) (b₀ b₁ b₂ b₃ x major minor : UInt8)
        (rest : List UInt8), ¬(major = 0 ∧ minor = 0) →
          LanX.checkChecksum (0xf3 :: x :: major :: minor :: rest) = .ok true →
            ∃ z₁' z₂', z₁.handleDataset ⟨size₁, DataSet.lanGetHwinfo.id,
                [b₀, b₁, b₂, b₃, minor, major, 0, 0]⟩ = .ok z₁' ∧
              z₂.handleDataset ⟨size₂, DataSet.lanX.id, 0xf3 :: x :: major :: minor :: rest⟩ =
                .ok z₂' ∧
              z₁'.status.id.fwVersion = z₂'.status.id.fwVersion := by
  constructor
  · intro xs k hne
    have hsome : (bcdVersion xs.reverse).isSome := by
      rw [bcdVersion_isSome_iff]
      simpa using hne
    obtain ⟨version, hversion⟩ := Option.isSome_iff_exists.1 hsome
    refine ⟨version, toOption_eq_some_iff.1 ?_, toOption_eq_some_iff.1 ?_⟩
    · rw [toOption_decodeBcdVersion_append_replicate, hversion]
    · rw [toOption_decodeBcdVersion, if_neg Bool.false_ne_true, hversion]
  · intro z₁ z₂ size₁ size₂ b₀ b₁ b₂ b₃ x major minor rest hne hb
    have hsome : (bcdVersion [major, minor]).isSome := by
      rw [bcdVersion_isSome_iff]
      simpa using not_and_or.1 hne
    obtain ⟨version, hversion⟩ := Option.isSome_iff_exists.1 hsome
    have h₁ := Dataset.message_hwInfo size₁ b₀ b₁ b₂ b₃ hversion
    have h₂ := Dataset.message_fwVersion size₂ hb hversion
    exact ⟨_, _, z₁.handleDataset_of_message h₁, z₂.handleDataset_of_message h₂, rfl⟩

/-- The version 1.33. -/
theorem decodeBcdVersion_agree_133 :
    (∃ version, decodeBcdVersion [0x33, 0x01, 0, 0] true = .ok version ∧
        decodeBcdVersion [0x01, 0x33] false = .ok version) ∧
      ∃ z₁ z₂, (Z21.fresh ⟨0, 0, .unknown⟩).handleDataset
          ⟨12, DataSet.lanGetHwinfo.id, [0x04, 0x02, 0, 0, 0x33, 0x01, 0, 0]⟩ = .ok z₁ ∧
        z₁.handleDataset ⟨9, DataSet.lanX.id, [0xf3, 0x0a, 0x01, 0x33, 0xcb]⟩ = .ok z₂ ∧
        z₁.status.id.fwVersion = z₂.status.id.fwVersion := by
  obtain ⟨hbytes, hstatus⟩ := decodeBcdVersion_agree
  refine ⟨hbytes [0x33, 0x01] 2 ⟨0x33, by decide, by decide⟩, ?_⟩
  have hb : LanX.checkChecksum [0xf3, 0x0a, 0x01, 0x33, 0xcb] = .ok true := by decide
  have hstep := hstatus (Z21.fresh ⟨0, 0, .unknown⟩)
  obtain ⟨z₁, -, h₁, -⟩ := hstep (Z21.fresh ⟨0, 0, .unknown⟩) 12 9 0x04 0x02 0 0 0x0a 0x01 0x33 _
    (by decide) hb
  obtain ⟨z₁', z₂, h₁', h₂, hversion⟩ := hstep z₁ 12 9 0x04 0x02 0 0 0x0a 0x01 0x33 _ (by decide) hb
  obtain rfl := Except.ok.inj (h₁.symm.trans h₁')
  exact ⟨z₁, z₂, h₁, h₂, hversion⟩

/-! ## Versions that are the same -/

/-- A byte whose two halves are decimal digits. -/
def IsBcd (b : UInt8) : Prop := b.toNat % 16 ≤ 9 ∧ b.toNat / 16 ≤ 9

instance (b : UInt8) : Decidable (IsBcd b) := inferInstanceAs (Decidable (_ ∧ _))

/-- The number that `decode_bcd_version` makes of a byte. -/
def bcdValue (b : UInt8) : ℕ := ((b &&& (0x0f : UInt8)) + (b >>> (4 : UInt8)) * 10).toNat

/-- The byte whose two halves are the digits of a number. -/
def bcdByte (n : ℕ) : UInt8 := UInt8.ofNat (n / 10 * 16 + n % 10)

theorem bcdValue_eq {b : UInt8} (h : IsBcd b) : bcdValue b = b.toNat / 16 * 10 + b.toNat % 16 := by
  have hlow : (b &&& (0x0f : UInt8)).toNat = b.toNat % 16 := toNat_and_mask b 4 rfl
  have hhigh : (b >>> (4 : UInt8)).toNat = b.toNat / 16 := by
    rw [UInt8.toNat_shiftRight]
    exact Nat.shiftRight_eq_div_pow b.toNat 4
  have hmul : (b >>> (4 : UInt8) * 10).toNat = b.toNat / 16 * 10 % 256 := by
    rw [UInt8.toNat_mul, hhigh]
    rfl
  obtain ⟨h₁, h₂⟩ := h
  rw [bcdValue, UInt8.toNat_add, hlow, hmul]
  omega

theorem bcdByte_bcdValue {b : UInt8} (h : IsBcd b) : bcdByte (bcdValue b) = b := by
  have hvalue := bcdValue_eq h
  obtain ⟨h₁, h₂⟩ := h
  have hdigits : bcdValue b / 10 * 16 + bcdValue b % 10 = b.toNat := by omega
  rw [bcdByte, hdigits, UInt8.ofNat_toNat]

theorem map_bcdByte_bcdValue {bytes : List UInt8} (h : ∀ b ∈ bytes, IsBcd b) :
    (bytes.map bcdValue).map bcdByte = bytes := by
  rw [List.map_map]
  exact (List.map_congr_left fun b hb => bcdByte_bcdValue (h b hb)).trans (List.map_id bytes)

/-- The version is the values of the non-zero bytes, joined by dots. -/
theorem bcdVersion_eq_dotted (bytes : List UInt8) :
    bcdVersion bytes = if bytes.filter (· ≠ 0) = [] then none
      else some (dotted ((bytes.filter (· ≠ 0)).map bcdValue)) := by
  have hall : bytes.all (· == 0) ↔ bytes.filter (· ≠ 0) = [] := by
    rw [List.filter_eq_nil_iff]
    simp
  simp only [bcdVersion, hall, dotted, List.map_map]
  rfl

theorem bcdVersion_eq_bcdVersion_iff {xs ys : List UInt8} (hx : ∀ b ∈ xs, IsBcd b)
    (hy : ∀ b ∈ ys, IsBcd b) :
    bcdVersion xs = bcdVersion ys ↔ xs.filter (· ≠ 0) = ys.filter (· ≠ 0) := by
  constructor
  · intro h
    rw [bcdVersion_eq_dotted, bcdVersion_eq_dotted] at h
    split_ifs at h with hxs hys hys
    · rw [hxs, hys]
    · have hvalues := dotted_injective (Option.some.inj h)
      rw [← map_bcdByte_bcdValue fun b hb => hx b (List.mem_of_mem_filter hb), hvalues,
        map_bcdByte_bcdValue fun b hb => hy b (List.mem_of_mem_filter hb)]
  · intro h
    rw [bcdVersion_eq_dotted, bcdVersion_eq_dotted, h]

theorem exists_bcdVersion_iff {xs ys : List UInt8} (hx : ∀ b ∈ xs, IsBcd b)
    (hy : ∀ b ∈ ys, IsBcd b) :
    (∃ version, bcdVersion xs = some version ∧ bcdVersion ys = some version) ↔
      (∃ b ∈ xs, b ≠ 0) ∧ xs.filter (· ≠ 0) = ys.filter (· ≠ 0) := by
  rw [← bcdVersion_isSome_iff, ← bcdVersion_eq_bcdVersion_iff hx hy, Option.isSome_iff_exists]
  constructor
  · rintro ⟨version, hxs, hys⟩
    exact ⟨⟨version, hxs⟩, hxs.trans hys.symm⟩
  · rintro ⟨⟨version, hxs⟩, h⟩
    exact ⟨version, hxs, h ▸ hxs⟩

/-- Two lists of bytes give the same version. -/
def SameVersion (xs ys : List UInt8) (littleEndian : Bool) : Prop :=
  ∃ version, decodeBcdVersion xs littleEndian = .ok version ∧
    decodeBcdVersion ys littleEndian = .ok version

theorem sameVersion_iff {xs ys : List UInt8} (hx : ∀ b ∈ xs, IsBcd b) (hy : ∀ b ∈ ys, IsBcd b)
    (littleEndian : Bool) :
    SameVersion xs ys littleEndian ↔
      (∃ b ∈ xs, b ≠ 0) ∧ xs.filter (· ≠ 0) = ys.filter (· ≠ 0) := by
  simp only [SameVersion, ← toOption_eq_some_iff, toOption_decodeBcdVersion]
  cases littleEndian with
  | false => exact exists_bcdVersion_iff hx hy
  | true =>
    have hxr : ∀ b ∈ xs.reverse, IsBcd b := by simpa using hx
    have hyr : ∀ b ∈ ys.reverse, IsBcd b := by simpa using hy
    simpa only [if_true, List.mem_reverse, List.filter_reverse, List.reverse_inj] using
      exists_bcdVersion_iff hxr hyr

/-- Lists with the same non-zero bytes and with their zeros at the same places. -/
theorem eq_of_filter_ne_zero : ∀ {xs ys : List UInt8},
    xs.filter (· ≠ 0) = ys.filter (· ≠ 0) → xs.map (· == 0) = ys.map (· == 0) → xs = ys
  | [], [], _, _ => rfl
  | [], _ :: _, _, h => by simp at h
  | _ :: _, [], _, h => by simp at h
  | x :: xs, y :: ys, hfilter, hzeros => by
    obtain ⟨hhead, htail⟩ := List.cons.inj hzeros
    by_cases hx : x = 0
    · have hy : y = 0 := by simpa [hx] using hhead
      subst hx hy
      exact congrArg (0 :: ·) (eq_of_filter_ne_zero hfilter htail)
    · have hy : y ≠ 0 := by simpa [hx] using hhead
      rw [List.filter_cons_of_pos (by simpa using hx), List.filter_cons_of_pos (by simpa using hy),
        List.cons.injEq] at hfilter
      rw [hfilter.1, eq_of_filter_ne_zero hfilter.2 htail]

/-- **Versions that are the same**: in either byte order, valid BCD bytes give the same version
exactly when the non-zero bytes are the same, and there are any. They are then the same bytes if in
addition the zeros are at the same places. -/
theorem sameVersion_iff_filter_eq {xs ys : List UInt8} (hx : ∀ b ∈ xs, IsBcd b)
    (hy : ∀ b ∈ ys, IsBcd b) (littleEndian : Bool) :
    (SameVersion xs ys littleEndian ↔
        (∃ b ∈ xs, b ≠ 0) ∧ xs.filter (· ≠ 0) = ys.filter (· ≠ 0)) ∧
      (SameVersion xs ys littleEndian → xs.map (· == 0) = ys.map (· == 0) → xs = ys) := by
  have h := sameVersion_iff hx hy littleEndian
  exact ⟨h, fun hsame => eq_of_filter_ne_zero (h.1 hsame).2⟩

theorem isBcd_pair {a b : UInt8} (ha : IsBcd a) (hb : IsBcd b) : ∀ c ∈ [a, b], IsBcd c :=
  List.forall_mem_cons.2 ⟨ha, List.forall_mem_singleton.2 hb⟩

/-- The versions 1.32 and 1.33. -/
theorem not_sameVersion_133 : ¬SameVersion [0x01, 0x32] [0x01, 0x33] false := by
  have hx : ∀ b ∈ [0x01, 0x32], IsBcd b := isBcd_pair (by decide) (by decide)
  have hy : ∀ b ∈ [0x01, 0x33], IsBcd b := isBcd_pair (by decide) (by decide)
  intro hsame
  exact absurd ((sameVersion_iff_filter_eq hx hy false).1.1 hsame).2 (by decide)

/-- The versions 1.0 and 0.1. -/
theorem not_eq_of_sameVersion :
    ¬∀ (xs ys : List UInt8) (littleEndian : Bool), xs.length = ys.length →
      (∀ b ∈ xs, IsBcd b) → (∀ b ∈ ys, IsBcd b) → (∃ b ∈ xs, b ≠ 0) → (∃ b ∈ ys, b ≠ 0) →
        SameVersion xs ys littleEndian → xs = ys := by
  intro h
  have hx : ∀ b ∈ [1, 0], IsBcd b := isBcd_pair (by decide) (by decide)
  have hy : ∀ b ∈ [0, 1], IsBcd b := isBcd_pair (by decide) (by decide)
  have hsame := (sameVersion_iff hx hy false).2 ⟨⟨1, by decide, by decide⟩, rfl⟩
  exact absurd (h [1, 0] [0, 1] false rfl hx hy ⟨1, by decide, by decide⟩ ⟨1, by decide, by decide⟩
    hsame) (by decide)

end TrainPP
