import TrainPP.Foundations.Bits
import TrainPP.Protocol.Decoders
import TrainPP.Protocol.Parsing

/-!
# Requests to drive a loco and to set a binary state

Two encoders put two values into neighbouring bits of a body.

* `LanXSetLocoDrive.echo_iff`: the direction and the speed share a byte by an addition, so that a
  loco info that repeats the body of a drive request shows the requested direction exactly when the
  speed is below 128;
* `LanXSetLocoBinaryState.carries_pack_iff`: the address of the binary state is not packed, but the
  loco address once more, so that the body carries the binary address exactly when the two are
  equal.
-/

namespace TrainPP

open Checked Words Bits

/-! ## Driving -/

/-- The body of a loco info that repeats the address, the speed and the direction in the body of a
drive request. -/
def LanXSetLocoDrive.echo (body : List UInt8) (db2 : UInt8) (functions : List UInt8) : List UInt8 :=
  0xef :: body.getD 2 0 :: body.getD 3 0 :: db2 :: body.getD 4 0 :: functions

/-- Masking the high byte of a loco address again changes nothing. -/
theorem be16_locoAddress_masked {address : UInt16} (ha : LocoAddress address) :
    be16 (((address >>> 8) &&& 0x3f).toUInt8 &&& 0x3f : UInt8) (address &&& 0xff).toUInt8 =
      address := by
  have hmask : (((address >>> 8) &&& 0x3f).toUInt8 &&& 0x3f : UInt8) =
      ((address >>> 8) &&& 0x3f).toUInt8 := by
    apply UInt8.toNat_inj.1
    rw [toNat_and_mask _ 6 rfl, toNat_high_and_mask address 6 (by decide) rfl, Nat.mod_mod]
  rw [hmask, be16_locoAddress ha]

/-- The byte of a drive request, for a speed of eight bits: the carry is lost. -/
theorem toNat_drive (speed : UInt8) (forward : Bool) :
    (speed + if forward then 0x80 else 0).toNat =
      (speed.toNat + if forward then 128 else 0) % 256 := by
  rw [UInt8.toNat_add]
  cases forward <;> rfl

theorem flag_drive_iff (speed : UInt8) (forward : Bool) :
    flag (speed + if forward then 0x80 else 0) 0x80 = forward ↔ speed.toNat < 128 := by
  have hlt := speed.toNat_lt
  rw [flag_high, toNat_drive]
  cases forward with
  | false =>
    rw [decide_eq_false_iff_not, if_neg (by decide)]
    omega
  | true =>
    rw [decide_eq_true_iff, if_pos rfl]
    omega

/-- **Driving**: read as the client reads a loco info, the body of a drive request shows the
requested address and direction, and the requested speed if it has seven bits, exactly when the
speed has seven bits. A higher speed shows the opposite direction. -/
theorem LanXSetLocoDrive.echo_iff {address : UInt16} (ha : LocoAddress address) (speed : UInt8)
    (forward : Bool) (self : LanXLocoInfo) (db2 : UInt8) {functions : List UInt8}
    (hf : 4 ≤ functions.length) :
    ∃ info, self.unpack (echo (pack address speed forward) db2 functions) = .ok info ∧
      ((info.address = address ∧ info.directionForward = forward ∧
        (speed.toNat < 128 → info.speed = speed)) ↔ speed.toNat < 128) := by
  match functions, hf with
  | db4 :: db5 :: db6 :: db7 :: rest, _ =>
    have hunpack := self.toOption_unpack
      (echo (pack address speed forward) db2 (db4 :: db5 :: db6 :: db7 :: rest))
    refine ⟨_, toOption_eq_some_iff.1 hunpack, ?_⟩
    constructor
    · rintro ⟨-, hdirection, -⟩
      exact (flag_drive_iff speed forward).1 hdirection
    · intro hspeed
      refine ⟨be16_locoAddress_masked ha, (flag_drive_iff speed forward).2 hspeed, fun _ => ?_⟩
      exact (drive_byte hspeed forward).1

/-- The loco 3 is to go forward at the speed 5. -/
theorem LanXSetLocoDrive.echo_speed5 :
    ∃ info, (Z21.fresh ⟨0, 0, .unknown⟩).commandHandlers.lanX.locoInfo.unpack
        (echo (pack 3 5 true) 4 [0, 0, 0, 0, 0]) = .ok info ∧
      ((info.address = 3 ∧ info.directionForward = true ∧
        ((5 : UInt8).toNat < 128 → info.speed = 5)) ↔ (5 : UInt8).toNat < 128) :=
  LanXSetLocoDrive.echo_iff (by decide) 5 true _ 4 (by decide)

/-- The loco 3 is to go forward at the speed 200. -/
theorem LanXSetLocoDrive.not_forward_speed200 :
    ¬∃ info, (Z21.fresh ⟨0, 0, .unknown⟩).commandHandlers.lanX.locoInfo.unpack
        (echo (pack 3 200 true) 4 [0, 0, 0, 0, 0]) = .ok info ∧ info.directionForward = true := by
  rintro ⟨info, hinfo, hforward⟩
  cases hinfo
  exact absurd hforward (by decide)

/-! ## Setting a binary state -/

namespace LanXSetLocoBinaryState

/-- The body carries the loco address in the bytes 2 and 3, the flag in the highest bit of the byte
4, and the binary address in the other bits of the byte 4 and in the byte 5. -/
structure Carries (body : List UInt8) (address : UInt16) (on : Bool) (binaryAddress : UInt8) :
    Prop where
  address_eq : be16 (body.getD 2 0) (body.getD 3 0) = address
  on_eq : flag (body.getD 4 0) 0x80 = on
  low_eq : (body.getD 4 0 &&& 0x7f : UInt8) = binaryAddress &&& 0x7f
  high_eq : body.getD 5 0 = binaryAddress >>> 7

variable {address : UInt16} {on : Bool}

/-- The byte 4 of the body. -/
theorem toNat_db2 (address : UInt16) (on : Bool) :
    ((if on then 0x80 else 0) + (address &&& 0x7f).toUInt8 : UInt8).toNat =
      (if on then 128 else 0) + address.toNat % 128 := by
  have hlow : (address &&& 0x7f).toUInt8.toNat = address.toNat % 128 := by
    rw [UInt16.toNat_toUInt8, toNat_and_mask16 _ 7 rfl]
    omega
  rw [UInt8.toNat_add, hlow]
  cases on with
  | false =>
    change (0 + address.toNat % 128) % 256 = 0 + address.toNat % 128
    omega
  | true =>
    change (128 + address.toNat % 128) % 256 = 128 + address.toNat % 128
    omega

/-- The byte 5 of the body. -/
theorem toNat_db3 (ha : LocoAddress address) :
    ((address >>> 7) &&& 0xff).toUInt8.toNat = address.toNat / 128 := by
  rw [LocoAddress] at ha
  rw [and_255_toUInt8, UInt16.toNat_toUInt8, UInt16.toNat_shiftRight, Nat.shiftRight_eq_div_pow]
  change address.toNat / 2 ^ 7 % 2 ^ 8 = _
  omega

theorem flag_db2 (address : UInt16) (on : Bool) :
    flag ((if on then 0x80 else 0) + (address &&& 0x7f).toUInt8) 0x80 = on := by
  rw [flag_high, toNat_db2]
  cases on with
  | false =>
    rw [decide_eq_false_iff_not, if_neg (by decide)]
    omega
  | true =>
    rw [decide_eq_true_iff, if_pos rfl]
    omega

theorem low_db2_iff {binaryAddress : UInt8} :
    (((if on then 0x80 else 0) + (address &&& 0x7f).toUInt8) &&& 0x7f : UInt8) =
        binaryAddress &&& 0x7f ↔ address.toNat % 128 = binaryAddress.toNat % 128 := by
  rw [← UInt8.toNat_inj, toNat_and_mask _ 7 rfl, toNat_and_mask _ 7 rfl, toNat_db2]
  cases on with
  | false =>
    rw [if_neg (by decide)]
    omega
  | true =>
    rw [if_pos rfl]
    omega

theorem high_db3_iff (ha : LocoAddress address) {binaryAddress : UInt8} :
    ((address >>> 7) &&& 0xff).toUInt8 = binaryAddress >>> 7 ↔
      address.toNat / 128 = binaryAddress.toNat / 128 := by
  rw [← UInt8.toNat_inj, toNat_db3 ha, UInt8.toNat_shiftRight, Nat.shiftRight_eq_div_pow]
  rfl

theorem carries_iff (ha : LocoAddress address) (on : Bool) (binaryAddress : UInt8) :
    Carries (pack address on binaryAddress) address on binaryAddress ↔
      binaryAddress.toNat = address.toNat := by
  constructor
  · intro h
    have hlow := low_db2_iff.1 h.low_eq
    have hhigh := (high_db3_iff ha).1 h.high_eq
    omega
  · intro h
    exact ⟨be16_locoAddress ha, flag_db2 address on, low_db2_iff.2 (by rw [h]),
      (high_db3_iff ha).2 (by rw [h])⟩

/-- The binary address makes no difference to the body. -/
theorem pack_eq_pack_iff (ha : LocoAddress address) {address' : UInt16}
    (ha' : LocoAddress address') {on' : Bool} {binaryAddress binaryAddress' : UInt8} :
    pack address on binaryAddress = pack address' on' binaryAddress' ↔
      address = address' ∧ on = on' := by
  constructor
  · intro h
    have hget : ∀ i, (pack address on binaryAddress).getD i 0 =
        (pack address' on' binaryAddress').getD i 0 := fun i => by rw [h]
    have haddress := congrArg₂ be16 (hget 2) (hget 3)
    have hon := congrArg (flag · 0x80) (hget 4)
    exact ⟨(be16_locoAddress ha).symm.trans (haddress.trans (be16_locoAddress ha')),
      (flag_db2 address on).symm.trans (hon.trans (flag_db2 address' on'))⟩
  · rintro ⟨rfl, rfl⟩
    rfl

/-- **Binary states**: the body of a request carries the loco address and the flag, and it carries
the binary address exactly when that is the loco address. Two different requests have different
bodies exactly when they differ in the loco address or in the flag. -/
theorem carries_pack_iff (ha : LocoAddress address) (on : Bool) (binaryAddress : UInt8) :
    (Carries (pack address on binaryAddress) address on binaryAddress ↔
        binaryAddress.toNat = address.toNat) ∧
      ∀ {address' : UInt16}, LocoAddress address' → ∀ (on' : Bool) (binaryAddress' : UInt8),
        (pack address on binaryAddress ≠ pack address' on' binaryAddress' ↔
          address ≠ address' ∨ on ≠ on') := by
  refine ⟨carries_iff ha on binaryAddress, fun ha' on' binaryAddress' => ?_⟩
  rw [Ne, pack_eq_pack_iff ha ha', not_and_or]

theorem carries_pack_loco5 :
    Carries (pack 5 true 5) 5 true 5 ∧ pack 5 true 5 ≠ pack 6 true 5 := by
  have ha : LocoAddress 5 := by decide
  have ha' : LocoAddress 6 := by decide
  obtain ⟨hcarries, hne⟩ := carries_pack_iff ha true 5
  exact ⟨hcarries.2 rfl, (hne ha' true 5).2 (.inl (by decide))⟩

/-- The binary states 5 and 6 of the loco 3. -/
theorem not_carries_loco3 :
    ¬Carries (pack 3 true 5) 3 true 5 ∧ pack 3 true 5 = pack 3 true 6 := by
  refine ⟨fun h => ?_, rfl⟩
  exact absurd h.low_eq (by decide)

end LanXSetLocoBinaryState

end TrainPP
