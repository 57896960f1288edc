import TrainPP.Protocol.Parsing

/-!
# What a datagram tells of a request

The encoders check few of their arguments. A loco address is cut to 14 bits and a CV on the main
track to 10 bits, a speed above 127 turns the direction around, the fields of an accessory run into
each other, and a register or a function group out of range leaves an empty body. So many requests
share a datagram, the same over the whole range of the arguments.

`Request.wireForm` is the request that a datagram tells, if it tells one: it has the same datagram
(`Request.pack_wireForm`), the datagram tells all its arguments (`Request.told_of_wireForm`), and it
can be read off the datagram (`Request.read_pack`).

* `Request.pack_eq_iff_wireForm_eq`: two requests, with any arguments, have the same datagram
  exactly when they have the same wire form.
-/

namespace TrainPP

open Words

/-! ## The wire form -/

/-- The last byte of a drive request. -/
def driveByte (speed : UInt8) (forward : Bool) : UInt8 := speed + if forward then 0x80 else 0

/-- The low byte of an accessory. -/
def accessoryLow (address : UInt16) (selection : PomAccessorySelection) (output : UInt8) : UInt8 :=
  ((address &&& 0x0f) <<< 4).toUInt8 + UInt8.ofNat selection + (output &&& (0x07 : UInt8))

/-- The CV that a request to program on the main track reaches. -/
def wireCv (cv : UInt16) : UInt16 := ((cv - 1) &&& 0x3ff) + 1

/-- The bit that a request to write a bit tells. -/
def wireBit (value : UInt8) : UInt8 := if value ≠ 0 then 1 else 0

/-- The address of an accessory: a sum in the low byte may carry into it. -/
def wireAccessory (address : UInt16) (selection : PomAccessorySelection) (output : UInt8) :
    UInt16 :=
  accessoryAddress ((address &&& 0x1ff) >>> 4).toUInt8 (accessoryLow address selection output)

/-- The request that the datagram of a request tells, or nothing if its body is empty. -/
def Request.wireForm : Request → Option Request
  | lanXMmWriteByte register value =>
    if register ≤ 78 then some (lanXMmWriteByte register value) else none
  | lanXGetLocoInfo address => some (lanXGetLocoInfo (address &&& 0x3fff))
  | lanXSetLocoDrive address speed forward =>
    some (lanXSetLocoDrive (address &&& 0x3fff) (driveByte speed forward &&& 0x7f)
      (0x80 ≤ driveByte speed forward))
  | lanXSetLocoFunction address function =>
    some (lanXSetLocoFunction (address &&& 0x3fff) function)
  | lanXSetLocoFunctionGroup address group functions =>
    if FunctionGroup.enumerators.contains group then
      some (lanXSetLocoFunctionGroup (address &&& 0x3fff) group functions)
    else none
  | lanXSetLocoBinaryState address on _ =>
    some (lanXSetLocoBinaryState (address &&& 0x7fff) on 0)
  | lanXCvPomWriteByte address cv value =>
    some (lanXCvPomWriteByte (address &&& 0x3fff) (wireCv cv) value)
  | lanXCvPomWriteBit address cv bitPosition value =>
    some (lanXCvPomWriteBit (address &&& 0x3fff) (wireCv cv) (bitPosition &&& 0x07)
      (wireBit value))
  | lanXCvPomReadByte address cv => some (lanXCvPomReadByte (address &&& 0x3fff) (wireCv cv))
  | lanXCvPomAccessoryWriteByte address selection output cv value =>
    let low := accessoryLow address selection output
    some (lanXCvPomAccessoryWriteByte (wireAccessory address selection output)
      (accessorySelection low) (low &&& 0x07) (wireCv cv) value)
  | lanXCvPomAccessoryWriteBit address selection output cv bitPosition value =>
    let low := accessoryLow address selection output
    some (lanXCvPomAccessoryWriteBit (wireAccessory address selection output)
      (accessorySelection low) (low &&& 0x07) (wireCv cv) (bitPosition &&& 0x07) (wireBit value))
  | lanXCvPomAccessoryReadByte address selection output cv =>
    let low := accessoryLow address selection output
    some (lanXCvPomAccessoryReadByte (wireAccessory address selection output)
      (accessorySelection low) (low &&& 0x07) (wireCv cv))
  | r => some r

/-- A request of which the datagram tells every argument. For a binary state these are 15 bits of
the address and the state. -/
def Request.Told (r : Request) : Prop :=
  r.InRange ∨ ∃ address on, address.toNat < 2 ^ 15 ∧ r = .lanXSetLocoBinaryState address on 0

/-- A request to set a binary state, as far as its body tells it. -/
def Dataset.parseBinaryState (d : Dataset) : Option Request :=
  match d.id, d.data with
  | 0x40, [0xe5, 0x5f, hi, lo, b₄, b₅, _] =>
    some (.lanXSetLocoBinaryState (be16 (hi + ((b₅ >>> 7) <<< 6)) lo) (0x80 ≤ b₄) 0)
  | _, _ => none

/-- The request of a datagram, binary states included. -/
def Request.read (datagram : List UInt8) : Option Request :=
  (Request.parse datagram).or (Dataset.ofFrame datagram).parseBinaryState

/-! ## The fields of the wire form -/

section Masks

variable (a : UInt16) {mask low : UInt16} (k : ℕ)

/-- The low byte of a word of which the `k + 8` lowest bits are kept. -/
theorem and_mask_toUInt8 (h : mask.toNat = 2 ^ (k + 8) - 1) : (a &&& mask).toUInt8 = a.toUInt8 := by
  apply UInt8.toNat_inj.1
  rw [UInt16.toNat_toUInt8, UInt16.toNat_toUInt8, toNat_and_mask16 a (k + 8) h]
  exact Nat.mod_mod_of_dvd _ (Nat.pow_dvd_pow 2 (Nat.le_add_left 8 k))

/-- The high byte, cut to `k` bits, of a word of which the `k + 8` lowest bits are kept. -/
theorem and_mask_high (hk : k ≤ 8) (hlow : low.toNat = 2 ^ k - 1)
    (h : mask.toNat = 2 ^ (k + 8) - 1) :
    (((a &&& mask) >>> 8) &&& low).toUInt8 = ((a >>> 8) &&& low).toUInt8 := by
  apply UInt8.toNat_inj.1
  rw [toNat_high_and_mask _ k hk hlow, toNat_high_and_mask _ k hk hlow,
    toNat_and_mask16 a (k + 8) h, Nat.add_comm k 8, Nat.pow_add]
  exact (congrArg (· % 2 ^ k) (Nat.mod_mul_right_div_self ..)).trans (Nat.mod_mod _ _)

end Masks

theorem locoAddress_and_mask (address : UInt16) : LocoAddress (address &&& 0x3fff) := by
  rw [LocoAddress, toNat_and_mask16 address 14 rfl]
  exact Nat.mod_lt _ (Nat.two_pow_pos 14)

theorem locoAddressBytes_and_mask (address : UInt16) :
    locoAddressBytes (address &&& 0x3fff) = locoAddressBytes address := by
  rw [locoAddressBytes, and_mask_high address 6 (by decide) rfl rfl, and_255_toUInt8,
    and_mask_toUInt8 address 6 rfl, locoAddressBytes, and_255_toUInt8]

theorem wireCv_sub_one (cv : UInt16) : wireCv cv - 1 = (cv - 1) &&& 0x3ff := by
  rw [wireCv, UInt16.add_sub_cancel]

theorem pomCv_wireCv (cv : UInt16) : PomCv (wireCv cv) := by
  have hmask : ((cv - 1) &&& 0x3ff).toNat = (cv - 1).toNat % 2 ^ 10 := toNat_and_mask16 _ 10 rfl
  have hcv : (wireCv cv).toNat = (cv - 1).toNat % 2 ^ 10 + 1 := by
    rw [wireCv, UInt16.toNat_add, hmask]
    change (_ + 1) % 2 ^ 16 = _
    omega
  rw [PomCv, hcv]
  omega

theorem pomCvBytes_wireCv (option : UInt8) (cv : UInt16) :
    pomCvBytes option (wireCv cv) = pomCvBytes option cv := by
  simp only [pomCvBytes, wireCv_sub_one, and_255_toUInt8]
  rw [and_mask_high (cv - 1) 2 (by decide) rfl rfl, and_mask_toUInt8 (cv - 1) 2 rfl]

theorem pomBit_wireBit (bitPosition value : UInt8) :
    PomBit (bitPosition &&& 0x07) (wireBit value) := by
  refine ⟨?_, ?_⟩
  · rw [toNat_and_mask bitPosition 3 rfl]
    exact Nat.mod_lt _ (Nat.two_pow_pos 3)
  · rw [wireBit]
    split_ifs <;> decide

theorem pomBitByte_wireBit (bitPosition value : UInt8) :
    pomBitByte (bitPosition &&& 0x07) (wireBit value) = pomBitByte bitPosition value := by
  have hmask : (bitPosition &&& 0x07 &&& 0x07 : UInt8) = bitPosition &&& 0x07 := by
    rw [UInt8.and_assoc]
    rfl
  have hflag : wireBit value ≠ 0 ↔ value ≠ 0 := by
    rw [wireBit]
    by_cases h : value = 0
    · simp [h]
    · rw [if_pos h]
      exact iff_of_true (by decide) h
  rw [pomBitByte, pomBitByte, hmask, if_congr hflag rfl rfl]

/-- The direction and the speed take the whole byte. -/
theorem driveByte_wire (b : UInt8) : driveByte (b &&& 0x7f) (0x80 ≤ b) = b := by
  have hmask : (b &&& 0x7f : UInt8).toNat = b.toNat % 128 := toNat_and_mask b 7 rfl
  have hle : (0x80 : UInt8) ≤ b ↔ 128 ≤ b.toNat := UInt8.le_iff_toNat_le
  have hb := b.toNat_lt
  apply UInt8.toNat_inj.1
  rw [driveByte, UInt8.toNat_add, hmask]
  by_cases h : (0x80 : UInt8) ≤ b
  · have hge := hle.1 h
    rw [decide_eq_true h, if_pos rfl]
    change (_ + 128) % 2 ^ 8 = _
    omega
  · have hlt := mt hle.2 h
    rw [decide_eq_false h, if_neg Bool.false_ne_true]
    change (_ + 0) % 2 ^ 8 = _
    omega

theorem speed_wire_lt (b : UInt8) : (b &&& 0x7f : UInt8).toNat < 128 := by
  rw [toNat_and_mask b 7 rfl]
  exact Nat.mod_lt _ (Nat.two_pow_pos 7)

section Accessory

variable (address : UInt16) (selection : PomAccessorySelection) (output : UInt8)

theorem toNat_wireAccessory :
    (wireAccessory address selection output).toNat =
      16 * (address.toNat % 512 / 16) + (accessoryLow address selection output).toNat / 16 := by
  have hlow := (accessoryLow address selection output).toNat_lt
  have hhigh : ((address &&& 0x1ff) >>> 4).toUInt8.toNat = address.toNat % 512 / 16 := by
    rw [UInt16.toNat_toUInt8, UInt16.toNat_shiftRight, toNat_and_mask16 _ 9 rfl,
      Nat.shiftRight_eq_div_pow]
    change _ / 2 ^ 4 % 2 ^ 8 = _
    omega
  rw [wireAccessory, accessoryAddress, UInt16.toNat_shiftRight, toNat_be16, hhigh,
    Nat.shiftRight_eq_div_pow]
  change _ / 2 ^ 4 = _
  omega

/-- The selection of a low byte is its bit 3. -/
theorem accessorySelection_cases (low : UInt8) :
    accessorySelection low = .wholeDecoder ∧ low.toNat % 16 < 8 ∨
      accessorySelection low = .specificOutput ∧ 8 ≤ low.toNat % 16 := by
  have hmask : (low &&& 0x0f : UInt8).toNat = low.toNat % 16 := toNat_and_mask low 4 rfl
  rw [accessorySelection]
  by_cases h : (low &&& 0x0f : UInt8) < 8
  · exact .inl ⟨if_pos h, hmask ▸ UInt8.lt_iff_toNat_lt.1 h⟩
  · exact .inr ⟨if_neg h, hmask ▸ Nat.not_lt.1 fun hlt => h (UInt8.lt_iff_toNat_lt.2 hlt)⟩

theorem pomAccessory_wire :
    PomAccessory (wireAccessory address selection output)
      (accessorySelection (accessoryLow address selection output))
      (accessoryLow address selection output &&& 0x07) := by
  have hlow := (accessoryLow address selection output).toNat_lt
  refine ⟨?_, ?_, ?_⟩
  · rw [toNat_wireAccessory]
    omega
  · obtain h | h := accessorySelection_cases (accessoryLow address selection output)
    · exact .inl h.1
    · exact .inr h.1
  · rw [toNat_and_mask _ 3 rfl]
    exact Nat.mod_lt _ (Nat.two_pow_pos 3)

theorem pomAccessoryBytes_wire :
    pomAccessoryBytes (wireAccessory address selection output)
        (accessorySelection (accessoryLow address selection output))
        (accessoryLow address selection output &&& 0x07) =
      pomAccessoryBytes address selection output := by
  have h := pomAccessory_wire address selection output
  have haddress := toNat_wireAccessory address selection output
  have hlow := (accessoryLow address selection output).toNat_lt
  have hhigh : ((address &&& 0x1ff) >>> 4).toUInt8.toNat = address.toNat % 512 / 16 := by
    rw [UInt16.toNat_toUInt8, UInt16.toNat_shiftRight, toNat_and_mask16 _ 9 rfl,
      Nat.shiftRight_eq_div_pow]
    change _ / 2 ^ 4 % 2 ^ 8 = _
    omega
  have houtput : (accessoryLow address selection output &&& 0x07 : UInt8).toNat =
      (accessoryLow address selection output).toNat % 8 := toNat_and_mask _ 3 rfl
  refine congrArg₂ (fun hi lo => [hi, lo]) ?_ ?_
  · apply UInt8.toNat_inj.1
    rw [toNat_accessoryHigh h, haddress, hhigh]
    omega
  · apply UInt8.toNat_inj.1
    refine (toNat_accessoryLow h).trans ?_
    change _ = (accessoryLow address selection output).toNat
    rw [haddress, houtput]
    obtain ⟨hs, hlt⟩ | ⟨hs, hle⟩ :=
      accessorySelection_cases (accessoryLow address selection output) <;> rw [hs]
    · change _ + 0 + _ = _
      omega
    · change _ + 8 + _ = _
      omega

end Accessory

/-! ## The binary state -/

/-- The last byte tells the bits 7 to 14 of the address, of which it shares seven with the high
byte of the loco address. -/
theorem LanXSetLocoBinaryState.pack_and_mask (address : UInt16) (on : Bool)
    (binaryAddress binaryAddress' : UInt8) :
    LanXSetLocoBinaryState.pack (address &&& 0x7fff) on binaryAddress =
      LanXSetLocoBinaryState.pack address on binaryAddress' := by
  have haddress : (address &&& 0x7fff).toNat = address.toNat % 2 ^ 15 :=
    toNat_and_mask16 address 15 rfl
  have hbytes : locoAddressBytes (address &&& 0x7fff) = locoAddressBytes address := by
    refine congrArg₂ (fun hi lo => [hi, lo]) ?_ ?_
    · apply UInt8.toNat_inj.1
      rw [toNat_high_and_mask _ 6 (by decide) rfl, toNat_high_and_mask _ 6 (by decide) rfl,
        haddress]
      omega
    · rw [and_255_toUInt8, and_255_toUInt8, and_mask_toUInt8 address 7 rfl]
  have hlow : ((address &&& 0x7fff) &&& 0x7f).toUInt8 = (address &&& 0x7f).toUInt8 := by
    rw [UInt16.and_assoc]
    rfl
  have hhigh : (((address &&& 0x7fff) >>> 7) &&& 0xff).toUInt8 =
      ((address >>> 7) &&& 0xff).toUInt8 := by
    apply UInt8.toNat_inj.1
    rw [and_255_toUInt8, and_255_toUInt8, UInt16.toNat_toUInt8, UInt16.toNat_toUInt8,
      UInt16.toNat_shiftRight, UInt16.toNat_shiftRight, haddress, Nat.shiftRight_eq_div_pow,
      Nat.shiftRight_eq_div_pow]
    change _ / 2 ^ 7 % 2 ^ 8 = _ / 2 ^ 7 % 2 ^ 8
    omega
  rw [LanXSetLocoBinaryState.pack, LanXSetLocoBinaryState.pack, hbytes, hlow, hhigh]

/-- The bytes of a binary state tell 15 bits of the address. -/
theorem be16_binaryAddress {address : UInt16} (h : address.toNat < 2 ^ 15) :
    be16 (((address >>> 8) &&& 0x3f).toUInt8 + ((((address >>> 7) &&& 0xff).toUInt8 >>> 7) <<< 6))
      (address &&& 0xff).toUInt8 = address := by
  have hlast : ((address >>> 7) &&& 0xff).toUInt8.toNat = address.toNat / 128 := by
    rw [and_255_toUInt8, UInt16.toNat_toUInt8, UInt16.toNat_shiftRight,
      Nat.shiftRight_eq_div_pow]
    change _ / 2 ^ 7 % 2 ^ 8 = _
    omega
  have hbit : ((((address >>> 7) &&& 0xff).toUInt8 >>> 7) <<< 6).toNat =
      64 * (address.toNat / 2 ^ 14) := by
    rw [UInt8.toNat_shiftLeft, UInt8.toNat_shiftRight, hlast, Nat.shiftRight_eq_div_pow,
      Nat.shiftLeft_eq]
    change _ / 2 ^ 7 * 2 ^ 6 % 2 ^ 8 = _
    omega
  apply UInt16.toNat_inj.1
  rw [toNat_be16, UInt8.toNat_add, toNat_high_and_mask _ 6 (by decide) rfl, hbit, and_255_toUInt8,
    UInt16.toNat_toUInt8]
  omega

/-- The byte behind the loco address tells the state. -/
theorem decide_binaryState (address : UInt16) (on : Bool) :
    decide (0x80 ≤ (if on then 0x80 else 0) + (address &&& 0x7f).toUInt8) = on := by
  have hlow : (address &&& 0x7f).toUInt8.toNat = address.toNat % 128 := by
    rw [UInt16.toNat_toUInt8, toNat_and_mask16 address 7 rfl]
    omega
  cases on with
  | false =>
    rw [if_neg Bool.false_ne_true, UInt8.zero_add, decide_eq_false_iff_not, UInt8.le_iff_toNat_le,
      hlow]
    exact Nat.not_le.2 (Nat.mod_lt _ (Nat.two_pow_pos 7))
  | true =>
    rw [if_pos rfl, decide_eq_true_iff, UInt8.le_iff_toNat_le, UInt8.toNat_add, hlow]
    change 128 ≤ (128 + _) % 2 ^ 8
    omega

/-! ## Requests and their wire forms -/

/-- **The wire form has the same datagram.** -/
theorem Request.pack_wireForm (r : Request) :
    r.pack = r.wireForm.elim (LanX.pack []) Request.pack := by
  cases r with
  | lanXMmWriteByte register value =>
    by_cases h : register ≤ 78
    · rw [wireForm, if_pos h]
      rfl
    · rw [wireForm, if_neg h]
      exact congrArg LanX.pack (if_neg h)
  | lanXGetLocoInfo address =>
    change _ = LanX.pack (LanXGetLocoInfo.pack _)
    rw [LanXGetLocoInfo.pack, locoAddressBytes_and_mask]
    rfl
  | lanXSetLocoDrive address speed forward =>
    change _ = LanX.pack (LanXSetLocoDrive.pack _ _ _)
    rw [LanXSetLocoDrive.pack, locoAddressBytes_and_mask]
    refine congrArg (fun b => LanX.pack (appendChecksum
      (0xe4 :: 0x12 :: locoAddressBytes address ++ [b]))) ?_
    exact (driveByte_wire (driveByte speed forward)).symm
  | lanXSetLocoFunction address function =>
    change _ = LanX.pack (LanXSetLocoFunction.pack _ _)
    rw [LanXSetLocoFunction.pack, locoAddressBytes_and_mask]
    rfl
  | lanXSetLocoFunctionGroup address group functions =>
    by_cases h : group ∈ FunctionGroup.enumerators
    · rw [wireForm, if_pos (List.contains_iff_mem.mpr h)]
      change _ = LanX.pack (LanXSetLocoFunctionGroup.pack _ _ _)
      rw [LanXSetLocoFunctionGroup.pack, locoAddressBytes_and_mask]
      rfl
    · rw [wireForm, if_neg (mt List.contains_iff_mem.mp h)]
      exact congrArg LanX.pack (if_neg h)
  | lanXSetLocoBinaryState address on binaryAddress =>
    change _ = LanX.pack (LanXSetLocoBinaryState.pack _ _ _)
    rw [LanXSetLocoBinaryState.pack_and_mask]
    rfl
  | lanXCvPomWriteByte address cv value =>
    change _ = LanX.pack (LanXCvPomWriteByte.pack _ _ _)
    rw [LanXCvPomWriteByte.pack, locoAddressBytes_and_mask, pomCvBytes_wireCv]
    rfl
  | lanXCvPomWriteBit address cv bitPosition value =>
    change _ = LanX.pack (LanXCvPomWriteBit.pack _ _ _ _)
    rw [LanXCvPomWriteBit.pack, locoAddressBytes_and_mask, pomCvBytes_wireCv, pomBitByte_wireBit]
    rfl
  | lanXCvPomReadByte address cv =>
    change _ = LanX.pack (LanXCvPomReadByte.pack _ _)
    rw [LanXCvPomReadByte.pack, locoAddressBytes_and_mask, pomCvBytes_wireCv]
    rfl
  | lanXCvPomAccessoryWriteByte address selection output cv value =>
    change _ = LanX.pack (LanXCvPomAccessoryWriteByte.pack _ _ _ _ _)
    rw [LanXCvPomAccessoryWriteByte.pack, pomAccessoryBytes_wire, pomCvBytes_wireCv]
    rfl
  | lanXCvPomAccessoryWriteBit address selection output cv bitPosition value =>
    change _ = LanX.pack (LanXCvPomAccessoryWriteBit.pack _ _ _ _ _ _)
    rw [LanXCvPomAccessoryWriteBit.pack, pomAccessoryBytes_wire, pomCvBytes_wireCv,
      pomBitByte_wireBit]
    rfl
  | lanXCvPomAccessoryReadByte address selection output cv =>
    change _ = LanX.pack (LanXCvPomAccessoryReadByte.pack _ _ _ _)
    rw [LanXCvPomAccessoryReadByte.pack, pomAccessoryBytes_wire, pomCvBytes_wireCv]
    rfl
  | _ => rfl

/-- The datagram of a wire form tells all its arguments. -/
theorem Request.told_of_wireForm {r w : Request} (h : r.wireForm = some w) : w.Told := by
  cases r with
  | lanXMmWriteByte register value =>
    rw [wireForm] at h
    split_ifs at h with hregister
    cases h
    exact .inl hregister
  | lanXGetLocoInfo address =>
    cases h
    exact .inl (locoAddress_and_mask address)
  | lanXSetLocoDrive address speed forward =>
    cases h
    exact .inl ⟨locoAddress_and_mask address, speed_wire_lt _⟩
  | lanXSetLocoFunction address function =>
    cases h
    exact .inl (locoAddress_and_mask address)
  | lanXSetLocoFunctionGroup address group functions =>
    rw [wireForm] at h
    split_ifs at h with hgroup
    cases h
    exact .inl ⟨locoAddress_and_mask address, List.contains_iff_mem.mp hgroup⟩
  | lanXSetLocoBinaryState address on binaryAddress =>
    cases h
    refine .inr ⟨_, on, ?_, rfl⟩
    rw [toNat_and_mask16 address 15 rfl]
    exact Nat.mod_lt _ (Nat.two_pow_pos 15)
  | lanXCvPomWriteByte address cv value =>
    cases h
    exact .inl ⟨locoAddress_and_mask address, pomCv_wireCv cv⟩
  | lanXCvPomWriteBit address cv bitPosition value =>
    cases h
    exact .inl ⟨locoAddress_and_mask address, pomCv_wireCv cv, pomBit_wireBit bitPosition value⟩
  | lanXCvPomReadByte address cv =>
    cases h
    exact .inl ⟨locoAddress_and_mask address, pomCv_wireCv cv⟩
  | lanXCvPomAccessoryWriteByte address selection output cv value =>
    cases h
    exact .inl ⟨pomAccessory_wire address selection output, pomCv_wireCv cv⟩
  | lanXCvPomAccessoryWriteBit address selection output cv bitPosition value =>
    cases h
    exact .inl ⟨pomAccessory_wire address selection output, pomCv_wireCv cv,
      pomBit_wireBit bitPosition value⟩
  | lanXCvPomAccessoryReadByte address selection output cv =>
    cases h
    exact .inl ⟨pomAccessory_wire address selection output, pomCv_wireCv cv⟩
  | _ =>
    cases h
    exact .inl trivial

theorem Request.read_pack_binaryState {address : UInt16} (h : address.toNat < 2 ^ 15) (on : Bool) :
    Request.read (lanXSetLocoBinaryState address on 0).pack =
      some (lanXSetLocoBinaryState address on 0) := by
  have hparse : Request.parse (lanXSetLocoBinaryState address on 0).pack = none :=
    parse_pack_lanX _
  have hframe : Dataset.ofFrame (lanXSetLocoBinaryState address on 0).pack =
      Dataset.packed DataSet.lanX.id (LanXSetLocoBinaryState.pack address on 0) := ofFrame_pack ..
  rw [read, hparse, hframe]
  change some (lanXSetLocoBinaryState (be16 _ _) _ 0) = _
  rw [be16_binaryAddress h, decide_binaryState]

/-- What a datagram tells completely is read off it. -/
theorem Request.read_pack_of_told {r : Request} (h : r.Told) : Request.read r.pack = some r := by
  obtain hrange | ⟨address, on, haddress, rfl⟩ := h
  · rw [read, parse_pack hrange]
    rfl
  · exact read_pack_binaryState haddress on

/-- **The wire form is read off the datagram.** -/
theorem Request.read_pack (r : Request) : Request.read r.pack = r.wireForm := by
  rw [pack_wireForm]
  cases h : r.wireForm with
  | none => rfl
  | some w => exact read_pack_of_told (told_of_wireForm h)

/-- **Which requests share a datagram**: those with the same wire form, whatever their arguments. -/
theorem Request.pack_eq_iff_wireForm_eq (r r' : Request) :
    r.pack = r'.pack ↔ r.wireForm = r'.wireForm := by
  constructor
  · intro h
    rw [← read_pack, ← read_pack, h]
  · intro h
    rw [pack_wireForm r, pack_wireForm r', h]

end TrainPP
