import Mathlib.Data.Set.Function
import TrainPP.Protocol.Datagrams

/-!
# Parsing requests

What a command station makes of a request: `Request.parse` reads the dataset of a datagram by its
id, and the body of a LAN_X command by its X-header, its sub-code and its option bits. It takes a
packed request back to the request (`Request.parse_pack`) as long as the arguments are in the
ranges that the encoders keep, `Request.InRange`. So no two such requests share a datagram
(`Request.injOn_pack`).

The request to set a binary state is left out: its body does not determine its arguments.
-/

namespace TrainPP

open Words

/-! ## The parser -/

/-- The address in the bytes of an accessory. -/
def accessoryAddress (hi lo : UInt8) : UInt16 := be16 hi lo >>> 4

/-- The selection in the low byte of an accessory. -/
def accessorySelection (lo : UInt8) : PomAccessorySelection :=
  if (lo &&& 0x0f : UInt8) < 8 then .wholeDecoder else .specificOutput

/-- The function group of a byte. -/
def FunctionGroup.ofByte? (byte : UInt8) : Option FunctionGroup :=
  enumerators.find? fun group : FunctionGroup => UInt8.ofNat group == byte

/-- A request to program on the main track, from its option and CV bytes and its value: the two low
bits of the option byte belong to the CV address. -/
def parsePom (writeByte : UInt16 → UInt8 → Request) (writeBit : UInt16 → UInt8 → UInt8 → Request)
    (readByte : UInt16 → Request) (option cvLow value : UInt8) : Option Request :=
  let cv := be16 (option &&& 0x03 : UInt8) cvLow + 1
  if option >>> 2 = 0x3b then some (writeByte cv value)
  else if option >>> 2 = 0x3a then some (writeBit cv (value &&& 0x07 : UInt8) (value >>> 3))
  else if option >>> 2 = 0x39 then some (readByte cv)
  else none

/-- The request of a LAN_X body. -/
def LanX.parse : List UInt8 → Option Request
  | [0x21, 0x21, _] => some .lanXGetVersion
  | [0x21, 0x24, _] => some .lanXGetStatus
  | [0x21, 0x80, _] => some .lanXSetTrackPowerOff
  | [0x21, 0x81, _] => some .lanXSetTrackPowerOn
  | [0x22, 0x11, register, _] => some (.lanXDccReadRegister register)
  | [0x23, 0x11, hi, lo, _] => some (.lanXCvRead (be16 hi lo + 1))
  | [0x23, 0x12, register, value, _] => some (.lanXDccWriteRegister register value)
  | [0x24, 0x12, hi, lo, value, _] => some (.lanXCvWrite (be16 hi lo + 1) value)
  | [0x24, 0xff, 0x00, register, value, _] => some (.lanXMmWriteByte register value)
  | [0x43, hi, lo, _] => some (.lanXGetTurnoutInfo (be16 hi lo))
  | [0x44, hi, lo, 0x00, _] => some (.lanXGetExtAccessoryInfo (be16 hi lo))
  | [0x53, hi, lo, value, _] => some (.lanXSetTurnout (be16 hi lo) value)
  | [0x54, hi, lo, state, 0x00, _] => some (.lanXSetExtAccessory (be16 hi lo) state)
  | [0x80, _] => some .lanXSetStop
  | [0xe3, 0xf0, hi, lo, _] => some (.lanXGetLocoInfo (be16 hi lo))
  | [0xe4, 0x12, hi, lo, drive, _] =>
    some (.lanXSetLocoDrive (be16 hi lo) (drive &&& 0x7f : UInt8) (0x80 ≤ drive))
  | [0xe4, 0xf8, hi, lo, function, _] => some (.lanXSetLocoFunction (be16 hi lo) function)
  | [0xe4, group, hi, lo, functions, _] =>
    (FunctionGroup.ofByte? group).map (.lanXSetLocoFunctionGroup (be16 hi lo) · functions)
  | [0xe6, 0x30, hi, lo, option, cvLow, value, _] =>
    parsePom (.lanXCvPomWriteByte (be16 hi lo)) (.lanXCvPomWriteBit (be16 hi lo))
      (.lanXCvPomReadByte (be16 hi lo)) option cvLow value
  | [0xe6, 0x31, hi, lo, option, cvLow, value, _] =>
    let address := accessoryAddress hi lo
    let selection := accessorySelection lo
    let output := (lo &&& 0x07 : UInt8)
    parsePom (.lanXCvPomAccessoryWriteByte address selection output)
      (.lanXCvPomAccessoryWriteBit address selection output)
      (.lanXCvPomAccessoryReadByte address selection output) option cvLow value
  | [0xf1, 0x0a, _] => some .lanXGetFirmwareVersion
  | _ => none

/-- The request of a dataset. -/
def Dataset.parse (d : Dataset) : Option Request :=
  match d.id, d.data with
  | 0x10, [] => some .getSerialNumber
  | 0x18, [] => some .getCode
  | 0x1a, [] => some .getHWInfo
  | 0x30, [] => some .logoff
  | 0x40, body => LanX.parse body
  | 0x50, [b₀, b₁, b₂, b₃] => some (.setBroadcastFlags (le32 b₀ b₁ b₂ b₃))
  | 0x51, [] => some .getBroadcastFlags
  | 0x60, [hi, lo] => some (.getLocomode (be16 hi lo))
  | 0x61, [hi, lo, mode] => some (.setLocomode (be16 hi lo) ⟨mode⟩)
  | 0x70, [hi, lo] => some (.getTurnoutmode (be16 hi lo))
  | 0x71, [hi, lo, mode] => some (.setTurnoutmode (be16 hi lo) ⟨mode⟩)
  | 0x85, [] => some .systemstateGetData
  | _, _ => none

/-- The request of a datagram. -/
def Request.parse (datagram : List UInt8) : Option Request := (Dataset.ofFrame datagram).parse

/-! ## Ranges of the arguments -/

/-- A loco address of 14 bits. -/
def LocoAddress (address : UInt16) : Prop := address.toNat < 2 ^ 14

instance (address : UInt16) : Decidable (LocoAddress address) :=
  inferInstanceAs (Decidable (address.toNat < 2 ^ 14))

/-- A CV in reach of programming on the main track. -/
def PomCv (cv : UInt16) : Prop := 1 ≤ cv.toNat ∧ cv.toNat ≤ 1024

instance (cv : UInt16) : Decidable (PomCv cv) :=
  inferInstanceAs (Decidable (1 ≤ cv.toNat ∧ cv.toNat ≤ 1024))

/-- A bit position and a bit. -/
def PomBit (bitPosition value : UInt8) : Prop := bitPosition.toNat < 8 ∧ value.toNat ≤ 1

/-- An accessory that can be addressed in two bytes. -/
structure PomAccessory (address : UInt16) (selection : PomAccessorySelection) (output : UInt8) :
    Prop where
  address_lt : address.toNat < 512
  selection_eq : selection = .wholeDecoder ∨ selection = .specificOutput
  output_lt : output.toNat < 8

/-- The arguments are in the ranges that the encoder keeps. -/
def Request.InRange : Request → Prop
  | lanXMmWriteByte register _ => register ≤ 78
  | lanXGetLocoInfo address => LocoAddress address
  | lanXSetLocoDrive address speed _ => LocoAddress address ∧ speed.toNat < 128
  | lanXSetLocoFunction address _ => LocoAddress address
  | lanXSetLocoFunctionGroup address group _ =>
    LocoAddress address ∧ group ∈ FunctionGroup.enumerators
  | lanXSetLocoBinaryState _ _ _ => False
  | lanXCvPomWriteByte address cv _ => LocoAddress address ∧ PomCv cv
  | lanXCvPomWriteBit address cv bitPosition value =>
    LocoAddress address ∧ PomCv cv ∧ PomBit bitPosition value
  | lanXCvPomReadByte address cv => LocoAddress address ∧ PomCv cv
  | lanXCvPomAccessoryWriteByte address selection output cv _ =>
    PomAccessory address selection output ∧ PomCv cv
  | lanXCvPomAccessoryWriteBit address selection output cv bitPosition value =>
    PomAccessory address selection output ∧ PomCv cv ∧ PomBit bitPosition value
  | lanXCvPomAccessoryReadByte address selection output cv =>
    PomAccessory address selection output ∧ PomCv cv
  | _ => True

/-! ## Words and shared bytes -/

theorem be16_address (address : UInt16) :
    be16 (address >>> 8).toUInt8 (address &&& 0xff).toUInt8 = address := by
  rw [and_255_toUInt8, be16_bytes]

theorem be16_locomodeAddress (address : UInt16) :
    be16 ((address >>> 8) &&& 0xff).toUInt8 (address &&& 0xff).toUInt8 = address := by
  rw [and_255_toUInt8, be16_address]

theorem be16_locoAddress {address : UInt16} (h : LocoAddress address) :
    be16 ((address >>> 8) &&& 0x3f).toUInt8 (address &&& 0xff).toUInt8 = address := by
  rw [LocoAddress] at h
  rw [and_255_toUInt8]
  exact be16_bytes_of_lt 6 (by decide) rfl (by omega)

theorem be16_cv (cv : UInt16) :
    be16 ((cv - 1) >>> 8).toUInt8 ((cv - 1) &&& 0xff).toUInt8 + 1 = cv := by
  rw [be16_address, UInt16.sub_add_cancel]

/-- The speed and the direction in the last byte of a drive request. -/
theorem drive_byte {speed : UInt8} (h : speed.toNat < 128) (forward : Bool) :
    ((speed + if forward then 0x80 else 0) &&& 0x7f : UInt8) = speed ∧
      decide (0x80 ≤ speed + if forward then 0x80 else 0) = forward := by
  cases forward with
  | false =>
    constructor
    · apply UInt8.toNat_inj.1
      rw [toNat_and_mask _ 7 rfl]
      simp only [Bool.false_eq_true, if_false, UInt8.add_zero]
      exact Nat.mod_eq_of_lt h
    · simp only [Bool.false_eq_true, if_false, UInt8.add_zero, decide_eq_false_iff_not,
        UInt8.le_iff_toNat_le]
      exact Nat.not_le.2 h
  | true =>
    have hsum : (speed + 0x80).toNat = speed.toNat + 128 := by
      rw [UInt8.toNat_add]
      exact Nat.mod_eq_of_lt (by show speed.toNat + 128 < 256; omega)
    constructor
    · apply UInt8.toNat_inj.1
      rw [toNat_and_mask _ 7 rfl, if_pos rfl, hsum]
      omega
    · rw [if_pos rfl, decide_eq_true_iff, UInt8.le_iff_toNat_le, hsum]
      exact Nat.le_add_left 128 _

/-- The bit position and the bit in the value of a request to write a bit. -/
theorem pomBit_byte {bitPosition value : UInt8} (h : PomBit bitPosition value) :
    (pomBitByte bitPosition value &&& 0x07 : UInt8) = bitPosition ∧
      pomBitByte bitPosition value >>> 3 = value := by
  obtain ⟨hposition, hvalue⟩ := h
  have hmask : (bitPosition &&& 0x07 : UInt8).toNat = bitPosition.toNat := by
    rw [toNat_and_mask _ 3 rfl]
    exact Nat.mod_eq_of_lt hposition
  have hflag : (if value ≠ 0 then 0x08 else 0 : UInt8).toNat = 8 * value.toNat := by
    by_cases hv : value = 0
    · rw [if_neg (by simp [hv]), hv]
      rfl
    · have hv' : value.toNat ≠ 0 := fun h0 => hv (UInt8.toNat_inj.1 h0)
      rw [if_pos hv, show value.toNat = 1 by omega]
      rfl
  have hsum : (pomBitByte bitPosition value).toNat = 8 * value.toNat + bitPosition.toNat := by
    rw [pomBitByte, UInt8.toNat_add, hmask, hflag]
    omega
  constructor
  · apply UInt8.toNat_inj.1
    rw [toNat_and_mask _ 3 rfl, hsum]
    omega
  · apply UInt8.toNat_inj.1
    rw [UInt8.toNat_shiftRight, hsum, Nat.shiftRight_eq_div_pow]
    change (8 * value.toNat + bitPosition.toNat) / 2 ^ 3 = _
    omega

section PomOption

variable {option : UInt8} {cv : UInt16}

/-- The option and the two high bits of the CV address share a byte. -/
theorem toNat_pomOption (ho : option.toNat ≤ 252) (cv : UInt16) :
    (option + (((cv - 1) >>> 8) &&& 0x03).toUInt8).toNat =
      option.toNat + (cv - 1).toNat / 256 % 4 := by
  rw [UInt8.toNat_add, toNat_high_and_mask _ 2 (by decide) rfl]
  omega

theorem pomOption_shiftRight (ho : option.toNat ≤ 252) (hfree : option.toNat % 4 = 0) :
    (option + (((cv - 1) >>> 8) &&& 0x03).toUInt8) >>> 2 = option >>> 2 := by
  apply UInt8.toNat_inj.1
  rw [UInt8.toNat_shiftRight, UInt8.toNat_shiftRight, toNat_pomOption ho,
    Nat.shiftRight_eq_div_pow, Nat.shiftRight_eq_div_pow]
  change _ / 2 ^ 2 = _ / 2 ^ 2
  omega

theorem be16_pomCv (ho : option.toNat ≤ 252) (hfree : option.toNat % 4 = 0) (h : PomCv cv) :
    be16 ((option + (((cv - 1) >>> 8) &&& 0x03).toUInt8) &&& 0x03 : UInt8)
        ((cv - 1) &&& 0xff).toUInt8 + 1 = cv := by
  obtain ⟨hle, hge⟩ := h
  have hsub : (cv - 1).toNat = cv.toNat - 1 :=
    UInt16.toNat_sub_of_le _ _ (UInt16.le_iff_toNat_le.2 hle)
  have hhigh : ((option + (((cv - 1) >>> 8) &&& 0x03).toUInt8) &&& 0x03 : UInt8) =
      (((cv - 1) >>> 8) &&& 0x03).toUInt8 := by
    apply UInt8.toNat_inj.1
    rw [toNat_and_mask _ 2 rfl, toNat_pomOption ho, toNat_high_and_mask _ 2 (by decide) rfl]
    omega
  rw [hhigh, and_255_toUInt8, be16_bytes_of_lt 2 (by decide) rfl (by omega), UInt16.sub_add_cancel]

end PomOption

section PomAccessory

variable {address : UInt16} {selection : PomAccessorySelection} {output : UInt8}

/-- The high byte of an accessory. -/
theorem toNat_accessoryHigh (h : PomAccessory address selection output) :
    ((address &&& 0x1ff) >>> 4).toUInt8.toNat = address.toNat / 16 := by
  have hlt := h.address_lt
  rw [UInt16.toNat_toUInt8, UInt16.toNat_shiftRight, toNat_and_mask16 _ 9 rfl,
    Nat.shiftRight_eq_div_pow]
  change _ / 2 ^ 4 % 2 ^ 8 = _
  omega

/-- The low byte of an accessory: four bits of the address, the selection and the output. -/
theorem toNat_accessoryLow (h : PomAccessory address selection output) :
    (((address &&& 0x0f) <<< 4).toUInt8 + UInt8.ofNat selection +
        (output &&& (0x07 : UInt8))).toNat =
      16 * (address.toNat % 16) + selection + output.toNat := by
  have haddress : ((address &&& 0x0f) <<< 4).toUInt8.toNat = 16 * (address.toNat % 16) := by
    rw [UInt16.toNat_toUInt8, UInt16.toNat_shiftLeft, toNat_and_mask16 _ 4 rfl, Nat.shiftLeft_eq]
    change _ % 2 ^ 4 * 2 ^ 4 % 2 ^ 16 % 2 ^ 8 = _
    omega
  have hselection : (UInt8.ofNat selection).toNat = selection ∧ (selection : ℕ) ≤ 8 := by
    obtain hs | hs := h.selection_eq <;> rw [hs] <;> decide
  have houtput := h.output_lt
  rw [UInt8.toNat_add, UInt8.toNat_add, toNat_and_mask _ 3 rfl, haddress, hselection.1]
  omega

theorem accessory_bytes (h : PomAccessory address selection output) {hi lo : UInt8}
    (hhi : hi.toNat = address.toNat / 16)
    (hlo : lo.toNat = 16 * (address.toNat % 16) + selection + output.toNat) :
    accessoryAddress hi lo = address ∧ accessorySelection lo = selection ∧
      (lo &&& 0x07 : UInt8) = output := by
  have houtput := h.output_lt
  have hselection : (selection : ℕ) = 0 ∧ selection = .wholeDecoder ∨
      (selection : ℕ) = 8 ∧ selection = .specificOutput := by
    obtain rfl | rfl := h.selection_eq
    · exact .inl ⟨rfl, rfl⟩
    · exact .inr ⟨rfl, rfl⟩
  refine ⟨?_, ?_, ?_⟩
  · apply UInt16.toNat_inj.1
    rw [accessoryAddress, UInt16.toNat_shiftRight, toNat_be16, Nat.shiftRight_eq_div_pow]
    change _ / 2 ^ 4 = _
    omega
  · have hmask : (lo &&& 0x0f : UInt8).toNat = lo.toNat % 16 := toNat_and_mask lo 4 rfl
    rw [accessorySelection]
    obtain ⟨hs, rfl⟩ | ⟨hs, rfl⟩ := hselection
    · exact if_pos (UInt8.lt_iff_toNat_lt.2 (by rw [hmask]; show _ < 8; omega))
    · exact if_neg (mt UInt8.lt_iff_toNat_lt.1 (by rw [hmask]; show ¬_ < 8; omega))
  · apply UInt8.toNat_inj.1
    rw [toNat_and_mask _ 3 rfl]
    omega

end PomAccessory

/-! ## Parsing LAN_X commands -/

section Pom

variable (writeByte : UInt16 → UInt8 → Request) (writeBit : UInt16 → UInt8 → UInt8 → Request)
  (readByte : UInt16 → Request) {cv : UInt16}

/-- The request of option and CV bytes, for an option that leaves the two low bits free. -/
theorem parsePom_eq (option : UInt8) (ho : option.toNat ≤ 252) (hfree : option.toNat % 4 = 0)
    (h : PomCv cv) (value : UInt8) :
    parsePom writeByte writeBit readByte (option + (((cv - 1) >>> 8) &&& 0x03).toUInt8)
        ((cv - 1) &&& 0xff).toUInt8 value =
      if option >>> 2 = 0x3b then some (writeByte cv value)
      else if option >>> 2 = 0x3a then some (writeBit cv (value &&& 0x07 : UInt8) (value >>> 3))
      else if option >>> 2 = 0x39 then some (readByte cv)
      else none := by
  rw [parsePom, pomOption_shiftRight ho hfree, be16_pomCv ho hfree h]

theorem parsePom_writeByte (h : PomCv cv) (value : UInt8) :
    parsePom writeByte writeBit readByte ((0xec : UInt8) + (((cv - 1) >>> 8) &&& 0x03).toUInt8)
      ((cv - 1) &&& 0xff).toUInt8 value = some (writeByte cv value) :=
  parsePom_eq writeByte writeBit readByte 0xec (by decide) rfl h value

theorem parsePom_writeBit (h : PomCv cv) {bitPosition value : UInt8}
    (hb : PomBit bitPosition value) :
    parsePom writeByte writeBit readByte ((0xe8 : UInt8) + (((cv - 1) >>> 8) &&& 0x03).toUInt8)
        ((cv - 1) &&& 0xff).toUInt8 (pomBitByte bitPosition value) =
      some (writeBit cv bitPosition value) := by
  obtain ⟨hposition, hvalue⟩ := pomBit_byte hb
  refine (parsePom_eq writeByte writeBit readByte 0xe8 (by decide) rfl h _).trans ?_
  rw [hposition, hvalue]
  rfl

theorem parsePom_readByte (h : PomCv cv) :
    parsePom writeByte writeBit readByte ((0xe4 : UInt8) + (((cv - 1) >>> 8) &&& 0x03).toUInt8)
      ((cv - 1) &&& 0xff).toUInt8 0x00 = some (readByte cv) :=
  parsePom_eq writeByte writeBit readByte 0xe4 (by decide) rfl h 0

end Pom

section Loco

variable {address : UInt16} (ha : LocoAddress address)
include ha

theorem parse_lanXGetLocoInfo :
    LanX.parse (LanXGetLocoInfo.pack address) = some (.lanXGetLocoInfo address) :=
  congrArg (fun a => some (Request.lanXGetLocoInfo a)) (be16_locoAddress ha)

theorem parse_lanXSetLocoDrive {speed : UInt8} (h : speed.toNat < 128) (forward : Bool) :
    LanX.parse (LanXSetLocoDrive.pack address speed forward) =
      some (.lanXSetLocoDrive address speed forward) := by
  obtain ⟨hspeed, hforward⟩ := drive_byte h forward
  change some (Request.lanXSetLocoDrive (be16 _ _) _ _) = _
  rw [be16_locoAddress ha, hspeed, hforward]

theorem parse_lanXSetLocoFunction (function : UInt8) :
    LanX.parse (LanXSetLocoFunction.pack address function) =
      some (.lanXSetLocoFunction address function) :=
  congrArg (fun a => some (Request.lanXSetLocoFunction a function)) (be16_locoAddress ha)

theorem parse_lanXSetLocoFunctionGroup {group : FunctionGroup}
    (h : group ∈ FunctionGroup.enumerators) (functions : UInt8) :
    LanX.parse (LanXSetLocoFunctionGroup.pack address group functions) =
      some (.lanXSetLocoFunctionGroup address group functions) := by
  have hparse : LanX.parse (LanXSetLocoFunctionGroup.pack address group functions) =
      some (.lanXSetLocoFunctionGroup
        (be16 ((address >>> 8) &&& 0x3f).toUInt8 (address &&& 0xff).toUInt8) group functions) := by
    rw [LanXSetLocoFunctionGroup.pack, if_pos h]
    simp only [FunctionGroup.enumerators, List.mem_cons, List.not_mem_nil, or_false] at h
    obtain rfl | rfl | rfl | rfl | rfl | rfl | rfl | rfl | rfl | rfl := h <;> rfl
  rw [hparse, be16_locoAddress ha]

variable {cv : UInt16} (hcv : PomCv cv)
include hcv

theorem parse_lanXCvPomWriteByte (value : UInt8) :
    LanX.parse (LanXCvPomWriteByte.pack address cv value) =
      some (.lanXCvPomWriteByte address cv value) := by
  refine (parsePom_writeByte _ _ _ hcv value).trans ?_
  rw [be16_locoAddress ha]

theorem parse_lanXCvPomWriteBit {bitPosition value : UInt8} (hb : PomBit bitPosition value) :
    LanX.parse (LanXCvPomWriteBit.pack address cv bitPosition value) =
      some (.lanXCvPomWriteBit address cv bitPosition value) := by
  refine (parsePom_writeBit _ _ _ hcv hb).trans ?_
  rw [be16_locoAddress ha]

theorem parse_lanXCvPomReadByte :
    LanX.parse (LanXCvPomReadByte.pack address cv) = some (.lanXCvPomReadByte address cv) := by
  refine (parsePom_readByte _ _ _ hcv).trans ?_
  rw [be16_locoAddress ha]

end Loco

section Accessory

variable {address cv : UInt16} {selection : PomAccessorySelection} {output : UInt8}
  (ha : PomAccessory address selection output) (hcv : PomCv cv)
include ha hcv

theorem parse_lanXCvPomAccessoryWriteByte (value : UInt8) :
    LanX.parse (LanXCvPomAccessoryWriteByte.pack address selection output cv value) =
      some (.lanXCvPomAccessoryWriteByte address selection output cv value) := by
  obtain ⟨haddress, hselection, houtput⟩ :=
    accessory_bytes ha (toNat_accessoryHigh ha) (toNat_accessoryLow ha)
  refine (parsePom_writeByte _ _ _ hcv value).trans ?_
  rw [haddress, hselection, houtput]

theorem parse_lanXCvPomAccessoryWriteBit {bitPosition value : UInt8}
    (hb : PomBit bitPosition value) :
    LanX.parse (LanXCvPomAccessoryWriteBit.pack address selection output cv bitPosition value) =
      some (.lanXCvPomAccessoryWriteBit address selection output cv bitPosition value) := by
  obtain ⟨haddress, hselection, houtput⟩ :=
    accessory_bytes ha (toNat_accessoryHigh ha) (toNat_accessoryLow ha)
  refine (parsePom_writeBit _ _ _ hcv hb).trans ?_
  rw [haddress, hselection, houtput]

theorem parse_lanXCvPomAccessoryReadByte :
    LanX.parse (LanXCvPomAccessoryReadByte.pack address selection output cv) =
      some (.lanXCvPomAccessoryReadByte address selection output cv) := by
  obtain ⟨haddress, hselection, houtput⟩ :=
    accessory_bytes ha (toNat_accessoryHigh ha) (toNat_accessoryLow ha)
  refine (parsePom_readByte _ _ _ hcv).trans ?_
  rw [haddress, hselection, houtput]

end Accessory

/-! ## Parsing requests -/

/-- The dataset of a packed LAN_X command is parsed as its body. -/
theorem parse_pack_lanX (body : List UInt8) : Request.parse (LanX.pack body) = LanX.parse body := by
  rw [Request.parse, LanX.pack, ofFrame_pack]
  rfl

theorem parse_pack_dataset (id : UInt16) (data : List UInt8) :
    Request.parse (Z21DataSet.pack id data) = (Dataset.packed id data).parse := by
  rw [Request.parse, ofFrame_pack]

/-- **Parsing undoes packing** on requests with arguments in range. -/
theorem Request.parse_pack {r : Request} (h : r.InRange) : Request.parse r.pack = some r := by
  cases r with
  | getSerialNumber => rfl
  | getCode => rfl
  | getHWInfo => rfl
  | logoff => rfl
  | lanXGetVersion => rfl
  | lanXGetStatus => rfl
  | lanXSetTrackPowerOff => rfl
  | lanXSetTrackPowerOn => rfl
  | lanXDccReadRegister register => exact parse_pack_lanX _
  | lanXCvRead cv =>
    refine (parse_pack_lanX _).trans ?_
    exact congrArg (fun a => some (lanXCvRead a)) (be16_cv cv)
  | lanXDccWriteRegister register value => exact parse_pack_lanX _
  | lanXCvWrite cv value =>
    refine (parse_pack_lanX _).trans ?_
    exact congrArg (fun a => some (lanXCvWrite a value)) (be16_cv cv)
  | lanXMmWriteByte register value =>
    refine (parse_pack_lanX _).trans ?_
    exact congrArg LanX.parse (if_pos (show register ≤ 78 from h))
  | lanXGetTurnoutInfo address =>
    refine (parse_pack_lanX _).trans ?_
    exact congrArg (fun a => some (lanXGetTurnoutInfo a)) (be16_address address)
  | lanXGetExtAccessoryInfo address =>
    refine (parse_pack_lanX _).trans ?_
    exact congrArg (fun a => some (lanXGetExtAccessoryInfo a)) (be16_address address)
  | lanXSetTurnout address value =>
    refine (parse_pack_lanX _).trans ?_
    exact congrArg (fun a => some (lanXSetTurnout a value)) (be16_address address)
  | lanXSetExtAccessory address state =>
    refine (parse_pack_lanX _).trans ?_
    exact congrArg (fun a => some (lanXSetExtAccessory a state)) (be16_address address)
  | lanXSetStop => rfl
  | lanXGetLocoInfo address => exact (parse_pack_lanX _).trans (parse_lanXGetLocoInfo h)
  | lanXSetLocoDrive address speed forward =>
    exact (parse_pack_lanX _).trans (parse_lanXSetLocoDrive h.1 h.2 forward)
  | lanXSetLocoFunction address function =>
    exact (parse_pack_lanX _).trans (parse_lanXSetLocoFunction h function)
  | lanXSetLocoFunctionGroup address group functions =>
    exact (parse_pack_lanX _).trans (parse_lanXSetLocoFunctionGroup h.1 h.2 functions)
  | lanXSetLocoBinaryState address on binaryAddress => exact h.elim
  | lanXCvPomWriteByte address cv value =>
    exact (parse_pack_lanX _).trans (parse_lanXCvPomWriteByte h.1 h.2 value)
  | lanXCvPomWriteBit address cv bitPosition value =>
    exact (parse_pack_lanX _).trans (parse_lanXCvPomWriteBit h.1 h.2.1 h.2.2)
  | lanXCvPomReadByte address cv =>
    exact (parse_pack_lanX _).trans (parse_lanXCvPomReadByte h.1 h.2)
  | lanXCvPomAccessoryWriteByte address selection output cv value =>
    exact (parse_pack_lanX _).trans (parse_lanXCvPomAccessoryWriteByte h.1 h.2 value)
  | lanXCvPomAccessoryWriteBit address selection output cv bitPosition value =>
    exact (parse_pack_lanX _).trans (parse_lanXCvPomAccessoryWriteBit h.1 h.2.1 h.2.2)
  | lanXCvPomAccessoryReadByte address selection output cv =>
    exact (parse_pack_lanX _).trans (parse_lanXCvPomAccessoryReadByte h.1 h.2)
  | lanXGetFirmwareVersion => rfl
  | setBroadcastFlags flags =>
    refine (parse_pack_dataset _ _).trans ?_
    exact congrArg (fun a => some (setBroadcastFlags a)) (le32_bytes flags)
  | getBroadcastFlags => rfl
  | getLocomode address =>
    refine (parse_pack_dataset _ _).trans ?_
    exact congrArg (fun a => some (getLocomode a)) (be16_locomodeAddress address)
  | setLocomode address mode =>
    refine (parse_pack_dataset _ _).trans ?_
    exact congrArg (fun a => some (setLocomode a mode)) (be16_locomodeAddress address)
  | getTurnoutmode address =>
    refine (parse_pack_dataset _ _).trans ?_
    exact congrArg (fun a => some (getTurnoutmode a)) (be16_locomodeAddress address)
  | setTurnoutmode address mode =>
    refine (parse_pack_dataset _ _).trans ?_
    exact congrArg (fun a => some (setTurnoutmode a mode)) (be16_locomodeAddress address)
  | systemstateGetData => rfl

/-! ## Requests and their datagrams -/

/-- **No two requests share a datagram**: equal datagrams have the same request, with the same
arguments. -/
theorem Request.injOn_pack : Set.InjOn Request.pack {r | r.InRange} := by
  intro r hr r' hr' hpack
  have hparse := congrArg Request.parse hpack
  rw [Request.parse_pack hr, Request.parse_pack hr'] at hparse
  exact Option.some_inj.1 hparse

/-- To write a zero byte on the main track is not to read the byte. -/
theorem pack_pomWriteByte_ne_pack_pomReadByte :
    (Request.lanXCvPomWriteByte 3 8 0).pack ≠ (Request.lanXCvPomReadByte 3 8).pack := by
  have hrange : LocoAddress 3 ∧ PomCv 8 := by decide
  intro hpack
  cases Request.injOn_pack hrange hrange hpack

end TrainPP
