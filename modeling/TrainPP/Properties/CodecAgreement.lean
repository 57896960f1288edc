import TrainPP.Protocol.Parsing

/-!
# Encoders and decoders of the same fields

Some of the fields that the client sends come back to it in replies, which are decoded elsewhere.
`unpack_pack_agree`: each of these decoders takes the payload that the encoder of the same fields
packs back to these fields, for all values of the fields and whatever the decoder held before.
-/

namespace TrainPP

open Checked Words

/-- The payload of a packed dataset. -/
def payloadOf (datagram : List UInt8) : List UInt8 := (Dataset.ofFrame datagram).data

theorem payloadOf_pack (id : UInt16) (data : List UInt8) :
    payloadOf (Z21DataSet.pack id data) = data := by
  rw [payloadOf, ofFrame_pack]
  rfl

/-- The value of an enumerator of `TurnoutStatus`. -/
def TurnoutStatus.value : TurnoutStatus → UInt8
  | unknown => 255
  | notSwitched => 0
  | switchedP0 => 1
  | switchedP1 => 2

/-- The two low bits of a byte are the value of the status, and 3 is read as `UNKNOWN`. -/
theorem TurnoutStatus.toNat_value_ofByte (b : UInt8) :
    (ofByte b).value.toNat = if b.toNat % 4 = 3 then 255 else b.toNat % 4 := by
  have hmask : (b &&& 0x03 : UInt8).toNat = b.toNat % 4 := toNat_and_mask b 2 rfl
  have hlt : (b &&& 0x03 : UInt8).toNat < 4 := hmask ▸ Nat.mod_lt _ (by decide)
  rw [ofByte, ← hmask]
  generalize b &&& 0x03 = c at hlt
  have hc : c = 0 ∨ c = 1 ∨ c = 2 ∨ c = 3 := by
    simp only [← UInt8.toNat_inj, UInt8.reduceToNat]
    omega
  rcases hc with rfl | rfl | rfl | rfl <;> rfl

theorem LanGetLocomode.unpack_packData (self : LanGetLocomode) (address : UInt16)
    (mode : Locomode) : self.unpack (LanSetLocomode.packData address mode) = .ok ⟨address, mode⟩ :=
  congrArg (fun a => Except.ok (LanGetLocomode.mk a mode)) (be16_locomodeAddress address)

theorem LanGetBroadcastFlags.unpack_packData (self : LanGetBroadcastFlags) (flags : UInt32) :
    self.unpack (LanSetBroadcastFlags.packData flags) = .ok ⟨flags⟩ :=
  congrArg (fun f => Except.ok (LanGetBroadcastFlags.mk f)) (le32_bytes flags)

theorem LanXCvResult.unpack_pack (self : LanXCvResult) (cv : UInt16) (value : UInt8) :
    self.unpack (LanXCvWrite.pack cv value) = .ok ⟨cv, value⟩ :=
  congrArg (fun c => Except.ok (LanXCvResult.mk c value)) (be16_cv cv)

theorem LanXExtAccessoryInfo.unpack_pack (self : LanXExtAccessoryInfo) (address : UInt16)
    (state : UInt8) :
    self.unpack (LanXSetExtAccessory.pack address state) = .ok ⟨address, state, true⟩ :=
  congrArg (fun a => Except.ok (LanXExtAccessoryInfo.mk a state true)) (be16_address address)

theorem LanXTurnoutInfo.unpack_pack (self : LanXTurnoutInfo) (address : UInt16) (value : UInt8) :
    self.unpack (LanXSetTurnout.pack address value) = .ok ⟨address, TurnoutStatus.ofByte value⟩ :=
  congrArg (fun a => Except.ok (LanXTurnoutInfo.mk a (TurnoutStatus.ofByte value)))
    (be16_address address)

/-- **Encoders and decoders agree** on loco and turnout modes, broadcast flags, CVs, extended
accessories and turnouts. -/
theorem unpack_pack_agree :
    (∀ (self : LanGetLocomode) address mode,
        self.unpack (payloadOf (LanSetLocomode.pack address mode)) = .ok ⟨address, mode⟩ ∧
          self.unpack (payloadOf (LanSetTurnoutmode.pack address mode)) = .ok ⟨address, mode⟩) ∧
      (∀ (self : LanGetBroadcastFlags) flags,
        self.unpack (payloadOf (LanSetBroadcastFlags.pack flags)) = .ok ⟨flags⟩) ∧
      (∀ (self : LanXCvResult) cv value,
        self.unpack (LanXCvWrite.pack cv value) = .ok ⟨cv, value⟩) ∧
      (∀ (self : LanXExtAccessoryInfo) address state,
        self.unpack (LanXSetExtAccessory.pack address state) = .ok ⟨address, state, true⟩) ∧
      ∀ (self : LanXTurnoutInfo) address value, ∃ info,
        self.unpack (LanXSetTurnout.pack address value) = .ok info ∧ info.address = address ∧
          info.status.value.toNat = if value.toNat % 4 = 3 then 255 else value.toNat % 4 := by
  refine ⟨fun self address mode => ⟨?_, ?_⟩, fun self flags => ?_, LanXCvResult.unpack_pack,
    LanXExtAccessoryInfo.unpack_pack, fun self address value => ?_⟩
  · rw [LanSetLocomode.pack, payloadOf_pack]
    exact self.unpack_packData address mode
  · rw [LanSetTurnoutmode.pack, payloadOf_pack]
    exact self.unpack_packData address mode
  · rw [LanSetBroadcastFlags.pack, payloadOf_pack]
    exact self.unpack_packData flags
  · exact ⟨_, self.unpack_pack address value, rfl, TurnoutStatus.toNat_value_ofByte value⟩

end TrainPP
