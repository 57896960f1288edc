import TrainPP.Properties.Convergence
import TrainPP.Properties.SystemState

/-!
# Which statuses a client can show

The datasets that a client receives may say anything, so that most fields of the status can take any
value, and independently of each other. Two things restrict them: a bit of the central state comes
with the flag of its mode, which only a system state clears, together with the bit; and a firmware
version is empty or made of the bytes of a version.

* `Z21.exists_reachable_status_iff`: a status is the status of some client after some run exactly
  when it meets these two conditions.
-/

namespace TrainPP

open Checked Runs Words

/-! ## Firmware versions -/

/-- The version of a new client, or one that is made of four bytes. -/
def IsVersion (version : String) : Prop :=
  version = "" ∨ ∃ bytes : List UInt8, bytes.length = 4 ∧ bcdVersion bytes = some version

/-- The versions in a message are made of bytes. -/
def Message.Versioned : Message → Prop
  | hwInfo payload => ∀ self ∈ payload, IsVersion self.fwVersion
  | lanX (.getFirmwareVersionResponse response) => IsVersion response.fwVersion
  | _ => True

theorem LanGetHWInfo.isVersion_of_decode {data : List UInt8} {self : LanGetHWInfo}
    (h : decode data = some (some self)) : IsVersion self.fwVersion := by
  by_cases hlen : data.length = 8
  · match data, hlen with
    | [_, _, _, _, _, _, _, _], _ =>
      obtain ⟨version, hversion, hself⟩ := Option.map_eq_some_iff.1 h
      rw [← Option.some.inj hself]
      exact .inr ⟨_, rfl, hversion⟩
  · rw [decode_of_length_ne hlen] at h
    cases h

/-- A version of two bytes is one of four, as bytes that are zero do not count. -/
theorem LanXGetFirmwareVersionResponse.isVersion_of_decode {data : List UInt8}
    {self : LanXGetFirmwareVersionResponse} (h : decode data = some self) :
    IsVersion self.fwVersion := by
  unfold decode at h
  split at h
  · rename_i major minor _
    obtain ⟨version, hversion, hself⟩ := Option.map_eq_some_iff.1 h
    cases hself
    exact .inr ⟨[0, 0, major, minor], rfl, hversion⟩
  · cases h

/-- A body that is read as a firmware version is decoded as one. -/
theorem LanXMessage.decode_eq_getFirmwareVersionResponse {data : List UInt8}
    {response : LanXGetFirmwareVersionResponse}
    (h : decode data = some (.getFirmwareVersionResponse response)) :
    LanXGetFirmwareVersionResponse.decode data = some response := by
  obtain ⟨command, -, h⟩ := Option.bind_eq_some_iff.1 h
  cases command with
  | none => cases h
  | some c =>
    obtain rfl := Option.some.inj (command_of_ofCommand h)
    obtain ⟨_, hdecode, hresponse⟩ := Option.map_eq_some_iff.1 h
    cases hresponse
    exact hdecode

theorem LanX.decode_eq_lanX {data : List UInt8} {body : LanXMessage}
    (h : decode data = some (.lanX body)) : LanXMessage.decode data = some body := by
  unfold decode at h
  split_ifs at h
  · obtain ⟨_, hbody, hm⟩ := Option.map_eq_some_iff.1 h
    rw [hbody, Message.lanX.inj hm]
  · cases h

theorem Dataset.versioned_message {d : Dataset} {m : Message} (h : d.message = some m) :
    m.Versioned := by
  cases m with
  | hwInfo payload =>
    rintro self ⟨⟩
    have hid := id_of_kind (kind_message h).symm
    rw [message, hid] at h
    obtain ⟨_, hdecode, hpayload⟩ := Option.map_eq_some_iff.1 h
    cases hpayload
    exact LanGetHWInfo.isVersion_of_decode hdecode
  | lanX body =>
    cases body with
    | getFirmwareVersionResponse response =>
      have hid := id_of_kind (kind_message h).symm
      rw [message, hid] at h
      exact LanXGetFirmwareVersionResponse.isVersion_of_decode
        (LanXMessage.decode_eq_getFirmwareVersionResponse (LanX.decode_eq_lanX h))
    | _ => trivial
  | _ => trivial

theorem Dataset.versioned_actedOn (u : Uninitialized) (past : List Dataset) (d : Dataset) :
    (d.actedOn u past).Versioned := by
  rcases d.actedOn_cases u past with ⟨e, -, he⟩ | h | ⟨k, h⟩
  · exact versioned_message he
  · rw [h]
    trivial
  · rw [h]
    cases k with
    | lanGetHwinfo =>
      rintro self ⟨⟩
      exact .inl rfl
    | _ => trivial

theorem Z21Status.isVersion_update {s : Z21Status} (h : IsVersion s.id.fwVersion) {m : Message}
    (hm : m.Versioned) : IsVersion (s.update m.report).id.fwVersion := by
  cases m with
  | hwInfo payload =>
    cases payload with
    | none => exact h
    | some self => exact hm self rfl
  | lanX body =>
    cases body with
    | getFirmwareVersionResponse response => exact hm
    | _ => exact h
  | serialNumber payload => cases payload <;> exact h
  | code payload => cases payload <;> exact h
  | systemstate payload => cases payload <;> exact h
  | _ => exact h

theorem Z21.isVersion_runAll {u : Uninitialized} {ds : List Dataset} {z : Z21}
    (hrun : runAll handleDataset (fresh u) ds = .ok z) : IsVersion z.status.id.fwVersion := by
  refine status_induction (P := fun _ s => IsVersion s.id.fwVersion) (.inl rfl) ?_ hrun
  exact fun past d s hs => Z21Status.isVersion_update hs (d.versioned_actedOn u past)

/-! ## Reaching a status -/

/-- The status with a flag of a latch. -/
def Latch.set (b : Bool) : Latch → Z21Status → Z21Status
  | emergencyStop, s => { s with mode.emergencyStop := b }
  | shortCirtcuit, s => { s with mode.shortCirtcuit := b }
  | programmingMode, s => { s with mode.programmingMode := b }
  | invalidRequest, s => { s with mode.invalidRequest := b }

theorem Latch.set_flag (l : Latch) (s : Z21Status) : l.set (l.flag s) s = s := by
  cases l <;> rfl

theorem Latch.exists_message_broadcast (l : Latch) :
    ∃ d : Dataset, d.message = some (.lanX l.broadcast) := by
  cases l with
  | emergencyStop => exact ⟨⟨7, 0x40, [0x81, 0x00, 0x81]⟩, rfl⟩
  | shortCirtcuit => exact ⟨⟨7, 0x40, [0x61, 0x08, 0x69]⟩, rfl⟩
  | programmingMode => exact ⟨⟨7, 0x40, [0x61, 0x02, 0x63]⟩, rfl⟩
  | invalidRequest => exact ⟨⟨7, 0x40, [0x61, 0x82, 0xe3]⟩, rfl⟩

namespace Z21

theorem Reachable.receive {z : Z21} (hz : z.Reachable) {d : Dataset} {m : Message}
    (hm : d.message = some m) : (z.receive m).Reachable := by
  obtain ⟨u, past, hrun⟩ := hz
  exact ⟨u, past ++ [d], by
    rw [runAll_append_ok hrun, runAll_cons_ok (handleDataset_of_message hm z), runAll_nil]⟩

/-- A flag that is not set can be set, by its broadcast. -/
theorem Reachable.exists_set {z : Z21} (hz : z.Reachable) (l : Latch) {b : Bool}
    (h : l.flag z.status = true → b = true) :
    ∃ z' : Z21, z'.Reachable ∧ z'.status = l.set b z.status := by
  cases b with
  | true =>
    obtain ⟨d, hd⟩ := l.exists_message_broadcast
    exact ⟨_, hz.receive hd, by cases l <;> rfl⟩
  | false =>
    have hflag : l.flag z.status = false := Bool.eq_false_iff.2 fun hb => Bool.noConfusion (h hb)
    exact ⟨z, hz, by rw [← hflag, l.set_flag]⟩

/-- The track voltage can be switched either way. -/
theorem Reachable.exists_trackVoltageOff {z : Z21} (hz : z.Reachable) (b : Bool) :
    ∃ z' : Z21, z'.Reachable ∧ z'.status = { z.status with mode.trackVoltageOff := b } := by
  cases b with
  | true =>
    exact ⟨_, hz.receive (d := ⟨7, 0x40, [0x61, 0x00, 0x61]⟩) (m := .lanX .bcTrackPowerOff) rfl,
      rfl⟩
  | false =>
    exact ⟨_, hz.receive (d := ⟨7, 0x40, [0x61, 0x01, 0x60]⟩) (m := .lanX .bcTrackPowerOn) rfl, rfl⟩

/-- A client that has been told its serial number, its code and its hardware info. -/
theorem exists_reachable_id (id : Z21Id) (hversion : IsVersion id.fwVersion) :
    ∃ z : Z21, z.Reachable ∧ z.status = { Z21Status.initial with id } := by
  have hnew : (fresh ⟨0, id.hwType, .unknown⟩).Reachable := ⟨_, [], rfl⟩
  have hserial := hnew.receive (d := ⟨8, 0x10, LanSetBroadcastFlags.packData id.serialNumber⟩)
    (congrArg (fun n => some (Message.serialNumber (some ⟨n⟩))) (le32_bytes id.serialNumber))
  have hcode := hserial.receive (d := ⟨5, 0x18, [id.featureSet.value]⟩)
    (m := .code (some ⟨id.featureSet.value⟩)) rfl
  obtain hv | ⟨bytes, hlen, hbytes⟩ := hversion
  · -- a dropped dataset shows the hardware type that the handler happens to hold
    refine ⟨_, hcode.receive (d := ⟨4, 0x1a, []⟩) (m := .hwInfo none) rfl, ?_⟩
    have hid : id = { id with fwVersion := "" } := by rw [← hv]
    rw [hid]
    rfl
  · match bytes, hlen with
    | [a, b, c, d], _ =>
      have hmessage : (⟨12, 0x1a, LanSetBroadcastFlags.packData id.hwType ++ [d, c, b, a]⟩ :
          Dataset).message = some (.hwInfo (some ⟨id.hwType, id.fwVersion⟩)) := by
        change ((bcdVersion [a, b, c, d]).map fun version =>
          some (LanGetHWInfo.mk (le32 _ _ _ _) version)).map Message.hwInfo = _
        rw [hbytes, le32_bytes]
        rfl
      exact ⟨_, hcode.receive hmessage, rfl⟩

end Z21

/-- The system state that a status shows, with the flags that its central state has. -/
def Z21Status.systemstate (s : Z21Status) : LanSystemstateDatachanged where
  mainCurrent := s.track.mainCurrent
  progCurrent := s.track.progCurrent
  filteredMainCurrent := s.track.filteredMainCurrent
  temperature := s.temperature
  supplyVoltage := s.track.supplyVoltage
  vccVoltage := s.track.vccVoltage
  centralState := s.centralState
  centralStateEx := s.centralStateEx
  capabilities := s.capabilities
  emergencyStop := flag s.centralState 0x01
  trackVoltageOff := flag s.centralState 0x02
  shortCirtcuit := flag s.centralState 0x04
  programmingMode := flag s.centralState 0x20

theorem Z21Status.consistent_systemstate (s : Z21Status) : s.systemstate.Consistent :=
  ⟨rfl, rfl, rfl, rfl⟩

/-- The status with the modes that its central state has, and no others. -/
def Z21Status.withBits (s : Z21Status) : Z21Status :=
  { s with mode := {
      emergencyStop := flag s.centralState 0x01
      trackVoltageOff := flag s.centralState 0x02
      shortCirtcuit := flag s.centralState 0x04
      programmingMode := flag s.centralState 0x20
      invalidRequest := false } }

/-- **Which statuses are reachable**: those in which a bit of the central state comes with the flag
of its mode, and in which the firmware version is empty or made of four bytes. -/
theorem Z21.exists_reachable_status_iff (s : Z21Status) :
    (∃ z : Z21, z.Reachable ∧ z.status = s) ↔
      (∀ l : Latch, flag s.centralState l.mask = true → l.flag s = true) ∧
        IsVersion s.id.fwVersion := by
  constructor
  · rintro ⟨z, ⟨u, past, hrun⟩, rfl⟩
    exact ⟨(accounted_runAll hrun).set_of_bit, isVersion_runAll hrun⟩
  · rintro ⟨hbits, hversion⟩
    obtain ⟨z₀, hz₀, h₀⟩ := exists_reachable_id s.id hversion
    have hstate : (⟨20, 0x84, s.systemstate.encode 0⟩ : Dataset).message =
        some (.systemstate (some s.systemstate)) :=
      congrArg (fun payload => some (Message.systemstate payload))
        (LanSystemstateDatachanged.decode_encode s.consistent_systemstate 0)
    have hz := hz₀.receive hstate
    have h : (z₀.receive (.systemstate (some s.systemstate))).status = s.withBits := by
      have hupdate : (z₀.receive (.systemstate (some s.systemstate))).status =
        z₀.status.update (Message.systemstate (some s.systemstate)).report := rfl
      rw [hupdate, h₀]
      rfl
    -- from the flags of the system state to those of the status, one after the other
    obtain ⟨z₁, hz₁, h₁⟩ := hz.exists_trackVoltageOff s.mode.trackVoltageOff
    rw [h] at h₁
    obtain ⟨z₂, hz₂, h₂⟩ := hz₁.exists_set .emergencyStop (b := s.mode.emergencyStop)
      (by rw [h₁]; exact hbits .emergencyStop)
    rw [h₁] at h₂
    obtain ⟨z₃, hz₃, h₃⟩ := hz₂.exists_set .shortCirtcuit (b := s.mode.shortCirtcuit)
      (by rw [h₂]; exact hbits .shortCirtcuit)
    rw [h₂] at h₃
    obtain ⟨z₄, hz₄, h₄⟩ := hz₃.exists_set .programmingMode (b := s.mode.programmingMode)
      (by rw [h₃]; exact hbits .programmingMode)
    rw [h₃] at h₄
    obtain ⟨z₅, hz₅, h₅⟩ := hz₄.exists_set .invalidRequest (b := s.mode.invalidRequest)
      (by rw [h₄]; exact fun hfalse => Bool.noConfusion hfalse)
    rw [h₄] at h₅
    exact ⟨z₅, hz₅, h₅⟩

end TrainPP
