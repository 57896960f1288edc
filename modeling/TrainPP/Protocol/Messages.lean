import Mathlib.Tactic.MkIffOfInductiveProp
import TrainPP.Protocol.Decoders

/-!
# Messages

What a received dataset says, independently of the client that receives it. `Dataset.message` reads
a dataset as a `Message`, and is `none` when the handler of the dataset leaves the payload.

`Dataset.message_isSome_iff` tells for which datasets this happens: `Dataset.Decodable` lists, for
each id and LAN_X header, how far the payload must reach.
-/

namespace TrainPP

open Checked

/-! ## LAN_X -/

/-- A LAN_X body, read by its header. -/
inductive LanXMessage
  | turnoutInfo (info : LanXTurnoutInfo)
  | extAccessoryInfo (info : LanXExtAccessoryInfo)
  | bcTrackPowerOff
  | bcTrackPowerOn
  | bcProgrammingMode
  | bcTrackShortCircuit
  | cvNackSc
  | cvNack
  | unknownCommand
  | statusChanged
  | getVersionResponse
  | cvResult (result : LanXCvResult)
  | bcStopped
  | locoInfo (update : LocoUpdate)
  | getFirmwareVersionResponse (response : LanXGetFirmwareVersionResponse)
  /-- A header, or a header and a second byte, that no command has. -/
  | unassigned

namespace LanXMessage

def command : LanXMessage → Option LanXCommands
  | turnoutInfo _ => some .lanXTurnoutInfo
  | extAccessoryInfo _ => some .lanXExtAccessoryInfo
  | bcTrackPowerOff => some .lanXBcTrackPowerOff
  | bcTrackPowerOn => some .lanXBcTrackPowerOn
  | bcProgrammingMode => some .lanXBcProgrammingMode
  | bcTrackShortCircuit => some .lanXBcTrackShortCircuit
  | cvNackSc => some .lanXCvNackSc
  | cvNack => some .lanXCvNack
  | unknownCommand => some .lanXUnknownCommand
  | statusChanged => some .lanXStatusChanged
  | getVersionResponse => some .lanXGetVersionResponse
  | cvResult _ => some .lanXCvResult
  | bcStopped => some .lanXBcStopped
  | locoInfo _ => some .lanXLocoInfo
  | getFirmwareVersionResponse _ => some .lanXGetFirmwareVersionResponse
  | unassigned => none

/-- A body read as a given command. -/
def ofCommand (data : List UInt8) : LanXCommands → Option LanXMessage
  | .lanXTurnoutInfo => (LanXTurnoutInfo.decode data).map turnoutInfo
  | .lanXExtAccessoryInfo => (LanXExtAccessoryInfo.decode data).map extAccessoryInfo
  | .lanXBcTrackPowerOff => some bcTrackPowerOff
  | .lanXBcTrackPowerOn => some bcTrackPowerOn
  | .lanXBcProgrammingMode => some bcProgrammingMode
  | .lanXBcTrackShortCircuit => some bcTrackShortCircuit
  | .lanXCvNackSc => some cvNackSc
  | .lanXCvNack => some cvNack
  | .lanXUnknownCommand => some unknownCommand
  | .lanXStatusChanged => some statusChanged
  | .lanXGetVersionResponse => some getVersionResponse
  | .lanXCvResult => (LanXCvResult.decode data).map cvResult
  | .lanXBcStopped => some bcStopped
  | .lanXLocoInfo => (LanXLocoInfo.decode data).map locoInfo
  | .lanXGetFirmwareVersionResponse =>
    (LanXGetFirmwareVersionResponse.decode data).map getFirmwareVersionResponse

theorem command_of_ofCommand {data : List UInt8} {c : LanXCommands} {m : LanXMessage}
    (h : ofCommand data c = some m) : m.command = some c := by
  cases c <;> simp only [ofCommand, Option.map_eq_some_iff, Option.some.injEq] at h
  all_goals
    obtain ⟨_, -, rfl⟩ := h
    rfl

/-- A body read as the command that its first bytes select. -/
def decode (data : List UInt8) : Option LanXMessage :=
  (LanX.selectCommand data).toOption.bind fun command =>
    match command with
    | some c => ofCommand data c
    | none => some unassigned

end LanXMessage

/-- The body of a LAN_X dataset ends in the checksum of what comes before. -/
def LanX.Intact (data : List UInt8) : Prop := data.getLast? = some (checksum data.dropLast)

instance (data : List UInt8) : Decidable (LanX.Intact data) :=
  inferInstanceAs (Decidable (data.getLast? = _))

theorem LanX.ne_nil_of_intact {data : List UInt8} (h : Intact data) : data ≠ [] := by
  rintro rfl
  cases h

theorem LanX.toOption_checkChecksum {data : List UInt8} (h : data ≠ []) :
    (checkChecksum data).toOption = some (decide (Intact data)) := by
  obtain ⟨last, hlast⟩ := Option.ne_none_iff_exists'.1 (mt List.getLast?_eq_none_iff.1 h)
  simp only [checkChecksum, toOption_bind, toOption_back, hlast, Option.bind_some, toOption_pure,
    Intact, Option.some.injEq]
  by_cases hc : checksum data.dropLast = last
  · simp [hc]
  · simp [hc, Ne.symm hc]

/-! ## Datasets -/

/-- A dataset, read by its id. The argument `none` stands for a payload that is rejected for its
length. -/
inductive Message
  | serialNumber (payload : Option LanGetSerialNumber)
  | code (payload : Option LanGetCode)
  | hwInfo (payload : Option LanGetHWInfo)
  | broadcastFlags (flags : LanGetBroadcastFlags)
  | locomode (mode : LanGetLocomode)
  | turnoutmode (mode : LanGetLocomode)
  | systemstate (payload : Option LanSystemstateDatachanged)
  | lanX (body : LanXMessage)
  /-- A LAN_X body with a bad checksum. -/
  | corrupted
  /-- An id without a handler. -/
  | unknown

def LanX.decode (data : List UInt8) : Option Message :=
  if data = [] then none
  else if Intact data then (LanXMessage.decode data).map .lanX
  else some .corrupted

def Dataset.message (d : Dataset) : Option Message :=
  match commandHandler? d.id with
  | some .lanGetSerialNumber => some (.serialNumber (LanGetSerialNumber.decode d.data))
  | some .lanGetCode => some (.code (LanGetCode.decode d.data))
  | some .lanGetHwinfo => (LanGetHWInfo.decode d.data).map .hwInfo
  | some .lanX => LanX.decode d.data
  | some .lanGetBroadcastflags => (LanGetBroadcastFlags.decode d.data).map .broadcastFlags
  | some .lanGetLocomode => (LanGetLocomode.decode d.data).map .locomode
  | some .lanGetTurnoutmode => (LanGetLocomode.decode d.data).map .turnoutmode
  | some .lanSystemstateDatachanged =>
    some (.systemstate (LanSystemstateDatachanged.decode d.data))
  | _ => some .unknown

/-! ## Which payloads are read to the end -/

/-- How far a LAN_X body must reach, by its header. -/
def LanX.minLength (header : UInt8) : ℕ :=
  if header = 0x43 then 4
  else if header = 0x44 then 5
  else if header = 0x61 then 2
  else if header = 0x64 then 5
  else if header = 0xef then 9
  else if header = 0xf3 then 4
  else 1

/-- A LAN_X body reaches as far as its command reads, and a version in it is not empty. -/
@[mk_iff] structure LanX.Complete (data : List UInt8) : Prop where
  minLength_le : minLength (data.headD 0) ≤ data.length
  version : data.head? = some 0xf3 → ∃ b ∈ (data.take 4).drop 2, b ≠ 0

instance (data : List UInt8) : Decidable (LanX.Complete data) :=
  decidable_of_iff _ (LanX.complete_iff data).symm

theorem LanXTurnoutInfo.isSome_decode_iff {data : List UInt8} :
    (decode data).isSome ↔ 4 ≤ data.length := by
  rcases data with _ | ⟨_, _ | ⟨_, _ | ⟨_, _ | ⟨_, _⟩⟩⟩⟩ <;> simp [decode]

theorem LanXExtAccessoryInfo.isSome_decode_iff {data : List UInt8} :
    (decode data).isSome ↔ 5 ≤ data.length := by
  rcases data with _ | ⟨_, _ | ⟨_, _ | ⟨_, _ | ⟨_, _ | ⟨_, _⟩⟩⟩⟩⟩ <;> simp [decode]

theorem LanXCvResult.isSome_decode_iff {data : List UInt8} :
    (decode data).isSome ↔ 5 ≤ data.length := by
  rcases data with _ | ⟨_, _ | ⟨_, _ | ⟨_, _ | ⟨_, _ | ⟨_, _⟩⟩⟩⟩⟩ <;> simp [decode]

theorem LanXLocoInfo.isSome_decode_iff {data : List UInt8} :
    (decode data).isSome ↔ 9 ≤ data.length := by
  rcases data with _ | ⟨h, _ | ⟨hi, _ | ⟨lo, _ | ⟨db2, _ | ⟨db3, _ | ⟨db4, _ | ⟨db5, _ | ⟨db6,
    _ | ⟨db7, rest⟩⟩⟩⟩⟩⟩⟩⟩⟩ <;> simp [decode]

theorem LanXGetFirmwareVersionResponse.isSome_decode_iff {data : List UInt8} :
    (decode data).isSome ↔ 4 ≤ data.length ∧ ∃ b ∈ (data.take 4).drop 2, b ≠ 0 := by
  rcases data with _ | ⟨_, _ | ⟨_, _ | ⟨_, _ | ⟨_, _⟩⟩⟩⟩ <;>
    simp [decode, bcdVersion_isSome_iff]

theorem LanGetHWInfo.isSome_decode_iff {data : List UInt8} :
    (decode data).isSome ↔ (data.length = 8 → ∃ b ∈ data.drop 4, b ≠ 0) := by
  unfold decode
  split
  · rw [Option.isSome_map, bcdVersion_isSome_iff]
    simp
    tauto
  · rename_i h
    refine iff_of_true rfl fun hl => ?_
    match data, hl with
    | [_, _, _, _, _, _, _, _], _ => exact (h _ _ _ _ _ _ _ _ rfl).elim

theorem LanGetBroadcastFlags.isSome_decode_iff {data : List UInt8} :
    (decode data).isSome ↔ 4 ≤ data.length := by
  rcases data with _ | ⟨_, _ | ⟨_, _ | ⟨_, _ | ⟨_, _⟩⟩⟩⟩ <;> simp [decode]

theorem LanGetLocomode.isSome_decode_iff {data : List UInt8} :
    (decode data).isSome ↔ 3 ≤ data.length := by
  rcases data with _ | ⟨_, _ | ⟨_, _ | ⟨_, _⟩⟩⟩ <;> simp [decode]

theorem LanX.complete_cons_iff {header : UInt8} {rest : List UInt8} :
    Complete (header :: rest) ↔ minLength header ≤ rest.length + 1 ∧
      (header = 0xf3 → ∃ b ∈ ((header :: rest).take 4).drop 2, b ≠ 0) :=
  ⟨fun h => ⟨h.1, fun hf => h.2 (by rw [hf]; rfl)⟩,
    fun h => ⟨h.1, fun hf => h.2 (Option.some.inj hf)⟩⟩

/-- A header whose command reads no further, or that has no command. -/
theorem LanX.complete_cons_of_minLength {header : UInt8} (rest : List UInt8)
    (h : minLength header = 1) : Complete (header :: rest) := by
  rw [complete_cons_iff, h]
  refine ⟨by omega, ?_⟩
  rintro rfl
  cases h

namespace LanXMessage

theorem decode_broadcast (rest : List UInt8) :
    (decode (0x61 :: rest)).isSome ↔ rest ≠ [] := by
  cases rest with
  | nil => exact iff_of_false (by decide) (by simp)
  | cons db0 rest =>
    have hselect : LanX.selectCommand (0x61 :: db0 :: rest) = .ok (LanX.broadcastCommand db0) := rfl
    refine iff_of_true ?_ (by simp)
    rw [decode, hselect, LanX.broadcastCommand]
    split_ifs <;> rfl

theorem decode_of_not_mem {header : UInt8} (rest : List UInt8)
    (h : header ∉ [0x43, 0x44, 0x61, 0x62, 0x63, 0x64, 0x81, 0xef, 0xf3]) :
    decode (header :: rest) = some unassigned := by
  simp only [List.mem_cons, List.not_mem_nil, or_false, not_or] at h
  obtain ⟨h₁, h₂, h₃, h₄, h₅, h₆, h₇, h₈, h₉⟩ := h
  have hread : readAt (header :: rest) 0 = .ok header := rfl
  rw [decode, LanX.selectCommand, hread, ok_bind, if_neg h₁, if_neg h₂, if_neg h₃, if_neg h₄,
    if_neg h₅, if_neg h₆, if_neg h₇, if_neg h₈, if_neg h₉]
  rfl

theorem isSome_decode_iff {data : List UInt8} (h : data ≠ []) :
    (decode data).isSome ↔ LanX.Complete data := by
  obtain ⟨header, rest, rfl⟩ := List.exists_cons_of_ne_nil h
  by_cases hm : header ∈ [0x43, 0x44, 0x61, 0x62, 0x63, 0x64, 0x81, 0xef, 0xf3]
  · simp only [List.mem_cons, List.not_mem_nil, or_false] at hm
    rcases hm with rfl | rfl | rfl | rfl | rfl | rfl | rfl | rfl | rfl
    · show (Option.map turnoutInfo _).isSome ↔ _
      rw [Option.isSome_map, LanXTurnoutInfo.isSome_decode_iff, LanX.complete_cons_iff]
      simp [LanX.minLength]
    · show (Option.map extAccessoryInfo _).isSome ↔ _
      rw [Option.isSome_map, LanXExtAccessoryInfo.isSome_decode_iff, LanX.complete_cons_iff]
      simp [LanX.minLength]
    · rw [decode_broadcast, LanX.complete_cons_iff, ← List.length_pos_iff]
      simp [LanX.minLength]
      omega
    · exact iff_of_true rfl (LanX.complete_cons_of_minLength rest rfl)
    · exact iff_of_true rfl (LanX.complete_cons_of_minLength rest rfl)
    · show (Option.map cvResult _).isSome ↔ _
      rw [Option.isSome_map, LanXCvResult.isSome_decode_iff, LanX.complete_cons_iff]
      simp [LanX.minLength]
    · exact iff_of_true rfl (LanX.complete_cons_of_minLength rest rfl)
    · show (Option.map locoInfo _).isSome ↔ _
      rw [Option.isSome_map, LanXLocoInfo.isSome_decode_iff, LanX.complete_cons_iff]
      simp [LanX.minLength]
    · show (Option.map getFirmwareVersionResponse _).isSome ↔ _
      rw [Option.isSome_map, LanXGetFirmwareVersionResponse.isSome_decode_iff,
        LanX.complete_cons_iff]
      simp [LanX.minLength]
  · rw [decode_of_not_mem rest hm]
    refine iff_of_true rfl (LanX.complete_cons_of_minLength rest ?_)
    simp only [List.mem_cons, List.not_mem_nil, or_false, not_or] at hm
    obtain ⟨h₁, h₂, h₃, -, -, h₆, -, h₈, h₉⟩ := hm
    rw [LanX.minLength, if_neg h₁, if_neg h₂, if_neg h₃, if_neg h₆, if_neg h₈, if_neg h₉]

end LanXMessage

/-- The payload of a dataset reaches as far as its handler reads. -/
@[mk_iff] structure Dataset.Decodable (d : Dataset) : Prop where
  hwInfo : d.id = DataSet.lanGetHwinfo.id → d.data.length = 8 → ∃ b ∈ d.data.drop 4, b ≠ 0
  broadcastFlags : d.id = DataSet.lanGetBroadcastflags.id → 4 ≤ d.data.length
  locomode : d.id = DataSet.lanGetLocomode.id → 3 ≤ d.data.length
  turnoutmode : d.id = DataSet.lanGetTurnoutmode.id → 3 ≤ d.data.length
  lanX : d.id = DataSet.lanX.id → d.data ≠ [] ∧ (LanX.Intact d.data → LanX.Complete d.data)

instance (d : Dataset) : Decidable d.Decodable := decidable_of_iff _ d.decodable_iff.symm

theorem LanX.isSome_decode_iff {data : List UInt8} :
    (decode data).isSome ↔ data ≠ [] ∧ (Intact data → Complete data) := by
  unfold decode
  by_cases h : data = []
  · simp [h]
  · rw [if_neg h]
    by_cases hi : Intact data
    · rw [if_pos hi, Option.isSome_map, LanXMessage.isSome_decode_iff h]
      simp [h, hi]
    · simp [h, hi]

theorem DataSet.id_injective {ds ds' : DataSet} (h : ds.id = ds'.id) : ds = ds' := by
  cases ds <;> cases ds' <;> first | rfl | cases h

theorem commandHandler?_cases (id : UInt16) :
    (∃ ds ∈ registered, id = ds.id ∧ commandHandler? id = some ds) ∨
      (∀ ds ∈ registered, id ≠ ds.id) ∧ commandHandler? id = none := by
  cases h : commandHandler? id with
  | none =>
    refine .inr ⟨fun ds hds hid => ?_, rfl⟩
    have := List.find?_eq_none.1 h ds hds
    simp [hid] at this
  | some ds =>
    have hid := List.find?_some h
    exact .inl ⟨ds, List.mem_of_find?_eq_some h, (by simpa using hid : ds.id = id).symm, rfl⟩

/-- **A dataset is read without leaving its payload exactly when it is decodable.** -/
theorem Dataset.message_isSome_iff {d : Dataset} : d.message.isSome ↔ d.Decodable := by
  rw [decodable_iff, message]
  rcases commandHandler?_cases d.id with ⟨ds, hds, hid, hc⟩ | ⟨hid, hc⟩
  · rw [hc, hid]
    simp only [registered, List.mem_cons, List.not_mem_nil, or_false] at hds
    rcases hds with rfl | rfl | rfl | rfl | rfl | rfl | rfl | rfl
    · simp [DataSet.id]
    · simp [DataSet.id]
    · simp [DataSet.id, LanGetHWInfo.isSome_decode_iff]
    · simp [DataSet.id, LanGetBroadcastFlags.isSome_decode_iff]
    · simp [DataSet.id, LanGetLocomode.isSome_decode_iff]
    · simp [DataSet.id, LanGetLocomode.isSome_decode_iff]
    · simp [DataSet.id]
    · simp only [LanX.isSome_decode_iff]
      simp [DataSet.id]
  · rw [hc]
    simp only [registered, List.mem_cons, List.not_mem_nil, or_false, forall_eq_or_imp,
      forall_eq] at hid
    simp [hid]

/-! ## Datasets that say nothing -/

/-- A LAN_X dataset whose last byte is not the checksum of the bytes before it. -/
@[mk_iff] structure Dataset.Corrupted (d : Dataset) : Prop where
  id_eq : d.id = DataSet.lanX.id
  ne_nil : d.data ≠ []
  not_intact : ¬LanX.Intact d.data

instance : DecidablePred Dataset.Corrupted := fun d => decidable_of_iff _ d.corrupted_iff.symm

theorem Dataset.message_eq_corrupted_iff {d : Dataset} :
    d.message = some .corrupted ↔ d.Corrupted := by
  rw [message]
  rcases commandHandler?_cases d.id with ⟨ds, -, hid, hc⟩ | ⟨hid, hc⟩
  · rw [hc]
    by_cases hds : ds = .lanX
    · subst hds
      show LanX.decode d.data = some .corrupted ↔ _
      unfold LanX.decode
      split_ifs with hnil hi
      · exact iff_of_false (by simp) fun h => h.ne_nil hnil
      · exact iff_of_false (by simp) fun h => h.not_intact hi
      · exact iff_of_true rfl ⟨hid, hnil, hi⟩
    · refine iff_of_false ?_ fun h => hds (DataSet.id_injective (hid.symm.trans h.id_eq))
      cases ds with
      | lanX => exact absurd rfl hds
      | _ => simp
  · rw [hc]
    exact iff_of_false (by simp) fun h => hid .lanX (by decide) h.id_eq

/-- The payload length that the handler of an id requires, if it requires one. -/
def DataSet.requiredLength : DataSet → Option ℕ
  | lanGetSerialNumber => some 4
  | lanGetCode => some 1
  | lanGetHwinfo => some 8
  | lanSystemstateDatachanged => some 16
  | _ => none

/-- A dataset whose payload does not have the length that its handler requires. -/
def Dataset.Rejected (d : Dataset) : Prop :=
  ∃ ds n, d.id = DataSet.id ds ∧ ds.requiredLength = some n ∧ d.data.length ≠ n

instance : DecidablePred Dataset.Rejected := fun d =>
  decidable_of_iff (registered.any fun ds =>
    ds.id == d.id && ds.requiredLength.any (· != d.data.length)) <| by
    rw [List.any_eq_true]
    constructor
    · rintro ⟨ds, -, h⟩
      obtain ⟨hid, hlen⟩ := Bool.and_eq_true_iff.1 h
      obtain ⟨n, hn, hne⟩ := (Option.any_eq_true _ _).1 hlen
      exact ⟨ds, n, (eq_of_beq hid).symm, hn, (bne_iff_ne.1 hne).symm⟩
    · rintro ⟨ds, n, hid, hn, hne⟩
      have hmem : ds ∈ registered := by
        cases ds <;> first | decide | cases hn
      exact ⟨ds, hmem, by simp [hid, hn, hne.symm]⟩

/-- A message made of a rejected payload. -/
def Message.isRejected : Message → Bool
  | serialNumber payload => payload.isNone
  | code payload => payload.isNone
  | hwInfo payload => payload.isNone
  | systemstate payload => payload.isNone
  | _ => false

theorem LanGetSerialNumber.decode_eq_none_iff {data : List UInt8} :
    decode data = none ↔ data.length ≠ 4 := by
  rcases data with _ | ⟨_, _ | ⟨_, _ | ⟨_, _ | ⟨_, _ | ⟨_, _⟩⟩⟩⟩⟩ <;> simp [decode]

theorem LanGetCode.decode_eq_none_iff {data : List UInt8} :
    decode data = none ↔ data.length ≠ 1 := by
  rcases data with _ | ⟨_, _ | ⟨_, _⟩⟩ <;> simp [decode]

theorem LanGetHWInfo.decode_of_length_ne {data : List UInt8} (h : data.length ≠ 8) :
    decode data = some none := by
  unfold decode
  split
  · exact absurd rfl h
  · rfl

theorem LanGetHWInfo.eq_none_iff_of_decode {data : List UInt8} {payload : Option LanGetHWInfo}
    (h : decode data = some payload) : payload = none ↔ data.length ≠ 8 := by
  by_cases hl : data.length = 8
  · match data, hl with
    | [_, _, _, _, _, _, _, _], _ =>
      obtain ⟨_, -, rfl⟩ := Option.map_eq_some_iff.1 h
      simp
  · rw [decode_of_length_ne hl] at h
    cases h
    exact iff_of_true rfl hl

theorem LanSystemstateDatachanged.decode_eq_none_iff {data : List UInt8} :
    decode data = none ↔ data.length ≠ 16 := by
  unfold decode
  split
  · simp
  · rename_i hne
    refine iff_of_true rfl fun hl => ?_
    match data, hl with
    | [_, _, _, _, _, _, _, _, _, _, _, _, _, _, _, _], _ =>
      exact hne _ _ _ _ _ _ _ _ _ _ _ _ _ _ _ _ rfl

theorem Dataset.rejected_iff_of_id {d : Dataset} {ds : DataSet} (h : d.id = ds.id) :
    d.Rejected ↔ ∃ n, ds.requiredLength = some n ∧ d.data.length ≠ n := by
  constructor
  · rintro ⟨ds', n, hid, hn, hne⟩
    obtain rfl := DataSet.id_injective (h.symm.trans hid)
    exact ⟨n, hn, hne⟩
  · rintro ⟨n, hn, hne⟩
    exact ⟨ds, n, h, hn, hne⟩

theorem Dataset.rejected_iff {d : Dataset} {m : Message} (hm : d.message = some m) :
    d.Rejected ↔ m.isRejected := by
  rw [message] at hm
  rcases commandHandler?_cases d.id with ⟨ds, hds, hid, hc⟩ | ⟨hid, hc⟩
  · rw [hc] at hm
    rw [rejected_iff_of_id hid]
    simp only [registered, List.mem_cons, List.not_mem_nil, or_false] at hds
    rcases hds with rfl | rfl | rfl | rfl | rfl | rfl | rfl | rfl
    · cases hm
      simp [DataSet.requiredLength, Message.isRejected, LanGetSerialNumber.decode_eq_none_iff]
    · cases hm
      simp [DataSet.requiredLength, Message.isRejected, LanGetCode.decode_eq_none_iff]
    · obtain ⟨payload, hp, rfl⟩ := Option.map_eq_some_iff.1 hm
      simp [DataSet.requiredLength, Message.isRejected, LanGetHWInfo.eq_none_iff_of_decode hp]
    · obtain ⟨_, -, rfl⟩ := Option.map_eq_some_iff.1 hm
      simp [DataSet.requiredLength, Message.isRejected]
    · obtain ⟨_, -, rfl⟩ := Option.map_eq_some_iff.1 hm
      simp [DataSet.requiredLength, Message.isRejected]
    · obtain ⟨_, -, rfl⟩ := Option.map_eq_some_iff.1 hm
      simp [DataSet.requiredLength, Message.isRejected]
    · cases hm
      simp [DataSet.requiredLength, Message.isRejected,
        LanSystemstateDatachanged.decode_eq_none_iff]
    · have hm : LanX.decode d.data = some m := hm
      unfold LanX.decode at hm
      split_ifs at hm
      · obtain ⟨_, -, rfl⟩ := Option.map_eq_some_iff.1 hm
        simp [DataSet.requiredLength, Message.isRejected]
      · cases hm
        simp [DataSet.requiredLength, Message.isRejected]
  · rw [hc] at hm
    cases hm
    refine iff_of_false ?_ (by simp [Message.isRejected])
    rintro ⟨ds, n, hds, hn, -⟩
    cases ds <;> first | exact hid _ (by decide) hds | cases hn

end TrainPP
