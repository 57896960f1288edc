import TrainPP.Properties.Delivery
import TrainPP.Properties.Replays

/-!
# Fields of the status that are copied from a handler

A handler and the field of the status that shows what it holds are a mirrored register, and the
messages of its kind act on it by moves: an accepted one loads it, and a dropped one copies what the
handler holds once more. `Mirror.Faithful` says so of a field, and `Mirror.Exclusive` says that the
field has no other writer.

An accepted dataset determines such a field, whatever was received before
(`Mirror.Faithful.pair_eq_of_accepted`). Without one, an exclusive field shows at most what its
handler held before (`Mirror.Exclusive.pair_eq_of_not_accepted`).
-/

namespace TrainPP

open Checked LastWriter Runs

/-! ## Mirrored registers of the client -/

/-- A field of the status that is copied from a handler. -/
structure Mirror (α : Type) where
  /-- The kind of the handler. -/
  kind : DataSet
  /-- What the handler holds, and what the status shows. -/
  pair : Z21 → α × α
  move : Message → Move α

namespace Mirror

variable {α : Type} {M : Mirror α} {ds : List Dataset} {z z' : Z21}

/-- What a dataset does to the field. -/
def moveOf (M : Mirror α) (d : Dataset) : Move α := d.message.elim .keep M.move

/-- Messages move the field, and an accepted one of its kind loads it. -/
structure Faithful (M : Mirror α) : Prop where
  receive : ∀ z m, m ≠ .corrupted → M.pair (z.receive m) = (M.move m).apply (M.pair z)
  load : ∀ m, m.kind = some M.kind → m.isDropped = false → ∃ a, M.move m = .load a

/-- Only messages of its kind move the field. -/
structure Exclusive (M : Mirror α) : Prop extends Faithful M where
  runCommand : ∀ z, M.pair z.runCommand = M.pair z
  copy : ∀ m, m.kind = some M.kind → m.isDropped → M.move m = .copy
  keep : ∀ m, m.kind ≠ some M.kind → M.move m = .keep

theorem Faithful.pair_runAll (hM : M.Faithful) (hs : ∀ d ∈ ds, ¬d.Corrupted)
    (h : runAll Z21.handleDataset z ds = .ok z') :
    M.pair z' = Move.run (ds.map M.moveOf) (M.pair z) := by
  rw [Move.run, List.foldl_map]
  refine runAll_simulates (fun d hd z z' hz => ?_) h
  obtain ⟨m, hm, rfl⟩ := Z21.handleDataset_eq_ok_iff.1 hz
  rw [hM.receive z m fun hc => hs d hd (Dataset.message_eq_corrupted_iff.1 (hc ▸ hm)), moveOf, hm]
  rfl

theorem Faithful.exists_moveOf (hM : M.Faithful) {d : Dataset} (hdec : d.Decodable)
    (hk : d.kind = some M.kind) (hdrop : ¬d.Dropped) : ∃ a, M.moveOf d = .load a := by
  obtain ⟨m, hm⟩ := Option.isSome_iff_exists.1 (Dataset.message_isSome_iff.2 hdec)
  obtain ⟨a, ha⟩ := hM.load m ((Dataset.kind_message hm).trans hk)
    (by simpa using mt (Dataset.dropped_iff hm).2 hdrop)
  exact ⟨a, by rw [moveOf, hm, Option.elim_some, ha]⟩

/-- **An accepted dataset determines the field**, whatever was received before. -/
theorem Faithful.pair_eq_of_accepted {z₁ z₂ z₁' z₂' : Z21} (hM : M.Faithful)
    (hs : ∀ d ∈ ds, d.Sound) (hacc : ∃ d ∈ ds, d.kind = some M.kind ∧ ¬d.Dropped)
    (h₁ : runAll Z21.handleDataset z₁ ds = .ok z₁')
    (h₂ : runAll Z21.handleDataset z₂ ds = .ok z₂') : M.pair z₁' = M.pair z₂' := by
  have hnc : ∀ d ∈ ds, ¬d.Corrupted := fun d hd hc => hc.not_intact ((hs d hd).intact hc.id_eq)
  obtain ⟨d, hd, hk, hdrop⟩ := hacc
  obtain ⟨a, ha⟩ := hM.exists_moveOf (hs d hd).decodable hk hdrop
  rw [hM.pair_runAll hnc h₁, hM.pair_runAll hnc h₂]
  exact Move.run_of_load (List.mem_map.2 ⟨d, hd, ha⟩) _ _

namespace Exclusive

theorem move_corrupted (hM : M.Exclusive) (hk : M.kind ≠ .lanX) : M.move .corrupted = .keep :=
  hM.keep .corrupted fun h => hk (Option.some.inj h).symm

/-- A corrupted LAN_X body does not move the field either. -/
theorem pair_runAll (hM : M.Exclusive) (hk : M.kind ≠ .lanX)
    (h : runAll Z21.handleDataset z ds = .ok z') :
    M.pair z' = Move.run (ds.map M.moveOf) (M.pair z) := by
  rw [Move.run, List.foldl_map]
  refine runAll_simulates (fun d _ z z' hz => ?_) h
  obtain ⟨m, hm, rfl⟩ := Z21.handleDataset_eq_ok_iff.1 hz
  rw [moveOf, hm, Option.elim_some]
  by_cases hc : m = .corrupted
  · rw [hc, hM.move_corrupted hk]
    exact hM.runCommand z
  · exact hM.receive z m hc

theorem moveOf_of_ne (hM : M.Exclusive) {d : Dataset} (hk : d.kind ≠ some M.kind) :
    M.moveOf d = .keep := by
  rw [moveOf]
  cases hm : d.message with
  | none => rfl
  | some m => exact hM.keep m (by rwa [Dataset.kind_message hm])

theorem moveOf_of_dropped (hM : M.Exclusive) {d : Dataset} (hk : d.kind = some M.kind)
    (hdrop : d.Dropped) : M.moveOf d = .copy := by
  obtain ⟨m, hm, hd⟩ := hdrop.exists_message
  rw [moveOf, hm]
  exact hM.copy m ((Dataset.kind_message hm).trans hk) hd

/-- A dataset that is not accepted keeps the field, or copies it once more. -/
theorem moveOf_of_not_accepted (hM : M.Exclusive) {d : Dataset}
    (h : ¬(d.kind = some M.kind ∧ ¬d.Dropped)) : M.moveOf d = .keep ∨ M.moveOf d = .copy := by
  by_cases hk : d.kind = some M.kind
  · exact .inr (hM.moveOf_of_dropped hk (by simpa [hk] using h))
  · exact .inl (hM.moveOf_of_ne hk)

/-- Without an accepted dataset, the field stays what the handler held. -/
theorem pair_eq_of_not_accepted (hM : M.Exclusive) (hk : M.kind ≠ .lanX)
    (hacc : ¬∃ d ∈ ds, d.kind = some M.kind ∧ ¬d.Dropped)
    (h : runAll Z21.handleDataset z ds = .ok z') {a : α} (ha : M.pair z = (a, a)) :
    M.pair z' = (a, a) := by
  rw [hM.pair_runAll hk h, ha]
  refine Move.run_of_held ?_ a
  simp only [List.forall_mem_map]
  exact fun d hd => hM.moveOf_of_not_accepted fun hd' => hacc ⟨d, hd, hd'⟩

end Exclusive

end Mirror

/-! ## The fields -/

namespace Mirror

def serialNumber : Mirror UInt32 :=
  ⟨.lanGetSerialNumber, fun z => z.registers.serialNumber, fun m => m.effect.serialNumber⟩

def code : Mirror UInt8 := ⟨.lanGetCode, fun z => z.registers.code, fun m => m.effect.code⟩

def hwType : Mirror UInt32 := ⟨.lanGetHwinfo, fun z => z.registers.hwType, fun m => m.effect.hwType⟩

def fwVersion : Mirror String :=
  ⟨.lanGetHwinfo, fun z => z.registers.fwVersion, fun m => m.effect.fwVersion⟩

def measurements : Mirror Measurements :=
  ⟨.lanSystemstateDatachanged, fun z => z.registers.measurements, fun m => m.effect.measurements⟩

def emergencyStop : Mirror Bool :=
  ⟨.lanSystemstateDatachanged, fun z => z.registers.emergencyStop, fun m => m.effect.emergencyStop⟩

def trackVoltageOff : Mirror Bool :=
  ⟨.lanSystemstateDatachanged, fun z => z.registers.trackVoltageOff,
    fun m => m.effect.trackVoltageOff⟩

def shortCirtcuit : Mirror Bool :=
  ⟨.lanSystemstateDatachanged, fun z => z.registers.shortCirtcuit, fun m => m.effect.shortCirtcuit⟩

def programmingMode : Mirror Bool :=
  ⟨.lanSystemstateDatachanged, fun z => z.registers.programmingMode,
    fun m => m.effect.programmingMode⟩

section Field

variable {α : Type} {kind : DataSet} {field : Registers → α × α} {move : Effect → Move α}
  (happly : ∀ (e : Effect) (r : Registers), field (e.apply r) = (move e).apply (field r))
include happly

/-- A field of the registers that the datasets of a kind load. -/
theorem faithful_of_field (hload : ∀ m : Message, m.kind = some kind → m.isDropped = false →
      ∃ a, move m.effect = .load a) :
    (⟨kind, fun z => field z.registers, fun m => move m.effect⟩ : Mirror α).Faithful where
  receive z m h := by
    show field (z.receive m).registers = _
    rw [Z21.receive_of_ne h, Registers.registers_toZ21]
    exact happly m.effect z.registers
  load := hload

/-- A field of the registers that only the datasets of a kind move. -/
theorem exclusive_of_field (hrun : ∀ z : Z21, field z.runCommand.registers = field z.registers)
    (hpayload : ∀ m : Message, m.kind = some kind →
      ∃ payload, move m.effect = .ofPayload payload ∧ m.isDropped = payload.isNone)
    (hkeep : ∀ m : Message, m.kind ≠ some kind → move m.effect = .keep) :
    (⟨kind, fun z => field z.registers, fun m => move m.effect⟩ : Mirror α).Exclusive where
  toFaithful := faithful_of_field happly fun m hk hd => by
    obtain ⟨_ | a, hmove, hdrop⟩ := hpayload m hk
    · rw [hd] at hdrop
      cases hdrop
    · exact ⟨a, hmove⟩
  runCommand := hrun
  copy m hk hd := by
    obtain ⟨_ | a, hmove, hdrop⟩ := hpayload m hk
    · exact hmove
    · rw [hd] at hdrop
      cases hdrop
  keep := hkeep

end Field

/-- A command of LAN_X writes the firmware version and the mode flags only. -/
theorem registers_runCommand (z : Z21) :
    z.runCommand.registers.serialNumber = z.registers.serialNumber ∧
      z.runCommand.registers.code = z.registers.code ∧
      z.runCommand.registers.hwType = z.registers.hwType ∧
      z.runCommand.registers.measurements = z.registers.measurements := by
  rw [Z21.runCommand]
  rcases z.commandHandlers.lanX.mCommand with _ | c
  · exact ⟨rfl, rfl, rfl, rfl⟩
  · cases c <;> exact ⟨rfl, rfl, rfl, rfl⟩

theorem exclusive_serialNumber : serialNumber.Exclusive := by
  refine exclusive_of_field (fun _ _ => rfl) (fun z => (registers_runCommand z).1) ?_ ?_
  · intro m hk
    cases m with
    | serialNumber payload => exact ⟨payload.map (·.serialNumber), rfl, by cases payload <;> rfl⟩
    | _ => cases hk
  · intro m hk
    cases m with
    | serialNumber payload => exact absurd rfl hk
    | lanX body => cases body <;> rfl
    | _ => rfl

theorem exclusive_code : code.Exclusive := by
  refine exclusive_of_field (fun _ _ => rfl) (fun z => (registers_runCommand z).2.1) ?_ ?_
  · intro m hk
    cases m with
    | code payload => exact ⟨payload.map (·.code), rfl, by cases payload <;> rfl⟩
    | _ => cases hk
  · intro m hk
    cases m with
    | code payload => exact absurd rfl hk
    | lanX body => cases body <;> rfl
    | _ => rfl

theorem exclusive_hwType : hwType.Exclusive := by
  refine exclusive_of_field (fun _ _ => rfl) (fun z => (registers_runCommand z).2.2.1) ?_ ?_
  · intro m hk
    cases m with
    | hwInfo payload => exact ⟨payload.map (·.hwType), rfl, by cases payload <;> rfl⟩
    | _ => cases hk
  · intro m hk
    cases m with
    | hwInfo payload => exact absurd rfl hk
    | lanX body => cases body <;> rfl
    | _ => rfl

theorem exclusive_measurements : measurements.Exclusive := by
  refine exclusive_of_field (fun _ _ => rfl) (fun z => (registers_runCommand z).2.2.2) ?_ ?_
  · intro m hk
    cases m with
    | systemstate payload => exact ⟨payload.map (·.measurements), rfl, by cases payload <;> rfl⟩
    | _ => cases hk
  · intro m hk
    cases m with
    | systemstate payload => exact absurd rfl hk
    | lanX body => cases body <;> rfl
    | _ => rfl

/-- LAN_X writes the firmware version too, but does not load it. -/
theorem faithful_fwVersion : fwVersion.Faithful := by
  refine faithful_of_field (fun _ _ => rfl) fun m hk hd => ?_
  cases m with
  | hwInfo payload =>
    cases payload with
    | none => cases hd
    | some payload => exact ⟨_, rfl⟩
  | _ => cases hk

/-- LAN_X sets the mode flags too, but only a system state loads them. -/
theorem faithful_of_flag (flag : Registers → Bool × Bool) (move : Effect → Move Bool)
    (happly : ∀ (e : Effect) (r : Registers), flag (e.apply r) = (move e).apply (flag r))
    (hload : ∀ self, ∃ b, move (Message.systemstate (some self)).effect = .load b) :
    (⟨.lanSystemstateDatachanged, fun z => flag z.registers, fun m => move m.effect⟩ :
      Mirror Bool).Faithful := by
  refine faithful_of_field happly fun m hk hd => ?_
  cases m with
  | systemstate payload =>
    cases payload with
    | none => cases hd
    | some payload => exact hload payload
  | _ => cases hk

theorem faithful_emergencyStop : emergencyStop.Faithful :=
  faithful_of_flag Registers.emergencyStop Effect.emergencyStop (fun _ _ => rfl) fun _ => ⟨_, rfl⟩

theorem faithful_trackVoltageOff : trackVoltageOff.Faithful :=
  faithful_of_flag Registers.trackVoltageOff Effect.trackVoltageOff (fun _ _ => rfl)
    fun _ => ⟨_, rfl⟩

theorem faithful_shortCirtcuit : shortCirtcuit.Faithful :=
  faithful_of_flag Registers.shortCirtcuit Effect.shortCirtcuit (fun _ _ => rfl) fun _ => ⟨_, rfl⟩

theorem faithful_programmingMode : programmingMode.Faithful :=
  faithful_of_flag Registers.programmingMode Effect.programmingMode (fun _ _ => rfl)
    fun _ => ⟨_, rfl⟩

end Mirror

end TrainPP
