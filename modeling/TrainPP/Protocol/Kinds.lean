import TrainPP.Foundations.Traces
import TrainPP.Protocol.Refinement

/-!
# Kinds of datasets

The kind of a dataset is the handler that its id selects. Each kind writes its own handler, and the
fields of the status that this handler is copied to. Only LAN_X shares fields with other kinds: the
firmware version with the hardware info, and the mode flags with the system state (`Dependent`).
Datasets of independent kinds commute in every state of the client, whatever their payloads are
(`commute_of_not_dependent`).

A dataset is dropped when its checksum is bad or its payload does not have the required length. What
it then does depends on the handler of its kind only.
-/

namespace TrainPP

open Checked Runs Traces

/-! ## Kinds -/

/-- The handler that a dataset is for. -/
def Dataset.kind (d : Dataset) : Option DataSet := commandHandler? d.id

def Message.kind : Message → Option DataSet
  | serialNumber _ => some .lanGetSerialNumber
  | code _ => some .lanGetCode
  | hwInfo _ => some .lanGetHwinfo
  | broadcastFlags _ => some .lanGetBroadcastflags
  | locomode _ => some .lanGetLocomode
  | turnoutmode _ => some .lanGetTurnoutmode
  | systemstate _ => some .lanSystemstateDatachanged
  | lanX _ => some .lanX
  | corrupted => some .lanX
  | unknown => none

theorem LanX.kind_of_decode {data : List UInt8} {m : Message} (h : LanX.decode data = some m) :
    m.kind = some .lanX := by
  unfold LanX.decode at h
  split_ifs at h
  · obtain ⟨_, -, rfl⟩ := Option.map_eq_some_iff.1 h
    rfl
  · cases h
    rfl

/-- A message has the kind of its dataset. -/
theorem Dataset.kind_message {d : Dataset} {m : Message} (h : d.message = some m) :
    m.kind = d.kind := by
  rw [message] at h
  rw [kind]
  rcases commandHandler?_cases d.id with ⟨ds, hds, -, hc⟩ | ⟨-, hc⟩
  · rw [hc] at h ⊢
    simp only [registered, List.mem_cons, List.not_mem_nil, or_false] at hds
    rcases hds with rfl | rfl | rfl | rfl | rfl | rfl | rfl | rfl
    · cases h
      rfl
    · cases h
      rfl
    · obtain ⟨_, -, rfl⟩ := Option.map_eq_some_iff.1 h
      rfl
    · obtain ⟨_, -, rfl⟩ := Option.map_eq_some_iff.1 h
      rfl
    · obtain ⟨_, -, rfl⟩ := Option.map_eq_some_iff.1 h
      rfl
    · obtain ⟨_, -, rfl⟩ := Option.map_eq_some_iff.1 h
      rfl
    · cases h
      rfl
    · exact LanX.kind_of_decode h
  · rw [hc] at h ⊢
    cases h
    rfl

/-- A dataset with the id of a handler has its kind. -/
theorem Dataset.kind_of_id {d : Dataset} {ds : DataSet} (hds : ds ∈ registered)
    (h : d.id = ds.id) : d.kind = some ds := by
  rcases commandHandler?_cases d.id with ⟨ds', -, hid, hc⟩ | ⟨hid, -⟩
  · rw [kind, hc, DataSet.id_injective (hid.symm.trans h)]
  · exact absurd h (hid ds hds)

theorem Dataset.id_of_kind {d : Dataset} {ds : DataSet} (h : d.kind = some ds) : d.id = ds.id := by
  rcases commandHandler?_cases d.id with ⟨ds', -, hid, hc⟩ | ⟨-, hc⟩
  · rw [kind, hc] at h
    rw [hid, Option.some.inj h]
  · rw [kind, hc] at h
    cases h

/-! ## Dependent kinds -/

/-- Kinds that write a field in common: a kind and itself, and LAN_X with the hardware info and
with the system state. -/
def Dependent (k k' : Option DataSet) : Prop :=
  k = k' ∨
    (k = some .lanX ∧ (k' = some .lanGetHwinfo ∨ k' = some .lanSystemstateDatachanged)) ∨
    (k' = some .lanX ∧ (k = some .lanGetHwinfo ∨ k = some .lanSystemstateDatachanged))

instance (k k' : Option DataSet) : Decidable (Dependent k k') :=
  inferInstanceAs (Decidable (_ ∨ _))

theorem Dependent.refl (k : Option DataSet) : Dependent k k := .inl rfl

theorem Dependent.symm {k k' : Option DataSet} (h : Dependent k k') : Dependent k' k :=
  h.imp Eq.symm Or.symm

namespace Z21

/-- The client after the LAN_X handler has stored an accepted body. -/
def storeBody (z : Z21) (body : LanXMessage) : Z21 :=
  { z with commandHandlers.lanX :=
      ({ z.commandHandlers.lanX with mCommand := body.command } : LanX).store body }

theorem runCommand_storeBody (z : Z21) (body : LanXMessage) :
    (z.storeBody body).runCommand = z.receive (.lanX body) :=
  z.runCommand_store body

section Independent

variable {m : Message} (h : ¬Dependent (some .lanX) m.kind)
include h

/-- A message of a kind independent of LAN_X is received as if there was no LAN_X handler. -/
theorem receive_storeBody_comm (z : Z21) (body : LanXMessage) :
    (z.receive m).storeBody body = (z.storeBody body).receive m := by
  cases m with
  | lanX body => exact absurd (.refl _) h
  | corrupted => exact absurd (.refl _) h
  | _ => rfl

theorem receive_runCommand_comm (z : Z21) : (z.receive m).runCommand = z.runCommand.receive m := by
  have hx : (z.receive m).commandHandlers.lanX = z.commandHandlers.lanX := by
    cases m with
    | lanX body => exact absurd (.refl _) h
    | corrupted => exact absurd (.refl _) h
    | _ => rfl
  rw [runCommand, runCommand, hx]
  rcases z.commandHandlers.lanX.mCommand with _ | c
  · rfl
  · show (z.receive m).handleLanxCommand c = (z.handleLanxCommand c).receive m
    cases m with
    | lanX body => exact absurd (.refl _) h
    | corrupted => exact absurd (.refl _) h
    | hwInfo payload => exact absurd (.inr (.inl ⟨rfl, .inl rfl⟩)) h
    | systemstate payload => exact absurd (.inr (.inl ⟨rfl, .inr rfl⟩)) h
    | _ => cases c <;> rfl

theorem receive_lanX_comm {m' : Message} (hm' : m'.kind = some .lanX) (z : Z21) :
    (z.receive m).receive m' = (z.receive m').receive m := by
  cases m' with
  | corrupted => exact receive_runCommand_comm h z
  | lanX body =>
    rw [← runCommand_storeBody, ← runCommand_storeBody, receive_storeBody_comm h,
      receive_runCommand_comm h]
  | _ => cases hm'

end Independent

/-- **Messages of independent kinds commute.** -/
theorem receive_comm {m m' : Message} (h : ¬Dependent m.kind m'.kind) (z : Z21) :
    (z.receive m).receive m' = (z.receive m').receive m := by
  by_cases hm : m.kind = some .lanX
  · rw [hm] at h
    exact (receive_lanX_comm h hm z).symm
  by_cases hm' : m'.kind = some .lanX
  · rw [hm'] at h
    exact receive_lanX_comm (mt Dependent.symm h) hm' z
  cases m with
  | lanX body => exact absurd rfl hm
  | corrupted => exact absurd rfl hm
  | _ =>
    cases m' with
    | lanX body => exact absurd rfl hm'
    | corrupted => exact absurd rfl hm'
    | _ => first | exact absurd (.refl _) h | rfl

/-- **Datasets of independent kinds commute**, in every state of the client. -/
theorem commute_of_not_dependent {d e : Dataset} (h : ¬Dependent d.kind e.kind) :
    Commute handleDataset d e := by
  intro z
  simp only [toOption_handleDataset]
  cases hd : d.message with
  | none =>
    cases he : e.message <;> rfl
  | some m =>
    cases he : e.message with
    | none => rfl
    | some m' =>
      rw [← Dataset.kind_message hd, ← Dataset.kind_message he] at h
      exact congrArg some (receive_comm h z)

end Z21

end TrainPP
