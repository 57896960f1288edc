import TrainPP.Properties.Replays

/-!
# The mode flags of the status

LAN_X broadcasts set the flags of an emergency stop, of a short circuit, of the programming mode and
of an invalid request, and no broadcast clears them. Only a system state does, and nothing clears
the flag of an invalid request. A flag that was set before stays set, and between two system states
a flag is set exactly by its broadcast, received or run once more by a corrupted body
(`Z21.latches`).

So where the central state of the last system state says that one of these modes holds, the status
never denies it, whatever came since; and where the status says otherwise than the central state, a
broadcast came that says so (`Z21.mode_of_centralState`).
-/

namespace TrainPP

open Checked Runs Words

/-! ## Latches -/

/-- The modes that a broadcast sets and no broadcast clears. -/
inductive Latch
  | emergencyStop
  | shortCirtcuit
  | programmingMode
  | invalidRequest
  deriving DecidableEq

namespace Latch

/-- The flag of the status. -/
def flag : Latch → Z21Status → Bool
  | emergencyStop, s => s.mode.emergencyStop
  | shortCirtcuit, s => s.mode.shortCirtcuit
  | programmingMode, s => s.mode.programmingMode
  | invalidRequest, s => s.mode.invalidRequest

/-- The broadcast that sets the flag. -/
def broadcast : Latch → LanXMessage
  | emergencyStop => .bcStopped
  | shortCirtcuit => .bcTrackShortCircuit
  | programmingMode => .bcProgrammingMode
  | invalidRequest => .unknownCommand

/-- The bit of the central state, which has none for an invalid request. -/
def mask : Latch → UInt8
  | emergencyStop => 0x01
  | shortCirtcuit => 0x04
  | programmingMode => 0x20
  | invalidRequest => 0x00

/-- A kind whose datasets may clear the flag. -/
def ClearedBy (l : Latch) (k : Option DataSet) : Prop :=
  l ≠ invalidRequest ∧ k = some .lanSystemstateDatachanged

instance (l : Latch) (k : Option DataSet) : Decidable (l.ClearedBy k) :=
  inferInstanceAs (Decidable (_ ∧ _))

/-- A message that cannot clear the flag sets it if it is the broadcast, and else leaves it. -/
theorem flag_update_iff (l : Latch) {m : Message} (h : ¬l.ClearedBy m.kind) (s : Z21Status) :
    l.flag (s.update m.report) = true ↔ l.flag s = true ∨ m = .lanX l.broadcast := by
  have hkeep : ∀ b : Bool, ¬m = .lanX l.broadcast → b = l.flag s →
      (b = true ↔ l.flag s = true ∨ m = .lanX l.broadcast) := by
    rintro b hne rfl
    simp [hne]
  cases m with
  | systemstate payload =>
    cases l with
    | invalidRequest =>
      refine hkeep _ (fun h => Message.noConfusion h) ?_
      cases payload <;> rfl
    | _ => exact absurd ⟨fun h => Latch.noConfusion h, rfl⟩ h
  | lanX body =>
    by_cases hb : body = l.broadcast
    · subst hb
      cases l <;> exact iff_of_true rfl (.inr rfl)
    · refine hkeep _ (fun h => hb (Message.lanX.inj h)) ?_
      cases body <;> cases l <;> first | rfl | exact absurd rfl hb
  | serialNumber payload =>
    refine hkeep _ (fun h => Message.noConfusion h) ?_
    cases payload <;> cases l <;> rfl
  | code payload =>
    refine hkeep _ (fun h => Message.noConfusion h) ?_
    cases payload <;> cases l <;> rfl
  | hwInfo payload =>
    refine hkeep _ (fun h => Message.noConfusion h) ?_
    cases payload <;> cases l <;> rfl
  | _ =>
    refine hkeep _ (fun h => Message.noConfusion h) ?_
    cases l <;> rfl

end Latch

/-- The client acts on a message of the kind of the dataset. -/
theorem Dataset.kind_actedOn {u : Uninitialized} {past : List Dataset} {d : Dataset}
    (hd : d.Decodable) : (d.actedOn u past).kind = d.kind := by
  obtain ⟨m, hm⟩ := Option.isSome_iff_exists.1 (message_isSome_iff.2 hd)
  rw [actedOn]
  by_cases hdrop : d.Dropped
  · obtain ⟨k, hk⟩ := hdrop.exists_kind
    rw [if_pos hdrop, hk]
    exact kind_heldMessage u past (mem_registered_of_kind hk)
  · rw [if_neg hdrop, hm]
    exact kind_message hm

/-- **Latches**: while no dataset comes that may clear a flag, it is set exactly when it was before
or when its broadcast is acted on. -/
theorem Z21.latches {u : Uninitialized} {past ds : List Dataset} {z z' : Z21}
    (hpast : runAll handleDataset (fresh u) past = .ok z)
    (hrun : runAll handleDataset z ds = .ok z') {l : Latch}
    (h : ∀ d ∈ ds, ¬l.ClearedBy d.kind) :
    l.flag z'.status = true ↔
      l.flag z.status = true ∨ .lanX l.broadcast ∈ actedOnAll u past ds := by
  refine (runAll_induction (R := fun ds z' => runAll handleDataset (fresh u) (past ++ ds) = .ok z' ∧
    ((∀ d ∈ ds, ¬l.ClearedBy d.kind) → (l.flag z'.status = true ↔
      l.flag z.status = true ∨ .lanX l.broadcast ∈ actedOnAll u past ds))) ?_ ?_ hrun).2 h
  · refine ⟨by rw [List.append_nil, hpast], fun _ => ?_⟩
    simp [actedOnAll]
  · rintro ds z₁ d z₂ ⟨hrun₁, ih⟩ hz₂
    refine ⟨?_, fun h => ?_⟩
    · rw [← List.append_assoc, runAll_append_ok hrun₁, runAll_cons_ok hz₂]
      rfl
    · rw [List.forall_mem_append, List.forall_mem_singleton] at h
      have hdec : d.Decodable := by
        rw [← isSome_handleDataset_iff z₁, hz₂]
        rfl
      rw [status_handleDataset hrun₁ hz₂,
        l.flag_update_iff (by rw [Dataset.kind_actedOn hdec]; exact h.2), ih h.1, actedOnAll_concat,
        List.mem_append, List.mem_singleton, or_assoc, eq_comm (b := Message.lanX l.broadcast)]

/-- A system state, and then an emergency stop and a corrupted body. -/
theorem Z21.latches_emergencyStop :
    ∃ z z', runAll handleDataset (fresh ⟨0, 0, .unknown⟩)
        [⟨20, 0x84, List.replicate 16 0⟩] = .ok z ∧
      runAll handleDataset z
        [⟨7, 0x40, [0x81, 0x00, 0x81]⟩, ⟨7, 0x40, [0x61, 0x00, 0x00]⟩] = .ok z' ∧
      (z'.status.mode.emergencyStop = true ↔ z.status.mode.emergencyStop = true ∨
        .lanX .bcStopped ∈ actedOnAll ⟨0, 0, .unknown⟩ [⟨20, 0x84, List.replicate 16 0⟩]
          [⟨7, 0x40, [0x81, 0x00, 0x81]⟩, ⟨7, 0x40, [0x61, 0x00, 0x00]⟩]) := by
  obtain ⟨z, hz⟩ := ((fresh ⟨0, 0, .unknown⟩).exists_runAll_handleDataset_iff
    [⟨20, 0x84, List.replicate 16 0⟩]).2 (by decide)
  obtain ⟨z', hz'⟩ := (z.exists_runAll_handleDataset_iff
    [⟨7, 0x40, [0x81, 0x00, 0x81]⟩, ⟨7, 0x40, [0x61, 0x00, 0x00]⟩]).2 (by decide)
  exact ⟨z, z', hz, hz', latches (l := .emergencyStop) hz hz' (by decide)⟩

/-! ## The central state -/

/-- What a message says of a system state is consistent. -/
def Message.Consistent : Message → Prop
  | systemstate payload => ∀ self ∈ payload, self.Consistent
  | _ => True

theorem Dataset.consistent_message {d : Dataset} {m : Message} (h : d.message = some m) :
    m.Consistent := by
  cases m with
  | systemstate payload =>
    intro self hself
    have hid := id_of_kind (kind_message h).symm
    rw [message, hid] at h
    have hp : LanSystemstateDatachanged.decode d.data = payload :=
      Message.systemstate.inj (Option.some.inj h)
    exact LanSystemstateDatachanged.consistent_of_decode (hp.trans hself)
  | _ => trivial

/-- **What the client acts on**: a message of the run, or what the handlers of a new client hold. -/
theorem Dataset.actedOn_cases (u : Uninitialized) (past : List Dataset) (d : Dataset) :
    (∃ e ∈ past ++ [d], e.message = some (d.actedOn u past)) ∨
      d.actedOn u past = .unknown ∨ ∃ k, d.actedOn u past = u.message k := by
  rw [actedOn]
  by_cases hd : d.Dropped
  · obtain ⟨k, hk⟩ := hd.exists_kind
    rw [if_pos hd, hk, Option.elim_some, heldMessage]
    cases ha : (lastAccepted k past).bind Dataset.message with
    | none => exact .inr (.inr ⟨k, rfl⟩)
    | some m =>
      obtain ⟨a, ha, hm⟩ := Option.bind_eq_some_iff.1 ha
      exact .inl ⟨a, List.mem_append_left _ (lastAccepted_eq_some ha).1, hm⟩
  · rw [if_neg hd]
    cases hm : d.message with
    | none => exact .inr (.inl rfl)
    | some m => exact .inl ⟨d, List.mem_append_right _ (List.mem_singleton_self d), hm⟩

theorem Dataset.consistent_actedOn (u : Uninitialized) (past : List Dataset) (d : Dataset) :
    (d.actedOn u past).Consistent := by
  rcases d.actedOn_cases u past with ⟨e, -, he⟩ | h | ⟨k, h⟩
  · exact consistent_message he
  · rw [h]
    trivial
  · rw [h]
    cases k with
    | lanSystemstateDatachanged =>
      rintro self ⟨⟩
      exact ⟨(by decide : false = flag 0 0x01), (by decide : false = flag 0 0x02),
        (by decide : false = flag 0 0x04), (by decide : false = flag 0 0x20)⟩
    | _ => trivial

/-- A broadcast that the client acts on came in the run. -/
theorem Dataset.mem_of_actedOn_lanX {u : Uninitialized} {past : List Dataset} {d : Dataset}
    {body : LanXMessage} (hne : body ≠ .unassigned) (h : d.actedOn u past = .lanX body) :
    ∃ e ∈ past ++ [d], e.message = some (.lanX body) := by
  rcases d.actedOn_cases u past with he | hu | ⟨k, hk⟩
  · rwa [h] at he
  · rw [h] at hu
    cases hu
  · rw [h] at hk
    cases k <;> cases hk
    exact absurd rfl hne

/-- The mode flags of a status, against its central state and the datasets that came: a bit of the
central state sets the flag of its mode, and what is otherwise comes from a broadcast. -/
structure Z21Status.Accounted (ds : List Dataset) (s : Z21Status) : Prop where
  set_of_bit : ∀ l : Latch, flag s.centralState l.mask = true → l.flag s = true
  bit_of_set : ∀ l : Latch, l.flag s = true →
    flag s.centralState l.mask = true ∨ ∃ d ∈ ds, d.message = some (.lanX l.broadcast)
  trackVoltageOff : s.mode.trackVoltageOff ≠ flag s.centralState 0x02 →
    ∃ d ∈ ds, d.message =
      some (.lanX (if s.mode.trackVoltageOff then .bcTrackPowerOff else .bcTrackPowerOn))

namespace Z21Status

variable {s : Z21Status} {ds : List Dataset} {m : Message}

theorem accounted_initial : Accounted [] .initial where
  set_of_bit l h := by cases l <;> exact absurd h (by decide)
  bit_of_set l h := by cases l <;> exact absurd h (by decide)
  trackVoltageOff h := absurd (by decide) h

theorem Accounted.append (h : s.Accounted ds) (ds' : List Dataset) : s.Accounted (ds ++ ds') where
  set_of_bit := h.set_of_bit
  bit_of_set l hl := (h.bit_of_set l hl).imp_right fun ⟨d, hd, hm⟩ =>
    ⟨d, List.mem_append_left ds' hd, hm⟩
  trackVoltageOff hne :=
    let ⟨d, hd, hm⟩ := h.trackVoltageOff hne
    ⟨d, List.mem_append_left ds' hd, hm⟩

/-- Only the central state and the modes matter. -/
theorem Accounted.congr {s' : Z21Status} (h : s.Accounted ds) (hmode : s'.mode = s.mode)
    (hcentral : s'.centralState = s.centralState) : s'.Accounted ds := by
  have hflag : ∀ l : Latch, l.flag s' = l.flag s := by
    intro l
    cases l <;> simp only [Latch.flag, hmode]
  refine ⟨fun l => ?_, fun l => ?_, ?_⟩
  · rw [hflag, hcentral]
    exact h.set_of_bit l
  · rw [hflag, hcentral]
    exact h.bit_of_set l
  · rw [hmode, hcentral]
    exact h.trackVoltageOff

/-- A system state accounts for the flags of its bits. -/
theorem Accounted.update_systemstate (h : s.Accounted ds) {self : LanSystemstateDatachanged}
    (hself : self.Consistent) :
    (s.update (Message.systemstate (some self)).report).Accounted ds where
  set_of_bit l hl := by
    cases l with
    | emergencyStop => exact hself.emergencyStop.trans hl
    | shortCirtcuit => exact hself.shortCirtcuit.trans hl
    | programmingMode => exact hself.programmingMode.trans hl
    | invalidRequest => exact absurd hl (by simp [flag, Latch.mask])
  bit_of_set l hl := by
    cases l with
    | emergencyStop => exact .inl (hself.emergencyStop.symm.trans hl)
    | shortCirtcuit => exact .inl (hself.shortCirtcuit.symm.trans hl)
    | programmingMode => exact .inl (hself.programmingMode.symm.trans hl)
    | invalidRequest =>
      refine (h.bit_of_set .invalidRequest hl).imp_left fun hbit => ?_
      exact absurd hbit (by simp [flag, Latch.mask])
  trackVoltageOff hne := absurd hself.trackVoltageOff hne

/-- A LAN_X body that came in the run accounts for the flag that it sets. -/
theorem Accounted.update_lanX (h : s.Accounted ds) {body : LanXMessage}
    (hbody : body ≠ .unassigned → ∃ d ∈ ds, d.message = some (.lanX body)) :
    (s.update (Message.lanX body).report).Accounted ds := by
  have hlatch : ∀ l : Latch, l.flag (s.update (Message.lanX body).report) = true ↔
      l.flag s = true ∨ (.lanX body : Message) = .lanX l.broadcast := fun l =>
    l.flag_update_iff (fun ⟨_, hk⟩ => DataSet.noConfusion (Option.some.inj hk)) s
  have hcentral : (s.update (Message.lanX body).report).centralState = s.centralState := by
    cases body <;> rfl
  refine ⟨fun l hl => ?_, fun l hl => ?_, fun hne => ?_⟩
  · rw [hcentral] at hl
    exact (hlatch l).2 (.inl (h.set_of_bit l hl))
  · rw [hcentral]
    rcases (hlatch l).1 hl with hl | hl
    · exact h.bit_of_set l hl
    · rw [Message.lanX.inj hl] at hbody
      exact .inr (hbody (by cases l <;> exact fun h => LanXMessage.noConfusion h))
  · rw [hcentral] at hne
    cases body with
    | bcTrackPowerOff => exact hbody fun h => LanXMessage.noConfusion h
    | bcTrackPowerOn => exact hbody fun h => LanXMessage.noConfusion h
    | _ => exact h.trackVoltageOff hne

theorem Accounted.update (h : s.Accounted ds) (hm : m.Consistent)
    (hbody : ∀ body, body ≠ .unassigned → m = .lanX body → ∃ d ∈ ds, d.message = some m) :
    (s.update m.report).Accounted ds := by
  cases m with
  | systemstate payload =>
    cases payload with
    | none => exact h
    | some self => exact h.update_systemstate (hm self rfl)
  | lanX body => exact h.update_lanX fun hne => hbody body hne rfl
  | serialNumber payload => cases payload <;> exact h.congr rfl rfl
  | code payload => cases payload <;> exact h.congr rfl rfl
  | hwInfo payload => cases payload <;> exact h.congr rfl rfl
  | _ => exact h

end Z21Status

/-- Every run accounts for the mode flags. -/
theorem Z21.accounted_runAll {u : Uninitialized} {ds : List Dataset} {z : Z21}
    (hrun : runAll handleDataset (fresh u) ds = .ok z) : z.status.Accounted ds := by
  refine status_induction (P := fun ds s => s.Accounted ds) Z21Status.accounted_initial ?_ hrun
  intro past d s hs
  refine (hs.append [d]).update (d.consistent_actedOn u past) fun body hne hbody => ?_
  rw [hbody]
  exact Dataset.mem_of_actedOn_lanX hne hbody

/-- **The modes and the central state**: in every reachable state, a bit of the central state sets
the flag of its mode; a flag that is set without its bit was set by its broadcast; and where the
flag of the track voltage is not the bit, the broadcast came that says what the flag says. -/
theorem Z21.mode_of_centralState {u : Uninitialized} {ds : List Dataset} {z : Z21}
    (hrun : runAll handleDataset (fresh u) ds = .ok z) :
    (∀ l : Latch, flag z.status.centralState l.mask = true → l.flag z.status = true) ∧
      (∀ l : Latch, l.flag z.status = true →
        flag z.status.centralState l.mask = true ∨
          ∃ d ∈ ds, d.message = some (.lanX l.broadcast)) ∧
      (z.status.mode.trackVoltageOff ≠ flag z.status.centralState 0x02 →
        ∃ d ∈ ds, d.message = some (.lanX
          (if z.status.mode.trackVoltageOff then .bcTrackPowerOff else .bcTrackPowerOn))) := by
  obtain ⟨hset, hbit, hvoltage⟩ := accounted_runAll hrun
  exact ⟨hset, hbit, hvoltage⟩

/-- A system state with the bits of an emergency stop and of a track voltage that is off, and then
the track power goes on. -/
theorem Z21.mode_of_centralState_powerOn :
    ∃ z, runAll handleDataset (fresh ⟨0, 0, .unknown⟩)
        [⟨20, 0x84, List.replicate 12 0 ++ [0x03, 0, 0, 0]⟩,
          ⟨7, 0x40, [0x61, 0x01, 0x60]⟩] = .ok z ∧
      (flag z.status.centralState 0x01 = true → z.status.mode.emergencyStop = true) := by
  obtain ⟨z, hz⟩ := ((fresh ⟨0, 0, .unknown⟩).exists_runAll_handleDataset_iff
    [⟨20, 0x84, List.replicate 12 0 ++ [0x03, 0, 0, 0]⟩, ⟨7, 0x40, [0x61, 0x01, 0x60]⟩]).2
    (by decide)
  exact ⟨z, hz, (mode_of_centralState hz).1 .emergencyStop⟩

end TrainPP
