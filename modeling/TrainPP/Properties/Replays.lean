import TrainPP.Properties.DroppedDatasets
import TrainPP.Properties.ReceiveSafety
import TrainPP.Properties.Status
import TrainPP.Protocol.Kinds

/-!
# A dropped dataset is the last accepted one once more

A handler holds what the last message that it accepted said. A dataset is dropped when its checksum
is bad or its payload does not have the required length; its handler then keeps what it holds, and
the client acts on that.

* `heldMessage`: the message that the handler of a kind holds after a history, which is the last one
  accepted of this kind, or else what the handler held in the new client;
* `Z21.runAll_standIns`: a run from a new client ends as it does when a copy of the last accepted
  dataset of its kind comes in the place of each dropped dataset;
* `Z21.status_runAll`: after any run that stays inside its payloads, the status is what the messages
  of its datasets said last, a dropped one saying what its handler held.
-/

namespace TrainPP

open Checked Runs

/-! ## Dropped datasets -/

/-- A dataset that its handler drops. -/
def Dataset.Dropped (d : Dataset) : Prop := d.Corrupted ∨ d.Rejected

instance : DecidablePred Dataset.Dropped := fun d =>
  inferInstanceAs (Decidable (d.Corrupted ∨ d.Rejected))

def Message.isDropped : Message → Bool
  | corrupted => true
  | m => m.isRejected

theorem Message.not_rejected_of_isDropped {m : Message} (h : m.isDropped = false) :
    m ≠ .corrupted ∧ m.isRejected = false := by
  cases m with
  | corrupted => cases h
  | _ => exact ⟨fun hm => Message.noConfusion hm, h⟩

theorem Dataset.dropped_iff {d : Dataset} {m : Message} (hm : d.message = some m) :
    d.Dropped ↔ m.isDropped := by
  rw [Dropped, ← message_eq_corrupted_iff, rejected_iff hm, hm, Option.some_inj]
  cases m <;> simp [Message.isDropped, Message.isRejected]

/-- The payload of a dropped dataset is not read. -/
theorem Dataset.Dropped.exists_message {d : Dataset} (h : d.Dropped) :
    ∃ m, d.message = some m ∧ m.isDropped := by
  obtain ⟨m, hm⟩ : ∃ m, d.message = some m := by
    rcases h with hc | hr
    · exact ⟨_, message_eq_corrupted_iff.2 hc⟩
    · obtain ⟨ds, n, hid, hn, hne⟩ := hr
      exact ⟨_, message_of_rejected hid ⟨ds, n, hid, hn, hne⟩⟩
  exact ⟨m, hm, (dropped_iff hm).1 h⟩

theorem Dataset.Dropped.exists_kind {d : Dataset} (h : d.Dropped) : ∃ k, d.kind = some k := by
  obtain ⟨m, hm, hd⟩ := h.exists_message
  rw [← kind_message hm]
  cases m <;> first | exact ⟨_, rfl⟩ | cases hd

/-! ## What the handlers hold -/

/-- The handlers hold what a message said. -/
def Message.HeldBy (h : CommandHandlers) : Message → Prop
  | serialNumber payload => payload = some h.lanGetSerialNumber
  | code payload => payload = some h.lanGetCode
  | hwInfo payload => payload = some h.lanGetHWInfo
  | broadcastFlags flags => flags = h.lanGetBroadcastFlags
  | locomode mode => mode = h.lanGetLocomode
  | turnoutmode mode => mode = h.lanGetTurnoutmode
  | systemstate payload => payload = some h.lanSystemstateDatachanged
  | lanX body => ({ h.lanX with mCommand := body.command } : LanX).store body = h.lanX
  | _ => True

/-- A body that is accepted twice is stored as when it is accepted once. -/
theorem LanX.store_store (self : LanX) (body : LanXMessage) :
    ({ (({ self with mCommand := body.command } : LanX).store body) with
        mCommand := body.command } : LanX).store body =
      ({ self with mCommand := body.command } : LanX).store body := by
  cases body with
  | locoInfo update =>
    exact congrArg (fun info => { self with mCommand := some .lanXLocoInfo, locoInfo := info })
      (update.store_store self.locoInfo)
  | _ => rfl

namespace Z21

variable {z : Z21} {m m' : Message}

theorem lanX_receive_lanX (z : Z21) (body : LanXMessage) :
    (z.receive (.lanX body)).commandHandlers.lanX =
      ({ z.commandHandlers.lanX with mCommand := body.command } : LanX).store body := by
  rw [← runCommand_storeBody, handlers_runCommand]
  rfl

/-- An accepted message is held by the handler that accepted it. -/
theorem heldBy_receive (h : m.isDropped = false) : m.HeldBy (z.receive m).commandHandlers := by
  cases m with
  | serialNumber payload => cases payload <;> first | rfl | cases h
  | code payload => cases payload <;> first | rfl | cases h
  | hwInfo payload => cases payload <;> first | rfl | cases h
  | systemstate payload => cases payload <;> first | rfl | cases h
  | lanX body =>
    rw [Message.HeldBy, lanX_receive_lanX]
    exact LanX.store_store _ body
  | corrupted => cases h
  | unknown => trivial
  | _ => rfl

/-- A dropped message leaves the handlers as they were. -/
theorem handlers_receive_of_isDropped (h : m.isDropped) :
    (z.receive m).commandHandlers = z.commandHandlers := by
  cases m with
  | corrupted => exact z.handlers_runCommand
  | serialNumber payload => cases payload <;> first | rfl | cases h
  | code payload => cases payload <;> first | rfl | cases h
  | hwInfo payload => cases payload <;> first | rfl | cases h
  | systemstate payload => cases payload <;> first | rfl | cases h
  | _ => cases h

/-- A message of another kind leaves what is held as it is. -/
theorem heldBy_receive_of_ne (h : m'.kind ≠ m.kind) (hm : m.HeldBy z.commandHandlers) :
    m.HeldBy (z.receive m').commandHandlers := by
  cases m' with
  | lanX body =>
    -- the LAN_X handler is the only one that is written
    rw [← runCommand_storeBody, handlers_runCommand]
    cases m with
    | lanX body => exact absurd rfl h
    | _ => exact hm
  | corrupted =>
    rw [handlers_receive_of_isDropped rfl]
    exact hm
  | _ => cases m <;> first | exact hm | exact absurd rfl h

/-- **A dropped message is acted on as the one that its handler holds.** -/
theorem receive_of_isDropped (hd : m'.isDropped) (hk : m'.kind = m.kind)
    (hm : m.HeldBy z.commandHandlers) : z.receive m' = z.receive m := by
  cases m' with
  | corrupted =>
    cases m with
    | lanX body =>
      have hstore : z.storeBody body = z :=
        congrArg (fun x => { z with commandHandlers.lanX := x }) hm
      rw [← runCommand_storeBody, hstore]
      rfl
    | corrupted => rfl
    | _ => cases hk
  | serialNumber payload =>
    cases payload with
    | none => cases m <;> first | (cases hm; rfl) | cases hk
    | some payload => cases hd
  | code payload =>
    cases payload with
    | none => cases m <;> first | (cases hm; rfl) | cases hk
    | some payload => cases hd
  | hwInfo payload =>
    cases payload with
    | none => cases m <;> first | (cases hm; rfl) | cases hk
    | some payload => cases hd
  | systemstate payload =>
    cases payload with
    | none => cases m <;> first | (cases hm; rfl) | cases hk
    | some payload => cases hd
  | _ => cases hd

end Z21

/-! ## Histories -/

/-- The last dataset of a kind that was accepted in a history. -/
def lastAccepted (k : DataSet) (past : List Dataset) : Option Dataset :=
  (past.filter fun d => d.kind = some k ∧ ¬d.Dropped).getLast?

/-- What the handler of a kind holds in a new client, as a message. -/
def Uninitialized.message (u : Uninitialized) : DataSet → Message
  | .lanGetSerialNumber => .serialNumber (some (Z21.fresh u).commandHandlers.lanGetSerialNumber)
  | .lanGetCode => .code (some (Z21.fresh u).commandHandlers.lanGetCode)
  | .lanGetHwinfo => .hwInfo (some (Z21.fresh u).commandHandlers.lanGetHWInfo)
  | .lanSystemstateDatachanged =>
    .systemstate (some (Z21.fresh u).commandHandlers.lanSystemstateDatachanged)
  | .lanGetBroadcastflags => .broadcastFlags (Z21.fresh u).commandHandlers.lanGetBroadcastFlags
  | .lanGetLocomode => .locomode (Z21.fresh u).commandHandlers.lanGetLocomode
  | .lanGetTurnoutmode => .turnoutmode (Z21.fresh u).commandHandlers.lanGetTurnoutmode
  | .lanX => .lanX .unassigned
  | _ => .unknown

/-- The message that the handler of a kind holds after a history. -/
def heldMessage (u : Uninitialized) (past : List Dataset) (k : DataSet) : Message :=
  ((lastAccepted k past).bind Dataset.message).getD (u.message k)

theorem lastAccepted_concat (k : DataSet) (past : List Dataset) (d : Dataset) :
    lastAccepted k (past ++ [d]) =
      if d.kind = some k ∧ ¬d.Dropped then some d else lastAccepted k past := by
  rw [lastAccepted, List.filter_append]
  split_ifs with h
  · rw [List.filter_cons_of_pos (by simpa using h)]
    exact List.getLast?_concat
  · rw [List.filter_cons_of_neg (by simpa using h), List.filter_nil, List.append_nil]
    rfl

theorem lastAccepted_eq_some {k : DataSet} {past : List Dataset} {a : Dataset}
    (h : lastAccepted k past = some a) : a ∈ past ∧ a.kind = some k ∧ ¬a.Dropped := by
  have hmem := List.mem_filter.1 (List.mem_of_getLast? h)
  exact ⟨hmem.1, by simpa using hmem.2⟩

theorem Uninitialized.kind_message (u : Uninitialized) {k : DataSet} (hk : k ∈ registered) :
    (u.message k).kind = some k := by
  simp only [registered, List.mem_cons, List.not_mem_nil, or_false] at hk
  rcases hk with rfl | rfl | rfl | rfl | rfl | rfl | rfl | rfl <;> rfl

/-- A held message has the kind of its handler. -/
theorem kind_heldMessage (u : Uninitialized) (past : List Dataset) {k : DataSet}
    (hk : k ∈ registered) : (heldMessage u past k).kind = some k := by
  rw [heldMessage]
  cases ha : (lastAccepted k past).bind Dataset.message with
  | none => exact u.kind_message hk
  | some m =>
    obtain ⟨a, ha, hm⟩ := Option.bind_eq_some_iff.1 ha
    exact (Dataset.kind_message hm).trans (lastAccepted_eq_some ha).2.1

/-- **What the handlers hold**: after a run from a new client, the handler of each kind holds the
message that was accepted last. -/
theorem heldBy_heldMessage {u : Uninitialized} {ds : List Dataset} {z : Z21}
    (hrun : runAll Z21.handleDataset (Z21.fresh u) ds = .ok z) {k : DataSet}
    (hk : k ∈ registered) : (heldMessage u ds k).HeldBy z.commandHandlers := by
  refine runAll_induction (R := fun ds z => (heldMessage u ds k).HeldBy z.commandHandlers)
    ?_ ?_ hrun
  · show (u.message k).HeldBy _
    cases k <;> first | rfl | trivial
  · intro past z d z' hheld hz
    obtain ⟨m, hm, rfl⟩ := Z21.handleDataset_eq_ok_iff.1 hz
    rw [heldMessage, lastAccepted_concat]
    by_cases hd : d.Dropped
    · rw [if_neg fun h => h.2 hd, Z21.handlers_receive_of_isDropped ((Dataset.dropped_iff hm).1 hd)]
      exact hheld
    by_cases hkd : d.kind = some k
    · rw [if_pos ⟨hkd, hd⟩, Option.bind_some, hm, Option.getD_some]
      exact Z21.heldBy_receive (by simpa using mt (Dataset.dropped_iff hm).2 hd)
    · rw [if_neg fun h => hkd h.1]
      refine Z21.heldBy_receive_of_ne ?_ hheld
      rw [Dataset.kind_message hm, ← heldMessage, kind_heldMessage u past hk]
      exact hkd

/-! ## Stand-ins -/

theorem Dataset.mem_registered_of_kind {d : Dataset} {k : DataSet} (h : d.kind = some k) :
    k ∈ registered := by
  rw [kind, commandHandler?] at h
  exact List.mem_of_find?_eq_some h

/-- What takes the place of a dataset behind a history: for a dropped one, the last one accepted of
its kind; and nothing, for a corrupted LAN_X body when none was accepted. -/
def Dataset.standIn (past : List Dataset) (d : Dataset) : Option Dataset :=
  if d.Dropped then
    (d.kind.bind (lastAccepted · past)).or (if d.Corrupted then none else some d)
  else some d

/-- The stand-ins of the datasets of a list, behind a history. -/
def standIns : List Dataset → List Dataset → List Dataset
  | _, [] => []
  | past, d :: ds => (d.standIn past).toList ++ standIns (past ++ [d]) ds

namespace Z21

variable {u : Uninitialized} {past : List Dataset} {z : Z21} {d : Dataset}

theorem handleDataset_of_dropped (hrun : runAll handleDataset (fresh u) past = .ok z)
    (hd : d.Dropped) {k : DataSet} (hk : d.kind = some k) :
    z.handleDataset d = .ok (z.receive (heldMessage u past k)) := by
  obtain ⟨m, hm, hdrop⟩ := hd.exists_message
  have hmem := Dataset.mem_registered_of_kind hk
  rw [handleDataset_of_message hm]
  refine congrArg _ (receive_of_isDropped hdrop ?_ (heldBy_heldMessage hrun hmem))
  rw [Dataset.kind_message hm, hk, kind_heldMessage u past hmem]

/-- A dropped dataset does what the last accepted one of its kind does when it comes once more. -/
theorem handleDataset_of_lastAccepted (hrun : runAll handleDataset (fresh u) past = .ok z)
    (hd : d.Dropped) {k : DataSet} (hk : d.kind = some k) {a : Dataset}
    (ha : lastAccepted k past = some a) : z.handleDataset d = z.handleDataset a := by
  rw [handleDataset_of_dropped hrun hd hk, heldMessage, ha, Option.bind_some]
  cases hm : a.message with
  | some m => rw [handleDataset_of_message hm, Option.getD_some]
  | none =>
    -- an accepted dataset of the history was decodable when it was handled
    have hmem := (lastAccepted_eq_some ha).1
    have hdec := ((fresh u).exists_runAll_handleDataset_iff past).1 ⟨z, hrun⟩ a hmem
    rw [← Dataset.message_isSome_iff, hm] at hdec
    cases hdec

/-- A corrupted LAN_X body before any accepted one does nothing. -/
theorem handleDataset_of_corrupted_first (hrun : runAll handleDataset (fresh u) past = .ok z)
    (hd : d.Corrupted) (ha : lastAccepted .lanX past = none) : z.handleDataset d = .ok z := by
  have hheld := heldBy_heldMessage hrun (k := .lanX) (by decide)
  rw [heldMessage, ha] at hheld
  rw [handleDataset_of_corrupted hd, runCommand]
  have hnone : z.commandHandlers.lanX.mCommand = none := (congrArg LanX.mCommand hheld).symm
  rw [hnone]
  rfl

/-- A dataset and its stand-in do the same. -/
theorem runAll_standIn (hrun : runAll handleDataset (fresh u) past = .ok z) (d : Dataset)
    (ds : List Dataset) :
    runAll handleDataset z ((d.standIn past).toList ++ ds) = runAll handleDataset z (d :: ds) := by
  rw [Dataset.standIn]
  by_cases hd : d.Dropped
  · obtain ⟨k, hk⟩ := hd.exists_kind
    rw [if_pos hd, hk, Option.bind_some]
    have hz := handleDataset_of_dropped hrun hd hk
    cases ha : lastAccepted k past with
    | some a =>
      have hza := handleDataset_of_lastAccepted hrun hd hk ha
      rw [hz] at hza
      exact (runAll_cons_ok hza.symm).trans (runAll_cons_ok hz).symm
    | none =>
      by_cases hc : d.Corrupted
      · rw [Dataset.kind_of_id (by decide) hc.id_eq] at hk
        cases hk
        rw [Option.none_or, if_pos hc, runAll_cons_ok (handleDataset_of_corrupted_first hrun hc ha)]
        rfl
      · rw [Option.none_or, if_neg hc]
        rfl
  · rw [if_neg hd]
    rfl

theorem runAll_standIns_of_past (hrun : runAll handleDataset (fresh u) past = .ok z)
    (ds : List Dataset) :
    runAll handleDataset z (standIns past ds) = runAll handleDataset z ds := by
  induction ds generalizing past z with
  | nil => rfl
  | cons d ds ih =>
    rw [standIns, runAll_standIn hrun]
    cases hz : z.handleDataset d with
    | error fault => rw [runAll_cons_error hz, runAll_cons_error hz]
    | ok z' =>
      rw [runAll_cons_ok hz, runAll_cons_ok hz]
      refine ih ?_
      rw [runAll_append_ok hrun, runAll_cons_ok hz]
      rfl

/-- **Dropped datasets and their stand-ins**: a run from a new client ends as it does when a copy of
the last accepted dataset of its kind comes in the place of each dropped dataset. -/
theorem runAll_standIns (u : Uninitialized) (ds : List Dataset) :
    runAll handleDataset (fresh u) (standIns [] ds) = runAll handleDataset (fresh u) ds :=
  runAll_standIns_of_past (runAll_nil _ _) ds

end Z21

/-! ## The status after any run -/

/-- The message that the client acts on when a dataset comes behind a history. -/
def Dataset.actedOn (u : Uninitialized) (past : List Dataset) (d : Dataset) : Message :=
  if d.Dropped then (d.kind.elim .unknown (heldMessage u past)) else d.message.getD .unknown

/-- The messages that the client acts on when the datasets of a list come behind a history. -/
def actedOnAll (u : Uninitialized) : List Dataset → List Dataset → List Message
  | _, [] => []
  | past, d :: ds => d.actedOn u past :: actedOnAll u (past ++ [d]) ds

theorem actedOnAll_concat (u : Uninitialized) (ds : List Dataset) (d : Dataset) :
    ∀ past, actedOnAll u past (ds ++ [d]) = actedOnAll u past ds ++ [d.actedOn u (past ++ ds)] := by
  induction ds with
  | nil =>
    intro past
    rw [List.append_nil]
    rfl
  | cons e ds ih =>
    intro past
    rw [List.cons_append, actedOnAll, ih, ← List.append_cons]
    rfl

theorem isDropped_heldMessage (u : Uninitialized) (past : List Dataset) (k : DataSet) :
    (heldMessage u past k).isDropped = false := by
  rw [heldMessage]
  cases ha : (lastAccepted k past).bind Dataset.message with
  | none => cases k <;> rfl
  | some m =>
    obtain ⟨a, ha, hm⟩ := Option.bind_eq_some_iff.1 ha
    simpa using mt (Dataset.dropped_iff hm).2 (lastAccepted_eq_some ha).2.2

/-- What an accepted message does to the status is what it reports. -/
theorem Z21.status_receive {m : Message} (h : m.isDropped = false) (z : Z21) :
    (z.receive m).status = z.status.update m.report := by
  obtain ⟨hne, hr⟩ := Message.not_rejected_of_isDropped h
  rw [receive_of_ne hne]
  exact Message.status_apply_effect hr z.registers

/-- The client acts on a dataset as on the message of its stand-in. -/
theorem Z21.status_handleDataset {u : Uninitialized} {past : List Dataset} {z z' : Z21}
    {d : Dataset} (hrun : runAll handleDataset (fresh u) past = .ok z)
    (hz : z.handleDataset d = .ok z') : z'.status = z.status.update (d.actedOn u past).report := by
  rw [Dataset.actedOn]
  by_cases hd : d.Dropped
  · obtain ⟨k, hk⟩ := hd.exists_kind
    rw [handleDataset_of_dropped hrun hd hk] at hz
    cases hz
    rw [if_pos hd, hk]
    exact status_receive (isDropped_heldMessage u past k) z
  · obtain ⟨m, hm, rfl⟩ := handleDataset_eq_ok_iff.1 hz
    rw [if_neg hd, hm]
    exact status_receive (by simpa using mt (Dataset.dropped_iff hm).2 hd) z

/-- What holds of the status of a new client, and is kept by what the client acts on, holds after
every run. -/
theorem Z21.status_induction {u : Uninitialized} {P : List Dataset → Z21Status → Prop}
    (hinit : P [] .initial)
    (hstep : ∀ past d s, P past s → P (past ++ [d]) (s.update (d.actedOn u past).report))
    {ds : List Dataset} {z : Z21} (hrun : runAll handleDataset (fresh u) ds = .ok z) :
    P ds z.status := by
  refine (runAll_induction (R := fun ds z => runAll handleDataset (fresh u) ds = .ok z ∧
    P ds z.status) ⟨rfl, hinit⟩ ?_ hrun).2
  rintro past z d z' ⟨hpast, hz⟩ hz'
  constructor
  · rw [runAll_append_ok hpast, runAll_cons_ok hz']
    rfl
  · rw [status_handleDataset hpast hz']
    exact hstep past d z.status hz

theorem Z21.status_eq_foldl {u : Uninitialized} {ds : List Dataset} {z : Z21}
    (hrun : runAll handleDataset (fresh u) ds = .ok z) :
    z.status = (actedOnAll u [] ds).foldl (fun s m => s.update m.report) Z21Status.initial := by
  refine status_induction (P := fun ds s =>
    s = (actedOnAll u [] ds).foldl (fun s m => s.update m.report) Z21Status.initial) rfl ?_ hrun
  rintro past d s rfl
  rw [actedOnAll_concat, List.foldl_append]
  rfl

/-- **The status after any run**: a run of decodable datasets from a new client succeeds, and the
status is then the initial one updated by what the messages report that the client acted on, where
it acts on a dropped dataset as on the message that its handler holds. -/
theorem Z21.status_runAll (u : Uninitialized) {ds : List Dataset} (h : ∀ d ∈ ds, d.Decodable) :
    ∃ z, runAll handleDataset (fresh u) ds = .ok z ∧
      z.status =
        (actedOnAll u [] ds).foldl (fun s m => s.update m.report) Z21Status.initial := by
  obtain ⟨z, hz⟩ := ((fresh u).exists_runAll_handleDataset_iff ds).2 h
  exact ⟨z, hz, status_eq_foldl hz⟩

/-- The track power goes off and on, by a broadcast and by a system state, and then a corrupted body
and a code without a payload arrive. -/
theorem Z21.status_runAll_dropped :
    ∃ z, runAll handleDataset (fresh ⟨0, 0, .unknown⟩)
        [⟨7, 0x40, [0x61, 0x00, 0x61]⟩, ⟨20, 0x84, List.replicate 16 0⟩,
          ⟨7, 0x40, [0x61, 0x00, 0x00]⟩, ⟨4, 0x18, []⟩] = .ok z ∧
      z.status = (actedOnAll ⟨0, 0, .unknown⟩ []
        [⟨7, 0x40, [0x61, 0x00, 0x61]⟩, ⟨20, 0x84, List.replicate 16 0⟩,
          ⟨7, 0x40, [0x61, 0x00, 0x00]⟩, ⟨4, 0x18, []⟩]).foldl
            (fun s m => s.update m.report) Z21Status.initial := by
  exact status_runAll ⟨0, 0, .unknown⟩ (by decide)

end TrainPP
