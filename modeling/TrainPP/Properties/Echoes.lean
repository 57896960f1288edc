import TrainPP.Properties.SentDatagrams
import TrainPP.Properties.Sessions

/-!
# Requests that come back

A client takes datagrams from anyone, so that a request may reach it too: one of its own, sent back,
or one of another client. It then reads the request as if it came from the command station. Most
ids and X-headers of requests have no handler, and the others have a payload that is shorter than
that of the reply.

* `Session.runAll_echoes`: a session that receives nothing but requests goes on exactly when none of
  them is `Fatal`, one that the client reads beyond its payload; the requests then change nothing
  of what the status shows, except that a serial number, a code or a hardware info without a payload
  makes it show what the handler holds.
-/

namespace TrainPP

open Checked Runs

/-! ## What the client reads in a request -/

/-- A request that the client, if it receives it, reads beyond its payload. -/
def Request.Fatal : Request → Prop
  | getBroadcastFlags => True
  | getLocomode _ => True
  | getTurnoutmode _ => True
  | r => ¬r.Encodable

/-- A message that changes neither the status nor a handler that is copied to it. -/
structure Message.Unseen (m : Message) : Prop where
  status (z : Z21) : (z.receive m).status = z.status
  lanGetSerialNumber (z : Z21) :
    (z.receive m).commandHandlers.lanGetSerialNumber = z.commandHandlers.lanGetSerialNumber
  lanGetCode (z : Z21) : (z.receive m).commandHandlers.lanGetCode = z.commandHandlers.lanGetCode
  lanGetHWInfo (z : Z21) :
    (z.receive m).commandHandlers.lanGetHWInfo = z.commandHandlers.lanGetHWInfo

/-- A body that is stored in the LAN_X handler, and runs no command that writes the status. -/
theorem Message.Unseen.turnoutInfo (info : LanXTurnoutInfo) :
    (Message.lanX (.turnoutInfo info)).Unseen :=
  ⟨fun _ => rfl, fun _ => rfl, fun _ => rfl, fun _ => rfl⟩

theorem Message.Unseen.extAccessoryInfo (info : LanXExtAccessoryInfo) :
    (Message.lanX (.extAccessoryInfo info)).Unseen :=
  ⟨fun _ => rfl, fun _ => rfl, fun _ => rfl, fun _ => rfl⟩

theorem Message.Unseen.unassigned : (Message.lanX .unassigned).Unseen :=
  ⟨fun _ => rfl, fun _ => rfl, fun _ => rfl, fun _ => rfl⟩

theorem Message.Unseen.unknown : Message.unknown.Unseen :=
  ⟨fun _ => rfl, fun _ => rfl, fun _ => rfl, fun _ => rfl⟩

/-- What the client reads in a request. -/
inductive Echo : Request → Message → Prop
  | serialNumber : Echo .getSerialNumber (.serialNumber none)
  | code : Echo .getCode (.code none)
  | hwInfo : Echo .getHWInfo (.hwInfo none)
  | other (r : Request) (m : Message) (hr : r ∉ [.getSerialNumber, .getCode, .getHWInfo])
    (hm : m.Unseen) : Echo r m

theorem message_pack (ds : DataSet) (data : List UInt8) :
    (Dataset.ofFrame (Z21DataSet.pack ds.id data)).message =
      (Dataset.packed ds.id data).message := by
  rw [ofFrame_pack]

/-- The ids of requests that no reply has. -/
theorem message_pack_unknown {ds : DataSet} (data : List UInt8) (h : commandHandler? ds.id = none) :
    (Dataset.ofFrame (Z21DataSet.pack ds.id data)).message = some .unknown := by
  have hid : (Dataset.packed ds.id data).id = ds.id := rfl
  rw [message_pack, Dataset.message, hid, h]

/-- A body with its checksum is read by its first bytes. -/
theorem message_pack_lanX (d : List UInt8) :
    (Dataset.ofFrame (LanX.pack (appendChecksum d))).message =
      (LanXMessage.decode (appendChecksum d)).map .lanX := by
  have hintact : LanX.Intact (appendChecksum d) :=
    LanX.intact_iff_isBalanced.2 ⟨appendChecksum_ne_nil d, isBalancedBody_appendChecksum d⟩
  rw [LanX.pack, message_pack]
  change LanX.decode (appendChecksum d) = _
  rw [LanX.decode, if_neg (appendChecksum_ne_nil d), if_pos hintact]

/-- The X-headers of requests that no reply has. -/
theorem message_pack_unassigned {header : UInt8} (rest : List UInt8)
    (h : header ∉ [0x43, 0x44, 0x61, 0x62, 0x63, 0x64, 0x81, 0xef, 0xf3]) :
    (Dataset.ofFrame (LanX.pack (appendChecksum (header :: rest)))).message =
      some (.lanX .unassigned) := by
  rw [message_pack_lanX]
  exact congrArg (Option.map Message.lanX) (LanXMessage.decode_of_not_mem _ h)

/-- A request that is not fatal is read. -/
theorem Request.exists_echo {r : Request} (h : ¬r.Fatal) :
    ∃ m, (Dataset.ofFrame r.pack).message = some m ∧ Echo r m := by
  have hunknown : (Dataset.ofFrame r.pack).message = some .unknown →
      r ∉ [getSerialNumber, getCode, getHWInfo] → ∃ m, _ = some m ∧ Echo r m :=
    fun h hr => ⟨_, h, .other r _ hr .unknown⟩
  have hunassigned : (Dataset.ofFrame r.pack).message = some (.lanX .unassigned) →
      r ∉ [getSerialNumber, getCode, getHWInfo] → ∃ m, _ = some m ∧ Echo r m :=
    fun h hr => ⟨_, h, .other r _ hr .unassigned⟩
  cases r with
  | getSerialNumber => exact ⟨_, rfl, .serialNumber⟩
  | getCode => exact ⟨_, rfl, .code⟩
  | getHWInfo => exact ⟨_, rfl, .hwInfo⟩
  | getBroadcastFlags => exact absurd trivial h
  | getLocomode address => exact absurd trivial h
  | getTurnoutmode address => exact absurd trivial h
  | logoff => exact hunknown (message_pack_unknown [] rfl) (by simp)
  | setBroadcastFlags flags => exact hunknown (message_pack_unknown _ rfl) (by simp)
  | setLocomode address mode => exact hunknown (message_pack_unknown _ rfl) (by simp)
  | setTurnoutmode address mode => exact hunknown (message_pack_unknown _ rfl) (by simp)
  | systemstateGetData => exact hunknown (message_pack_unknown [] rfl) (by simp)
  | lanXGetTurnoutInfo address =>
    exact ⟨_, message_pack_lanX _, .other _ _ (by simp) (.turnoutInfo _)⟩
  | lanXGetExtAccessoryInfo address =>
    exact ⟨_, message_pack_lanX _, .other _ _ (by simp) (.extAccessoryInfo _)⟩
  | lanXMmWriteByte register value =>
    refine hunassigned ?_ (by simp)
    rw [pack, LanXMmWriteByte.pack, if_pos (show register ≤ 78 from not_not.1 h)]
    exact message_pack_unassigned _ (by decide)
  | lanXSetLocoFunctionGroup address group functions =>
    refine hunassigned ?_ (by simp)
    rw [pack, LanXSetLocoFunctionGroup.pack, if_pos (show group ∈ _ from not_not.1 h)]
    exact message_pack_unassigned _ (by decide)
  | _ => exact hunassigned (message_pack_unassigned _ (by decide)) (by simp)

/-- A fatal request is not read. -/
theorem Request.message_of_fatal {r : Request} (h : r.Fatal) :
    (Dataset.ofFrame r.pack).message = none := by
  have hempty : (Dataset.ofFrame (LanX.pack [])).message = none := rfl
  cases r with
  | getBroadcastFlags => rfl
  | getLocomode address => exact message_pack .lanGetLocomode _
  | getTurnoutmode address => exact message_pack .lanGetTurnoutmode _
  | lanXMmWriteByte register value => rw [pack_of_not_encodable h, hempty]
  | lanXSetLocoFunctionGroup address group functions => rw [pack_of_not_encodable h, hempty]
  | _ => exact absurd trivial h

theorem Request.decodable_iff (r : Request) : (Dataset.ofFrame r.pack).Decodable ↔ ¬r.Fatal := by
  rw [← Dataset.message_isSome_iff]
  constructor
  · intro h hfatal
    rw [message_of_fatal hfatal] at h
    cases h
  · intro h
    obtain ⟨m, hm, -⟩ := exists_echo h
    rw [hm]
    rfl

/-! ## Runs -/

/-- The status of a client that has received requests only. -/
def Z21.statusAfter (z : Z21) (rs : List Request) : Z21Status :=
  let h := z.commandHandlers
  { z.status with
    id.serialNumber :=
      if .getSerialNumber ∈ rs then h.lanGetSerialNumber.serialNumber else z.status.id.serialNumber
    id.featureSet := if .getCode ∈ rs then ⟨h.lanGetCode.code⟩ else z.status.id.featureSet
    id.hwType := if .getHWInfo ∈ rs then h.lanGetHWInfo.hwType else z.status.id.hwType
    id.fwVersion := if .getHWInfo ∈ rs then h.lanGetHWInfo.fwVersion else z.status.id.fwVersion }

/-- What a client keeps over requests that it receives. -/
structure Z21.Echoed (z : Z21) (rs : List Request) (z' : Z21) : Prop where
  status : z'.status = z.statusAfter rs
  lanGetSerialNumber : z'.commandHandlers.lanGetSerialNumber = z.commandHandlers.lanGetSerialNumber
  lanGetCode : z'.commandHandlers.lanGetCode = z.commandHandlers.lanGetCode
  lanGetHWInfo : z'.commandHandlers.lanGetHWInfo = z.commandHandlers.lanGetHWInfo

theorem Z21.echoed_nil (z : Z21) : z.Echoed [] z := ⟨rfl, rfl, rfl, rfl⟩

theorem Z21.Echoed.concat {z z₁ : Z21} {rs : List Request} (h : z.Echoed rs z₁) {r : Request}
    {m : Message} (hm : Echo r m) : z.Echoed (rs ++ [r]) (z₁.receive m) := by
  cases hm with
  | serialNumber =>
    have hreceive : (z₁.receive (.serialNumber none)).status = { z₁.status with
      id.serialNumber := z₁.commandHandlers.lanGetSerialNumber.serialNumber } := rfl
    refine ⟨?_, h.2, h.3, h.4⟩
    rw [hreceive, h.status, h.lanGetSerialNumber]
    simp [statusAfter]
  | code =>
    have hreceive : (z₁.receive (.code none)).status = { z₁.status with
      id.featureSet := ⟨z₁.commandHandlers.lanGetCode.code⟩ } := rfl
    refine ⟨?_, h.2, h.3, h.4⟩
    rw [hreceive, h.status, h.lanGetCode]
    simp [statusAfter]
  | hwInfo =>
    have hreceive : (z₁.receive (.hwInfo none)).status = { z₁.status with
      id.hwType := z₁.commandHandlers.lanGetHWInfo.hwType
      id.fwVersion := z₁.commandHandlers.lanGetHWInfo.fwVersion } := rfl
    refine ⟨?_, h.2, h.3, h.4⟩
    rw [hreceive, h.status, h.lanGetHWInfo]
    simp [statusAfter]
  | other _ _ hr hm =>
    simp only [List.mem_cons, List.not_mem_nil, or_false, not_or] at hr
    obtain ⟨hserial, hcode, hhw⟩ := hr
    refine ⟨?_, (hm.2 z₁).trans h.2, (hm.3 z₁).trans h.3, (hm.4 z₁).trans h.4⟩
    rw [hm.status, h.status]
    simp [statusAfter, Ne.symm hserial, Ne.symm hcode, Ne.symm hhw]

/-- A client that receives requests only. -/
theorem Z21.echoed_of_runAll {z z' : Z21} {rs : List Request}
    (h : runAll handleDataset z (rs.map fun r => Dataset.ofFrame r.pack) = .ok z') :
    z.Echoed rs z' := by
  induction rs using List.reverseRecOn generalizing z' with
  | nil =>
    cases h
    exact z.echoed_nil
  | append_singleton rs r ih =>
    rw [List.map_append, List.map_singleton] at h
    obtain ⟨z₁, h₁⟩ := exists_runAll_of_append h
    rw [runAll_append_ok h₁] at h
    obtain ⟨z₂, hstep, hnil⟩ := runAll_cons_eq_ok_iff.1 h
    cases hnil
    obtain ⟨m, hm, rfl⟩ := handleDataset_eq_ok_iff.1 hstep
    by_cases hfatal : r.Fatal
    · rw [r.message_of_fatal hfatal] at hm
      cases hm
    · obtain ⟨m', hm', hecho⟩ := r.exists_echo hfatal
      obtain rfl := Option.some.inj (hm.symm.trans hm')
      exact (ih h₁).concat hecho

/-! ## Sessions -/

theorem Request.exists_pack_eq (r : Request) :
    ∃ (id : UInt16) (data : List UInt8), r.pack = Z21DataSet.pack id data ∧ data.length ≤ 8 := by
  by_cases h : r.Encodable
  · have hpacked := packed_of_encodable h
    generalize r.pack = datagram at hpacked
    cases hpacked with
    | dataset ds data hds hlen => exact ⟨_, data, rfl, by omega⟩
    | command d hlen =>
      refine ⟨_, _, rfl, ?_⟩
      rw [length_appendChecksum]
      omega
  · exact ⟨_, [], pack_of_not_encodable h, Nat.zero_le 8⟩

/-- The datagram of a request is one dataset. -/
theorem Request.datasets?_pack (r : Request) :
    datasets? (r.pack.take 128) = some [Dataset.ofFrame r.pack] := by
  obtain ⟨id, data, hpack, hlen⟩ := r.exists_pack_eq
  have hflat : ([(id, data)].map fun i => Z21DataSet.pack i.1 i.2).flatten = r.pack := by
    rw [List.map_singleton, List.flatten_singleton, hpack]
  have hle : ([(id, data)].map fun i => Z21DataSet.pack i.1 i.2).flatten.length ≤ 128 := by
    rw [hflat, hpack, length_pack]
    omega
  have hsplit := (Batch.ofItems _ hle).datasets?_take
  have hdatagram : (Batch.ofItems _ hle).datagram = r.pack := (List.append_nil _).trans hflat
  rw [hdatagram] at hsplit
  rw [hsplit, hpack, ofFrame_pack]
  rfl

theorem Request.datasetsOf_pack (r : Request) : datasetsOf r.pack = [Dataset.ofFrame r.pack] := by
  rw [datasetsOf, r.datasets?_pack]
  rfl

theorem Request.acceptable_pack_iff (r : Request) : Acceptable r.pack ↔ ¬r.Fatal := by
  rw [Acceptable, framed_iff, r.datasets?_pack, r.datasetsOf_pack, List.forall_mem_singleton,
    r.decodable_iff]
  exact and_iff_right ⟨_, rfl⟩

/-- **Requests that come back**: a session that receives nothing but requests goes on exactly when
`listen` is called at most once and none of them is fatal. Nothing of what the status shows then
changes, but that a serial number, a code or a hardware info without a payload shows what the
handler holds. -/
theorem Session.runAll_echoes {E : Type} (resolve : String → String → Option E) (opens : Bool)
    (host port : String) (unspecified : E) (z : Z21) {es : List (Event E)} {rs : List Request}
    (h : received resolve opens host port es = rs.map Request.pack) :
    ((∃ t, runAll step (connected resolve opens host port unspecified z) es = .ok t) ↔
        es.countP Event.isListen ≤ 1 ∧ ∀ r ∈ rs, ¬r.Fatal) ∧
      ∀ t, runAll step (connected resolve opens host port unspecified z) es = .ok t →
        t.receiver.client.status = z.statusAfter rs := by
  constructor
  · rw [exists_runAll_connected_iff, h, List.forall_mem_map]
    simp only [Request.acceptable_pack_iff]
  · intro t ht
    have hclient := client_of_runAll_connected ht
    have hdatasets : (rs.map Request.pack).flatMap datasetsOf =
        rs.map fun r => Dataset.ofFrame r.pack := by
      rw [List.flatMap_map, List.flatMap_congr fun r _ => r.datasetsOf_pack]
      exact List.map_eq_flatMap.symm
    rw [h, hdatasets] at hclient
    exact (Z21.echoed_of_runAll hclient).status

/-- A client that receives its own requests for the code and for the system state. -/
theorem Session.runAll_echoes_getCode :
    ∃ t, runAll step (connected (fun _ _ => some ()) true "z21" "21105" ()
      (.fresh ⟨0, 0, .unknown⟩)) [.listen true, .arrival () Request.getCode.pack,
        .arrival () Request.systemstateGetData.pack] = .ok t := by
  have hreceived : received (fun _ _ => some ()) true "z21" "21105" [.listen true,
      .arrival () Request.getCode.pack, .arrival () Request.systemstateGetData.pack] =
        [.getCode, .systemstateGetData].map Request.pack := rfl
  refine (Session.runAll_echoes _ true "z21" "21105" () _ hreceived).1.2 ⟨by decide, ?_⟩
  rintro r hr
  simp only [List.mem_cons, List.not_mem_nil, or_false] at hr
  obtain rfl | rfl := hr
  · exact not_not.2 trivial
  · exact not_not.2 trivial

end TrainPP
