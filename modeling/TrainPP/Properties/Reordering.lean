import TrainPP.Properties.Delivery
import TrainPP.Protocol.Kinds

/-!
# Datasets that may arrive in any order

The network may deliver datagrams in another order than they were sent in. What this changes depends
on the datasets of dependent kinds only: the client ends in the same state when these come in the
same order, however all the datasets were batched into datagrams that the receive buffer holds
(`arrive_of_sameOrder`).

The dependence is exact: datasets of two kinds commute, whatever they say and in every client, if
and only if the kinds are independent (`kindsCommute_iff_not_dependent`).
-/

namespace TrainPP

open Checked Runs Traces

/-! ## Datagrams in another order -/

/-- **Reordering**: two sequences of datagrams with the same datasets of dependent kinds in the same
order leave the client in the same state, or both leave a payload, whatever the receive buffers held
before. -/
theorem arrive_of_sameOrder {bs bs' : List Batch}
    (h : SameOrder Dataset.kind Dependent (bs.flatMap Batch.datasets) (bs'.flatMap Batch.datasets))
    {r r' : Receiver Z21} (hclient : r'.client = r.client) :
    (runAll (arrive Z21.handleDataset) r' (bs'.map Batch.datagram)).toOption.map (·.client) =
      (runAll (arrive Z21.handleDataset) r (bs.map Batch.datagram)).toOption.map (·.client) := by
  rw [toOption_runAll_arrive, toOption_runAll_arrive, hclient]
  refine (toOption_runAll_of_sameOrder Dependent.refl (fun _ _ => Dependent.symm) ?_ h _).symm
  exact fun d e hindep => Z21.commute_of_not_dependent (mt Dependent.symm hindep)

/-- A reply to `LAN_GET_CODE` overtakes one to `LAN_GET_SERIAL_NUMBER` that is sent twice. -/
theorem arrive_of_code_first :
    (runAll (arrive Z21.handleDataset) ⟨Vector.replicate 128 0, 1, Z21.fresh ⟨0, 0, .unknown⟩⟩
        ([.ofItems [(0x18, [2]), (0x10, [1, 2, 3, 4]), (0x10, [5, 6, 7, 8])] (by decide)].map
          Batch.datagram)).toOption.map (·.client) =
      (runAll (arrive Z21.handleDataset) ⟨Vector.replicate 128 0, 1, Z21.fresh ⟨0, 0, .unknown⟩⟩
        ([.ofItems [(0x10, [1, 2, 3, 4])] (by decide),
          .ofItems [(0x18, [2]), (0x10, [5, 6, 7, 8])] (by decide)].map
            Batch.datagram)).toOption.map (·.client) := by
  refine arrive_of_sameOrder ?_ rfl
  exact sameOrder_swap Dependent.refl (fun _ _ => Dependent.symm) (a := Dataset.packed _ _)
    (b := Dataset.packed _ _) (by decide) [] [Dataset.packed _ _]

/-! ## Kinds that do not commute -/

/-- Two datasets do not commute when some field tells the orders apart in some client. -/
theorem not_commute_of_ne {α : Type} {d e : Dataset} (z : Z21) (field : Z21 → α)
    (h : ((z.handleDataset d).toOption.bind fun z => (z.handleDataset e).toOption).map field ≠
      ((z.handleDataset e).toOption.bind fun z => (z.handleDataset d).toOption).map field) :
    ¬Commute Z21.handleDataset d e :=
  fun hcomm => h (congrArg (Option.map field) (hcomm z))

/-- All datasets of two kinds commute. -/
def KindsCommute (k k' : DataSet) : Prop :=
  ∀ d e : Dataset, d.kind = some k → e.kind = some k' → Commute Z21.handleDataset d e

theorem KindsCommute.symm {k k' : DataSet} (h : KindsCommute k k') : KindsCommute k' k :=
  fun d e hd he => (h e d he hd).symm

section Conflicts

/-- A client to tell the orders apart in. -/
private abbrev zero : Z21 := Z21.fresh ⟨0, 0, .unknown⟩

/-- A kind does not commute with itself: the last dataset wins. -/
theorem not_kindsCommute_self {k : DataSet} (hk : k ∈ registered) : ¬KindsCommute k k := by
  simp only [registered, List.mem_cons, List.not_mem_nil, or_false] at hk
  rcases hk with rfl | rfl | rfl | rfl | rfl | rfl | rfl | rfl
  · exact fun h => not_commute_of_ne zero (·.status.id.serialNumber) (by decide)
      (h ⟨8, 0x10, [1, 0, 0, 0]⟩ ⟨8, 0x10, [2, 0, 0, 0]⟩ rfl rfl)
  · exact fun h => not_commute_of_ne zero (·.status.id.featureSet) (by decide)
      (h ⟨5, 0x18, [1]⟩ ⟨5, 0x18, [2]⟩ rfl rfl)
  · exact fun h => not_commute_of_ne zero (·.status.id.hwType) (by decide)
      (h ⟨12, 0x1a, [1, 0, 0, 0, 1, 0, 0, 0]⟩ ⟨12, 0x1a, [2, 0, 0, 0, 1, 0, 0, 0]⟩ rfl rfl)
  · exact fun h => not_commute_of_ne zero (·.commandHandlers.lanGetBroadcastFlags) (by decide)
      (h ⟨8, 0x51, [1, 0, 0, 0]⟩ ⟨8, 0x51, [2, 0, 0, 0]⟩ rfl rfl)
  · exact fun h => not_commute_of_ne zero (·.commandHandlers.lanGetLocomode) (by decide)
      (h ⟨7, 0x60, [0, 1, 0]⟩ ⟨7, 0x60, [0, 2, 0]⟩ rfl rfl)
  · exact fun h => not_commute_of_ne zero (·.commandHandlers.lanGetTurnoutmode) (by decide)
      (h ⟨7, 0x70, [0, 1, 0]⟩ ⟨7, 0x70, [0, 2, 0]⟩ rfl rfl)
  · exact fun h => not_commute_of_ne zero (·.status.capabilities) (by decide)
      (h ⟨20, 0x84, List.replicate 16 1⟩ ⟨20, 0x84, List.replicate 16 2⟩ rfl rfl)
  · exact fun h => not_commute_of_ne zero (·.status.mode.trackVoltageOff) (by decide)
      (h ⟨7, 0x40, [0x61, 0x00, 0x61]⟩ ⟨7, 0x40, [0x61, 0x01, 0x60]⟩ rfl rfl)

/-- Both write the firmware version. -/
theorem not_kindsCommute_hwinfo : ¬KindsCommute .lanX .lanGetHwinfo :=
  fun h => not_commute_of_ne zero (·.status.id.fwVersion) (by decide)
    (h ⟨9, 0x40, [0xf3, 0x0a, 0, 2, 0xfb]⟩ ⟨12, 0x1a, [1, 0, 0, 0, 1, 0, 0, 0]⟩ rfl rfl)

/-- Both write the flag of the track voltage. -/
theorem not_kindsCommute_systemstate : ¬KindsCommute .lanX .lanSystemstateDatachanged :=
  fun h => not_commute_of_ne zero (·.status.mode.trackVoltageOff) (by decide)
    (h ⟨7, 0x40, [0x61, 0x00, 0x61]⟩ ⟨20, 0x84, List.replicate 16 0⟩ rfl rfl)

end Conflicts

/-- **The dependence is exact**: datasets of two registered kinds commute, whatever they say and in
every state of the client, if and only if the kinds are independent. -/
theorem kindsCommute_iff_not_dependent {k k' : DataSet} (hk : k ∈ registered) :
    KindsCommute k k' ↔ ¬Dependent (some k) (some k') := by
  constructor
  · rintro h (heq | ⟨hx, heq | heq⟩ | ⟨hx, heq | heq⟩)
    · obtain rfl := Option.some.inj heq
      exact not_kindsCommute_self hk h
    · obtain ⟨rfl, rfl⟩ := And.intro (Option.some.inj hx) (Option.some.inj heq)
      exact not_kindsCommute_hwinfo h
    · obtain ⟨rfl, rfl⟩ := And.intro (Option.some.inj hx) (Option.some.inj heq)
      exact not_kindsCommute_systemstate h
    · obtain ⟨rfl, rfl⟩ := And.intro (Option.some.inj hx) (Option.some.inj heq)
      exact not_kindsCommute_hwinfo h.symm
    · obtain ⟨rfl, rfl⟩ := And.intro (Option.some.inj hx) (Option.some.inj heq)
      exact not_kindsCommute_systemstate h.symm
  · intro h d e hd he
    exact Z21.commute_of_not_dependent (by rwa [hd, he])

/-- The system state and the hardware info commute. -/
theorem kindsCommute_systemstate_hwinfo : KindsCommute .lanSystemstateDatachanged .lanGetHwinfo :=
  (kindsCommute_iff_not_dependent (by decide)).2 (by decide)

end TrainPP
