import TrainPP.Protocol.Datagrams
import TrainPP.Protocol.Refinement

/-!
# Delivery of datagrams

* `calls_of_batches`: the datasets of a sequence of datagrams are handed to `handle_dataset` one by
  one and in order, whatever the receive buffer held, so that how they were batched into datagrams
  makes no difference;
* `arrive_twice_iff`: a datagram of sound datasets that arrives twice in a row does what it does
  when it arrives once, exactly when the receive buffer does not cut it off inside a dataset, behind
  its header.
-/

namespace TrainPP

open Checked LastWriter Runs

/-! ## Batching -/

section Batching

variable {σ : Type} (handle : σ → Dataset → Except Fault σ)

theorem toOption_runAll_recording (log : List Dataset) (s : σ) (ds : List Dataset) :
    (runAll (recording handle) (log, s) ds).toOption =
      (runAll handle s ds).toOption.map fun t => (log ++ ds, t) := by
  induction ds generalizing log s with
  | nil =>
    rw [List.append_nil]
    rfl
  | cons d ds ih =>
    cases hd : handle s d with
    | error fault =>
      have hrec : recording handle (log, s) d = .error fault := by rw [recording, hd]; rfl
      rw [runAll_cons_error hd, runAll_cons_error hrec]
      rfl
    | ok s' =>
      have hrec : recording handle (log, s) d = .ok (log ++ [d], s') := by rw [recording, hd]; rfl
      rw [runAll_cons_ok hd, runAll_cons_ok hrec, ih, List.append_assoc]
      rfl

theorem flatMap_datasets (bs : List Batch) :
    bs.flatMap Batch.datasets =
      (bs.flatMap Batch.items).map fun i => Dataset.packed i.1 i.2 :=
  List.map_flatMap.symm

/-- A run over the datagrams of batches is a run over their datasets. -/
theorem toOption_runAll_arrive (bs : List Batch) (r : Receiver σ) :
    (runAll (arrive handle) r (bs.map Batch.datagram)).toOption.map (·.client) =
      (runAll handle r.client (bs.flatMap Batch.datasets)).toOption := by
  induction bs generalizing r with
  | nil => rfl
  | cons b bs ih =>
    rw [List.map_cons, List.flatMap_cons]
    have harrive := arrive_of_datasets? handle b.datasets?_take r
    cases hrun : runAll handle r.client b.datasets with
    | error e =>
      rw [hrun] at harrive
      rw [runAll_cons_error harrive, runAll_append_error hrun]
      rfl
    | ok t =>
      rw [hrun] at harrive
      rw [runAll_cons_ok harrive, runAll_append_ok hrun]
      exact ih _

end Batching

/-- **Batching is invisible**: over the datagrams of any batches, `handle_dataset` is called once
for each of their datasets, in order, with its size, id and payload, and two ways of batching the
same datasets end in the same client, whatever the receive buffers held before. -/
theorem calls_of_batches {σ : Type} (handle : σ → Dataset → Except Fault σ) (r : Receiver σ)
    (bs : List Batch) :
    (runAll (arrive (recording handle)) ⟨r.recvBuf, r.pendingReceives, ([], r.client)⟩
          (bs.map Batch.datagram)).toOption.map (·.client) =
        (runAll handle r.client (bs.flatMap Batch.datasets)).toOption.map
          (fun client => (bs.flatMap Batch.datasets, client)) ∧
      ∀ (r' : Receiver σ) (bs' : List Batch), r'.client = r.client →
        bs'.flatMap Batch.items = bs.flatMap Batch.items →
          (runAll (arrive handle) r' (bs'.map Batch.datagram)).toOption.map (·.client) =
            (runAll (arrive handle) r (bs.map Batch.datagram)).toOption.map (·.client) := by
  constructor
  · rw [toOption_runAll_arrive, toOption_runAll_recording]
    rfl
  · intro r' bs' hclient hitems
    rw [toOption_runAll_arrive, toOption_runAll_arrive, hclient, flatMap_datasets,
      flatMap_datasets, hitems]

/-- A reply to `LAN_GET_SERIAL_NUMBER` and one to `LAN_GET_CODE`, in one datagram with a leftover
byte or in two without. -/
theorem calls_of_two_batchings :
    (runAll (arrive Z21.handleDataset) ⟨Vector.replicate 128 7, 1, Z21.fresh ⟨0, 0, .unknown⟩⟩
        ([⟨[(0x10, [1, 2, 3, 4]), (0x18, [2])], [9], by decide, by decide⟩].map
          Batch.datagram)).toOption.map (·.client) =
      (runAll (arrive Z21.handleDataset) ⟨Vector.replicate 128 0, 1, Z21.fresh ⟨0, 0, .unknown⟩⟩
        ([.ofItems [(0x10, [1, 2, 3, 4])] (by decide), .ofItems [(0x18, [2])] (by decide)].map
          Batch.datagram)).toOption.map (·.client) := by
  obtain ⟨-, hbatching⟩ := calls_of_batches Z21.handleDataset
    ⟨Vector.replicate 128 0, 1, Z21.fresh ⟨0, 0, .unknown⟩⟩
    [.ofItems [(0x10, [1, 2, 3, 4])] (by decide), .ofItems [(0x18, [2])] (by decide)]
  exact hbatching _ _ rfl rfl

/-! ## Duplicates -/

/-- A decodable dataset that is not a corrupted LAN_X body. -/
structure Dataset.Sound (d : Dataset) : Prop where
  decodable : d.Decodable
  intact : d.id = DataSet.lanX.id → LanX.Intact d.data

/-- The effect of a dataset on the registers of the client. -/
def Dataset.effect (d : Dataset) : Effect := d.message.elim {} Message.effect

theorem Z21.handleDataset_of_sound {d : Dataset} (h : d.Sound) (z : Z21) :
    z.handleDataset d = .ok (d.effect.apply z.registers).toZ21 := by
  obtain ⟨m, hm⟩ := Option.isSome_iff_exists.1 (Dataset.message_isSome_iff.2 h.decodable)
  have hne : m ≠ .corrupted := by
    rintro rfl
    have hc := Dataset.message_eq_corrupted_iff.1 hm
    exact hc.not_intact (h.intact hc.id_eq)
  rw [handleDataset_of_message hm, receive_of_ne hne, Dataset.effect, hm]
  rfl

theorem absorbing_effect :
    Absorbing fun (z : Z21) (d : Dataset) => (d.effect.apply z.registers).toZ21 where
  absorb z d e := by
    simp only [Registers.registers_toZ21]
    exact congrArg Registers.toZ21 (absorbing_apply.absorb z.registers d.effect e.effect)
  idem z d := by
    simp only [Registers.registers_toZ21]
    exact congrArg Registers.toZ21 (absorbing_apply.idem z.registers d.effect)

/-- A datagram that arrives twice in a row leaves the client as it does when it arrives once, if
what is received of it is made of sound datasets. -/
theorem arrive_twice_of_sound (r : Receiver Z21) {datagram : List UInt8} {ds : List Dataset}
    (hds : datasets? (datagram.take 128) = some ds) (hsound : ∀ d ∈ ds, d.Sound) :
    ∃ r₁ r₂, arrive Z21.handleDataset r datagram = .ok r₁ ∧
      arrive Z21.handleDataset r₁ datagram = .ok r₂ ∧ r₂.client = r₁.client := by
  have hrun : ∀ z, runAll Z21.handleDataset z ds = .ok _ :=
    runAll_of_total fun d hd z => Z21.handleDataset_of_sound (hsound d hd) z
  refine ⟨_, _, arrive_eq_ok _ hds (hrun _), arrive_eq_ok _ hds (hrun _), ?_⟩
  exact foldl_foldl_of_absorbing absorbing_effect ds r.client

/-- **Duplicates**: in every client state, a datagram of complete and sound datasets that arrives
twice in a row leaves the client as it does when it arrives once, exactly when the 128 bytes of it
that are received are complete datasets, followed by less than a header. -/
theorem arrive_twice_iff (r : Receiver Z21) {fs : List (List UInt8)}
    (hfs : ∀ f ∈ fs, Dataset.format.IsFrame f) (hsound : ∀ f ∈ fs, (Dataset.ofFrame f).Sound) :
    (∃ r₁ r₂, arrive Z21.handleDataset r fs.flatten = .ok r₁ ∧
        arrive Z21.handleDataset r₁ fs.flatten = .ok r₂ ∧ r₂.client = r₁.client) ↔
      Framed (fs.flatten.take 128) := by
  rw [framed_iff]
  constructor
  · rintro ⟨r₁, r₂, h₁, -⟩
    obtain ⟨ds, client, hds, -⟩ := (arrive_eq_ok_iff _).1 h₁
    exact ⟨ds, hds⟩
  · rintro ⟨ds, hds⟩
    refine arrive_twice_of_sound r hds fun d hd => ?_
    obtain ⟨f, hf, rfl⟩ := List.mem_map.1 ((prefix_of_datasets?_take hfs hds).subset hd)
    exact hsound f hf

/-- The frames of a `LAN_X_BC_TRACK_POWER_OFF` and of a rejected system state, which copies what the
handler held. -/
def powerOffFrames : List (List UInt8) := [[7, 0, 0x40, 0, 0x61, 0x00, 0x61], [4, 0, 0x84, 0]]

theorem arrive_twice_powerOffFrames :
    ∃ r₁ r₂, arrive Z21.handleDataset ⟨Vector.replicate 128 0, 1, Z21.fresh ⟨0, 0, .unknown⟩⟩
        powerOffFrames.flatten = .ok r₁ ∧
      arrive Z21.handleDataset r₁ powerOffFrames.flatten = .ok r₂ ∧ r₂.client = r₁.client := by
  have hframe : ∀ f ∈ powerOffFrames, Dataset.format.IsFrame f := by
    rintro f (_ | ⟨_, _ | ⟨_, ⟨⟩⟩⟩)
    · exact ⟨by decide, by decide⟩
    · exact ⟨by decide, by decide⟩
  have hsound : ∀ f ∈ powerOffFrames, (Dataset.ofFrame f).Sound := by
    rintro f (_ | ⟨_, _ | ⟨_, ⟨⟩⟩⟩)
    · exact ⟨Dataset.message_isSome_iff.1 rfl, by decide⟩
    · exact ⟨Dataset.message_isSome_iff.1 rfl, by decide⟩
  exact (arrive_twice_iff _ hframe hsound).2 ⟨powerOffFrames, [], hframe, by decide, rfl⟩

/-- The frame of a system state of twenty bytes. -/
def systemstateFrame : List UInt8 := [20, 0, 0x84, 0] ++ List.replicate 16 0

/-- Seven system states make a datagram of 140 bytes, of which the last is cut off behind its eighth
byte. -/
theorem not_arrive_twice_sevenSystemstates :
    ¬∀ (u : Uninitialized) (past : List Dataset) (z : Z21) (recvBuf : RecvBuf)
        (fs : List (List UInt8)),
      runAll Z21.handleDataset (Z21.fresh u) past = .ok z →
      (∀ f ∈ fs, Dataset.format.IsFrame f) → (∀ f ∈ fs, (Dataset.ofFrame f).Sound) →
      ∃ r₁ r₂, arrive Z21.handleDataset ⟨recvBuf, 1, z⟩ fs.flatten = .ok r₁ ∧
        arrive Z21.handleDataset r₁ fs.flatten = .ok r₂ ∧ r₂.client = r₁.client := by
  intro h
  have hframe : Dataset.format.IsFrame systemstateFrame := ⟨by decide, by decide⟩
  have hsound : (Dataset.ofFrame systemstateFrame).Sound :=
    ⟨Dataset.message_isSome_iff.1 rfl, by decide⟩
  obtain ⟨r₁, -, h₁, -⟩ := h ⟨0, 0, .unknown⟩ [] _ (Vector.replicate 128 0)
    (List.replicate 7 systemstateFrame) rfl
    (fun f hf => (List.eq_of_mem_replicate hf).symm ▸ hframe)
    (fun f hf => (List.eq_of_mem_replicate hf).symm ▸ hsound)
  obtain ⟨ds, client, hds, -⟩ := (arrive_eq_ok_iff _).1 h₁
  have hcut : (List.replicate 7 systemstateFrame).flatten.take 128 =
      (List.replicate 6 systemstateFrame).flatten ++ systemstateFrame.take 8 := by decide
  rw [hcut, datasets?_of_bad_size (fun f hf => (List.eq_of_mem_replicate hf).symm ▸ hframe)
    (by decide) (by decide)] at hds
  cases hds

end TrainPP
