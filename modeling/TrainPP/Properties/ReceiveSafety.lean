import TrainPP.Protocol.ReceiveLoop
import TrainPP.Protocol.Refinement

/-!
# When the receive loop is safe

`handleReceive_safe_iff`: the completion handler of a receive ends, without leaving the receive
buffer, and arms the next receive, exactly when the received bytes are complete datasets followed by
less than a header. The size fields are not tested: a size below the header, or one beyond the
received bytes, takes the loop out of the buffer.
-/

namespace TrainPP

open Checked Runs

theorem exists_runAll_total {σ : Type} (h : σ → Dataset → σ) (s : σ) (ds : List Dataset) :
    ∃ t, runAll (fun s d => (.ok (h s d) : Except Fault σ)) s ds = .ok t :=
  ⟨_, runAll_of_total (fun _ _ _ => rfl) s⟩

/-- A run of the client stays inside the payloads exactly when each dataset is decodable. -/
theorem Z21.exists_runAll_handleDataset_iff (z : Z21) (ds : List Dataset) :
    (∃ z', runAll Z21.handleDataset z ds = .ok z') ↔ ∀ d ∈ ds, d.Decodable :=
  exists_runAll_ok_iff (fun z d => exists_eq_ok_iff.trans (z.isSome_handleDataset_iff d)) z ds

/-- **Safety of the receive loop**: whatever `handle_dataset` computes, as long as it returns, the
completion handler arms exactly one receive, after a loop that ended without leaving the buffer,
exactly when the received bytes are framed. For the client's own `handle_dataset`, the datasets
have to be decodable as well. -/
theorem handleReceive_safe_iff (recvBuf : RecvBuf) {n : UInt64} (hn : n.toNat ≤ 128)
    {error : ErrorCode} (he : error.readable) (armed : ℕ) :
    (∀ {σ : Type} (h : σ → Dataset → σ) (client : σ),
        (∃ client', handleReceive (fun s d => .ok (h s d)) ⟨recvBuf, armed, client⟩ error n =
            .ok ⟨recvBuf, armed + 1, client'⟩) ↔
          Framed (recvBuf.toList.take n.toNat)) ∧
      ∀ z : Z21,
        (∃ z', handleReceive Z21.handleDataset ⟨recvBuf, armed, z⟩ error n =
            .ok ⟨recvBuf, armed + 1, z'⟩) ↔
          ∃ ds, datasets? (recvBuf.toList.take n.toNat) = some ds ∧ ∀ d ∈ ds, d.Decodable := by
  constructor
  · intro σ h client
    rw [framed_iff]
    constructor
    · rintro ⟨client', hok⟩
      obtain ⟨ds, -, hds, -⟩ := (handleReceive_eq_ok_iff hn he).1 hok
      exact ⟨ds, hds⟩
    · rintro ⟨ds, hds⟩
      obtain ⟨t, ht⟩ := exists_runAll_total h client ds
      exact ⟨t, (handleReceive_eq_ok_iff hn he).2 ⟨ds, t, hds, ht, rfl⟩⟩
  · intro z
    constructor
    · rintro ⟨z', hok⟩
      obtain ⟨ds, t, hds, ht, -⟩ := (handleReceive_eq_ok_iff hn he).1 hok
      exact ⟨ds, hds, (z.exists_runAll_handleDataset_iff ds).1 ⟨t, ht⟩⟩
    · rintro ⟨ds, hds, hdec⟩
      obtain ⟨t, ht⟩ := (z.exists_runAll_handleDataset_iff ds).2 hdec
      exact ⟨t, (handleReceive_eq_ok_iff hn he).2 ⟨ds, t, hds, ht, rfl⟩⟩

/-- A buffer that begins with a reply to `LAN_GET_SERIAL_NUMBER`. -/
def serialNumberReply : RecvBuf :=
  RecvBuf.store (Vector.replicate 128 0) [8, 0, 0x10, 0, 1, 2, 3, 4]

theorem framed_serialNumberReply : Framed (serialNumberReply.toList.take (8 : UInt64).toNat) := by
  refine ⟨[[8, 0, 0x10, 0, 1, 2, 3, 4]], [], ?_, by decide, by decide⟩
  rintro f (_ | ⟨_, ⟨⟩⟩)
  exact ⟨by decide, by decide⟩

theorem handleReceive_safe_serialNumberReply :
    ∃ log, handleReceive (fun s d => .ok (s ++ [d])) ⟨serialNumberReply, 0, []⟩ .success 8 =
      .ok ⟨serialNumberReply, 0 + 1, log⟩ := by
  have hn : (8 : UInt64).toNat ≤ 128 := by decide
  have he : ErrorCode.success.readable = true := rfl
  have h := (handleReceive_safe_iff serialNumberReply hn he 0).1
    (fun (s : List Dataset) d => s ++ [d]) []
  exact h.2 framed_serialNumberReply

/-- A datagram of four zero bytes: a dataset of size zero. -/
theorem not_handleReceive_zeroSize :
    ¬ ∃ z', handleReceive Z21.handleDataset
        ⟨Vector.replicate 128 0, 0, Z21.fresh ⟨0, 0, .unknown⟩⟩ .success 4 =
      .ok ⟨Vector.replicate 128 0, 0 + 1, z'⟩ := by
  have hd : readDataset (Vector.replicate 128 0) 0 = .error (.range 4 0 128) := by
    decide +kernel
  rintro ⟨z', h⟩
  rw [handleReceive, if_pos (by rfl), receiveLoop_of_access (by decide) hd, error_bind] at h
  cases h

end TrainPP
