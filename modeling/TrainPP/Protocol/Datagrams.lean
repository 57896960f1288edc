import TrainPP.Protocol.ReceiveLoop
import TrainPP.Z21.Requests

/-!
# Datagrams

What a datagram does when it arrives depends on its first 128 bytes only, which are what the receive
buffer then begins with (`arrive_of_datasets?`). A `Batch` is a datagram of packed datasets of at
most 128 bytes; its datasets are what `handle_dataset` is called with (`Batch.datasets?_take`).
-/

namespace TrainPP

open Words Runs Framing

/-! ## Packed datasets are frames -/

/-- The arguments of `handle_dataset` for a packed dataset. -/
def Dataset.packed (id : UInt16) (data : List UInt8) : Dataset where
  size := UInt16.ofNat (4 + data.length)
  id := id
  data := data

theorem length_pack (id : UInt16) (data : List UInt8) :
    (Z21DataSet.pack id data).length = 4 + data.length := by
  rw [Z21DataSet.pack, List.length_append]
  rfl

theorem ofFrame_pack (id : UInt16) (data : List UInt8) :
    Dataset.ofFrame (Z21DataSet.pack id data) = Dataset.packed id data := by
  have h : ∀ a : UInt16, le16 (a &&& 0xff).toUInt8 ((a >>> 8) &&& 0xff).toUInt8 = a := fun a => by
    rw [and_255_toUInt8, and_255_toUInt8, le16_bytes]
  exact congrArg₂ (Dataset.mk · · data) (h _) (h id)

theorem isFrame_pack {id : UInt16} {data : List UInt8} (h : 4 + data.length < 2 ^ 16) :
    Dataset.format.IsFrame (Z21DataSet.pack id data) where
  header_le := by
    rw [length_pack]
    exact Nat.le_add_right 4 _
  size_eq := by
    show (Dataset.ofFrame (Z21DataSet.pack id data)).size.toNat = _
    rw [ofFrame_pack, length_pack]
    exact UInt16.toNat_ofNat_of_lt' h

/-- The dataset of a frame is packed to the frame. -/
theorem pack_ofFrame {f : List UInt8} (hf : Dataset.format.IsFrame f) :
    Z21DataSet.pack (Dataset.ofFrame f).id (Dataset.ofFrame f).data = f := by
  have hlen : headerSize ≤ f.length := hf.header_le
  have hsize : (Dataset.ofFrame f).size.toNat = f.length := toNat_size_ofFrame hf
  match f, hlen, hsize with
  | b₀ :: b₁ :: b₂ :: b₃ :: data, _, hsize =>
    have hword : UInt16.ofNat (4 + data.length) = le16 b₀ b₁ := by
      apply UInt16.toNat_inj.1
      have hlt := (le16 b₀ b₁).toNat_lt
      have hnat : (le16 b₀ b₁).toNat = 4 + data.length := by
        refine hsize.trans ?_
        simp only [List.length_cons]
        omega
      rw [UInt16.toNat_ofNat_of_lt' (by rw [← hnat]; exact hlt), hnat]
    show Z21DataSet.pack (le16 b₂ b₃) data = _
    rw [Z21DataSet.pack, hword]
    simp only [and_255_toUInt8, le16_toUInt8, le16_shiftRight_toUInt8, List.cons_append,
      List.nil_append]

/-! ## Arrival -/

theorem getElem_store (recvBuf : RecvBuf) (datagram : List UInt8) {i : ℕ} (hi : i < 128)
    (hd : i < datagram.length) : (recvBuf.store datagram)[i] = datagram[i] := by
  simp only [RecvBuf.store, Vector.getElem_ofFn]
  exact List.getD_eq_getElem _ _ hd

theorem take_store (recvBuf : RecvBuf) (datagram : List UInt8) :
    (recvBuf.store datagram).toList.take (min datagram.length 128) = datagram.take 128 := by
  have hlen : (recvBuf.store datagram).toList.length = 128 := Vector.length_toList
  apply List.ext_getElem
  · rw [List.length_take, List.length_take, hlen]
    omega
  · intro i h₁ h₂
    rw [List.length_take] at h₂
    rw [List.getElem_take, List.getElem_take, Vector.getElem_toList]
    exact getElem_store recvBuf datagram (by omega) (by omega)

section Arrive

variable {σ : Type} (handle : σ → Dataset → Except Checked.Fault σ)

/-- A datagram of datasets is handled dataset by dataset, whatever the buffer held. -/
theorem arrive_of_datasets? {datagram : List UInt8} {ds : List Dataset}
    (h : datasets? (datagram.take 128) = some ds) (r : Receiver σ) :
    arrive handle r datagram = (runAll handle r.client ds).mapError .call >>= fun client =>
      .ok ⟨r.recvBuf.store datagram, r.pendingReceives - 1 + 1, client⟩ := by
  have hn : (UInt64.ofNat (min datagram.length 128)).toNat = min datagram.length 128 :=
    UInt64.toNat_ofNat_of_lt' (by show _ < 2 ^ 64; omega)
  rw [← take_store r.recvBuf, ← hn] at h
  rw [arrive, handleReceive, if_pos (by split_ifs <;> rfl), receiveLoop_of_datasets? (by omega) h]
  rfl

theorem arrive_eq_ok {datagram : List UInt8} {ds : List Dataset}
    (h : datasets? (datagram.take 128) = some ds) {r : Receiver σ} {client : σ}
    (hrun : runAll handle r.client ds = .ok client) :
    arrive handle r datagram =
      .ok ⟨r.recvBuf.store datagram, r.pendingReceives - 1 + 1, client⟩ := by
  rw [arrive_of_datasets? handle h, hrun]
  rfl

/-- A datagram that is not made of datasets takes the loop out of the buffer. -/
theorem arrive_eq_ok_iff {datagram : List UInt8} {r r' : Receiver σ} :
    arrive handle r datagram = .ok r' ↔
      ∃ ds client, datasets? (datagram.take 128) = some ds ∧
        runAll handle r.client ds = .ok client ∧
        r' = ⟨r.recvBuf.store datagram, r.pendingReceives - 1 + 1, client⟩ := by
  have hle : (UInt64.ofNat (min datagram.length 128)).toNat = min datagram.length 128 :=
    UInt64.toNat_ofNat_of_lt' (by show _ < 2 ^ 64; omega)
  rw [arrive, handleReceive_eq_ok_iff (by omega) (by split_ifs <;> rfl), hle, take_store]

end Arrive

/-! ## Batches -/

/-- A datagram of whole datasets, each given by its id and its payload, and of leftover bytes. The
datasets are at most 128 bytes, so that the receive buffer holds all of them; the leftover bytes are
at most three, less than a header. -/
structure Batch where
  items : List (UInt16 × List UInt8)
  leftover : List UInt8
  length_le : (items.map fun i => Z21DataSet.pack i.1 i.2).flatten.length ≤ 128
  length_leftover_le : leftover.length ≤ 3

namespace Batch

/-- A batch without leftover bytes. -/
def ofItems (items : List (UInt16 × List UInt8))
    (h : (items.map fun i => Z21DataSet.pack i.1 i.2).flatten.length ≤ 128) : Batch where
  items := items
  leftover := []
  length_le := h
  length_leftover_le := Nat.zero_le 3

def datagram (b : Batch) : List UInt8 :=
  (b.items.map fun i => Z21DataSet.pack i.1 i.2).flatten ++ b.leftover

def datasets (b : Batch) : List Dataset := b.items.map fun i => Dataset.packed i.1 i.2

theorem isFrame_of_mem (b : Batch) :
    ∀ f ∈ b.items.map (fun i => Z21DataSet.pack i.1 i.2), Dataset.format.IsFrame f := by
  intro f hf
  have hle := (List.sublist_flatten_of_mem hf).length_le.trans b.length_le
  obtain ⟨⟨id, data⟩, -, rfl⟩ := List.mem_map.1 hf
  rw [length_pack] at hle
  exact isFrame_pack (by dsimp only at hle ⊢; omega)

theorem datasets?_take (b : Batch) : datasets? (b.datagram.take 128) = some b.datasets := by
  rw [datagram, List.take_append, List.take_of_length_le b.length_le, datasets?,
    Format.split_flatten_append b.isFrame_of_mem, Option.map_some, List.map_map]
  · congr 1
    exact List.map_congr_left fun i _ => ofFrame_pack i.1 i.2
  · have := b.length_leftover_le
    rw [List.length_take]
    show _ < 4
    omega

end Batch

end TrainPP
