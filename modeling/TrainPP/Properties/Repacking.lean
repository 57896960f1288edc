import TrainPP.Properties.StaleBytes

/-!
# Packing what the loop has unpacked

`repack_calls`: the receive loop cuts the buffer without a gap and without an overlap. Whatever the
buffer holds, the datasets that the loop hands over until it ends, or until its first access outside
the buffer, packed again one after the other, are the bytes that the buffer begins with; and when
the loop ends, they are the received bytes up to less than a header.
-/

namespace TrainPP

open Checked Runs

/-- The datasets of a list, packed one after the other. -/
def repack (ds : List Dataset) : List UInt8 :=
  (ds.map fun d => Z21DataSet.pack d.id d.data).flatten

theorem repack_concat (ds : List Dataset) (d : Dataset) :
    repack (ds ++ [d]) = repack ds ++ Z21DataSet.pack d.id d.data := by
  simp [repack]

/-- Packing the datasets of frames gives the frames. -/
theorem repack_map_ofFrame {fs : List (List UInt8)} (h : ∀ f ∈ fs, Dataset.format.IsFrame f) :
    repack (fs.map Dataset.ofFrame) = fs.flatten := by
  rw [repack, List.map_map]
  refine congrArg List.flatten ?_
  calc fs.map _ = fs.map id := List.map_congr_left fun f hf => pack_ofFrame (h f hf)
    _ = fs := List.map_id fs

/-- The size of a dataset is its own. -/
def Dataset.SizeAgrees (d : Dataset) : Prop := d.size.toNat = headerSize + d.data.length

theorem length_repack {ds : List Dataset} (h : ∀ d ∈ ds, d.SizeAgrees) :
    (repack ds).length = (ds.map fun d => d.size.toNat).sum := by
  induction ds with
  | nil => rfl
  | cons d ds ih =>
    rw [List.forall_mem_cons] at h
    have hlen : (Z21DataSet.pack d.id d.data).length = d.size.toNat := by
      rw [length_pack, h.1]
      rfl
    rw [repack, List.map_cons, List.flatten_cons, List.length_append, hlen, ← repack, ih h.2]
    simp

/-- A list has no more datasets than headers fit in it. -/
theorem headerSize_mul_length_le {ds : List Dataset} (h : ∀ d ∈ ds, d.SizeAgrees) :
    headerSize * ds.length ≤ (repack ds).length := by
  rw [length_repack h]
  induction ds with
  | nil => exact Nat.le_refl 0
  | cons d ds ih =>
    rw [List.forall_mem_cons] at h
    have hd : d.size.toNat = headerSize + d.data.length := h.1
    have hrest := ih h.2
    rw [List.length_cons, Nat.mul_succ, List.map_cons, List.sum_cons]
    omega

/-! ## One dataset -/

section Loop

variable {recvBuf : RecvBuf} {pos : UInt64} {d : Dataset}

/-- What the loop reads at a position, packed again, is what stands there. -/
theorem pack_of_readDataset (h : readDataset recvBuf pos = .ok d) :
    Z21DataSet.pack d.id d.data = (recvBuf.toList.drop pos.toNat).take d.size.toNat ∧
      d.SizeAgrees := by
  have hle := le_size_of_readDataset h
  rw [readDataset_eq recvBuf (by omega)] at h
  dsimp only at h
  split_ifs at h with hsize
  cases h
  have hframe := Framing.Format.isFrame_take hsize.1 hsize.2
  have hlen := toNat_size_ofFrame hframe
  rw [List.length_take, Nat.min_eq_left hsize.2] at hlen
  refine ⟨by rw [pack_ofFrame hframe, hlen], ?_⟩
  show _ = headerSize + (List.drop headerSize _).length
  rw [hlen, List.length_drop, List.length_take, Nat.min_eq_left hsize.2]
  omega

/-- The datasets handed over so far are what stands before a position. -/
structure Consumed (recvBuf : RecvBuf) (pos : ℕ) (ds : List Dataset) : Prop where
  repack_eq : repack ds = recvBuf.toList.take pos
  sizeAgrees : ∀ d ∈ ds, d.SizeAgrees

theorem Consumed.concat {ds : List Dataset} (h : Consumed recvBuf pos.toNat ds)
    (hd : readDataset recvBuf pos = .ok d) :
    Consumed recvBuf (pos + d.size.toUInt64).toNat (ds ++ [d]) := by
  obtain ⟨hpack, hsize⟩ := pack_of_readDataset hd
  refine ⟨?_, ?_⟩
  · rw [repack_concat, h.repack_eq, hpack, toNat_pos_add hd, List.take_add]
  · rw [List.forall_mem_append, List.forall_mem_singleton]
    exact ⟨h.sizeAgrees, hsize⟩

/-- From a position on, the loop goes on cutting the buffer where it stands. -/
theorem Consumed.calls_receiveLoop {σ : Type} (handle : σ → Dataset → Except Fault σ)
    {n : UInt64} {p : List Dataset × σ} (h : Consumed recvBuf pos.toNat p.1) :
    ∃ k, Consumed recvBuf k (calls (receiveLoop (recording handle) recvBuf n pos p)) := by
  induction pos, p using receiveLoop.induct (recording handle) recvBuf n with
  | case1 pos p hg fault hd =>
    rw [receiveLoop_of_access hg hd]
    exact ⟨_, h⟩
  | case2 pos p hg d hd fault hc =>
    rw [receiveLoop_of_readDataset hg hd, hc]
    exact ⟨_, h.concat hd⟩
  | case3 pos p hg d hd q hc ih =>
    rw [receiveLoop_of_readDataset hg hd, hc]
    refine ih ?_
    rw [(recording_eq_ok_iff.1 hc).2]
    exact h.concat hd
  | case4 pos p hg =>
    rw [receiveLoop_of_not_guard hg]
    exact ⟨_, h⟩

end Loop

/-! ## All datasets -/

/-- **Packing undoes the receive loop**: for any handler, what the loop hands over until it ends, or
until its first access outside the buffer, has the size of its payload, is at most 32 datasets, and
packs to the bytes that the buffer begins with. When the loop ends, less than a header of the
received bytes is left over. -/
theorem repack_calls {σ : Type} (handle : σ → Dataset → Except Fault σ) (recvBuf : RecvBuf)
    {n : UInt64} (hn : n.toNat ≤ 128) (s : σ) :
    let ended := receiveLoop (recording handle) recvBuf n 0 ([], s)
    (∀ d ∈ calls ended, d.size.toNat = headerSize + d.data.length) ∧
      (calls ended).length ≤ 32 ∧
      repack (calls ended) <+: recvBuf.toList ∧
      ∀ p, ended = .ok p → ∃ rest, rest.length < headerSize ∧
        recvBuf.toList.take n.toNat = repack p.1 ++ rest := by
  intro ended
  have hstart : Consumed recvBuf (0 : UInt64).toNat [] := ⟨rfl, by simp⟩
  obtain ⟨k, hk⟩ := Consumed.calls_receiveLoop (n := n) (p := ([], s)) handle hstart
  have hprefix : repack (calls ended) <+: recvBuf.toList := by
    rw [hk.repack_eq]
    exact List.take_prefix k _
  refine ⟨hk.sizeAgrees, ?_, hprefix, ?_⟩
  · have hcount := headerSize_mul_length_le hk.sizeAgrees
    have hlen := hprefix.length_le
    rw [Vector.length_toList] at hlen
    have hfour : headerSize * (calls ended).length ≤ 128 := hcount.trans hlen
    rw [headerSize] at hfour
    omega
  · intro p hp
    obtain ⟨ds, hds, hrun⟩ := (receiveLoop_eq_ok_iff hn).1 hp
    obtain ⟨fs, hfs, rfl⟩ := Option.map_eq_some_iff.1 hds
    obtain ⟨hframes, rest, hrest, hl⟩ := Framing.Format.split_eq_some_iff.1 hfs
    have hlog := toOption_runAll_recording handle [] s (fs.map Dataset.ofFrame)
    rw [hrun] at hlog
    obtain ⟨t, -, ht⟩ := Option.map_eq_some_iff.1 hlog.symm
    refine ⟨rest, hrest, ?_⟩
    rw [hl, ← ht, List.nil_append, repack_map_ofFrame hframes]

/-- The reply to `LAN_GET_SERIAL_NUMBER` is packed again. -/
theorem repack_serialNumberReply :
    repack (calls (receiveLoop (recording fun (s : Unit) _ => .ok s) serialNumberReply 8 0
      ([], ()))) <+: serialNumberReply.toList :=
  (repack_calls _ serialNumberReply (by decide) ()).2.2.1

end TrainPP
