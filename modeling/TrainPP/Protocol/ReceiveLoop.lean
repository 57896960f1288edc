import TrainPP.Foundations.Framing
import TrainPP.Z21.Receive

/-!
# The receive loop cuts the received bytes into datasets

A dataset on the wire is a frame whose header, of four bytes, begins with its length:
`Dataset.format`. The loop is compared with the cutting of a stream into such frames:

* `receiveLoop_of_datasets?`: when the received bytes are cut into frames, the loop hands over these
  frames in order, and does nothing else;
* `receiveLoop_ne_ok`: otherwise it never ends normally. A size below the header makes a range that
  ends before it starts; a size beyond the received bytes takes the position behind them, and from
  there on the guard of the loop holds, until an access leaves the buffer.
-/

namespace TrainPP

open Checked Words Runs Framing

/-! ## The format -/

theorem headerSize_pos : 0 < headerSize := Nat.succ_pos 3

theorem getD_append_of_lt_headerSize (l r : List UInt8) (h : headerSize ≤ l.length) {i : ℕ}
    (hi : i < headerSize) : (l ++ r).getD i 0 = l.getD i 0 := by
  rw [List.getD_eq_getElem?_getD, List.getElem?_append_left (hi.trans_le h),
    List.getD_eq_getElem?_getD]

/-- The total size in a header. -/
def frameSize (l : List UInt8) : ℕ := (le16 (l.getD 0 0) (l.getD 1 0)).toNat

theorem frameSize_append (l r : List UInt8) (h : headerSize ≤ l.length) :
    frameSize (l ++ r) = frameSize l := by
  rw [frameSize, getD_append_of_lt_headerSize l r h headerSize_pos,
    getD_append_of_lt_headerSize l r h (by decide), frameSize]

/-- The frames of datasets: the total size comes first. -/
def Dataset.format : Format UInt8 where
  header := headerSize
  size := frameSize
  header_pos := headerSize_pos
  size_append := frameSize_append

/-- The dataset in a frame. -/
def Dataset.ofFrame (f : List UInt8) : Dataset where
  size := le16 (f.getD 0 0) (f.getD 1 0)
  id := le16 (f.getD 2 0) (f.getD 3 0)
  data := f.drop headerSize

/-- The datasets of the received bytes, when these are complete datasets followed by less than a
header. -/
def datasets? (received : List UInt8) : Option (List Dataset) :=
  (Dataset.format.split received).map (·.map Dataset.ofFrame)

theorem toNat_size_ofFrame {f : List UInt8} (hf : Dataset.format.IsFrame f) :
    (Dataset.ofFrame f).size.toNat = f.length := hf.size_eq

/-! ## One dataset -/

theorem readAt_add {v : List UInt8} {p i : ℕ} (h : p + i < v.length) :
    readAt v (p + i) = .ok ((v.drop p).getD i 0) := by
  rw [readAt_eq_ok_iff, List.getD_eq_getElem?_getD, List.getElem?_drop,
    List.getElem?_eq_getElem h, Option.getD_some]

theorem getD_take {l : List UInt8} {n i : ℕ} (h : i < n) : (l.take n).getD i 0 = l.getD i 0 := by
  rw [List.getD_eq_getElem?_getD, List.getElem?_take_of_lt h, List.getD_eq_getElem?_getD]

theorem toNat_add_of_lt {a b : UInt64} (h : a.toNat + b.toNat < 2 ^ 64) :
    (a + b).toNat = a.toNat + b.toNat := by
  rw [UInt64.toNat_add, Nat.mod_eq_of_lt h]

/-- The range that the loop makes of a payload is the frame behind its header. -/
theorem subrange_payload (v : List UInt8) (p s : ℕ) :
    subrange v (p + headerSize) (p + headerSize + s - headerSize) =
      if headerSize ≤ s ∧ s ≤ v.length - p then .ok (((v.drop p).take s).drop headerSize)
      else .error (.range (p + headerSize) (p + s) v.length) := by
  rw [Nat.add_right_comm p, Nat.add_sub_cancel, subrange, List.drop_take, List.drop_take,
    List.drop_drop, Nat.add_sub_add_left]
  exact if_congr (by rw [headerSize]; omega) rfl rfl

theorem readDataset_eq (recvBuf : RecvBuf) {pos : UInt64} (h : pos.toNat + headerSize ≤ 128) :
    readDataset recvBuf pos =
      let l := recvBuf.toList.drop pos.toNat
      if headerSize ≤ Dataset.format.size l ∧ Dataset.format.size l ≤ l.length then
        .ok (Dataset.ofFrame (l.take (Dataset.format.size l)))
      else .error (.range (pos.toNat + headerSize) (pos.toNat + Dataset.format.size l) 128) := by
  have hv : recvBuf.toList.length = 128 := Vector.length_toList
  rw [headerSize] at h
  have hr : ∀ i : UInt64, i.toNat < 4 → readAt recvBuf.toList (pos + i).toNat =
      .ok ((recvBuf.toList.drop pos.toNat).getD i.toNat 0) := by
    intro i hi
    rw [toNat_add_of_lt (by omega), readAt_add (by omega)]
  have hr₀ := hr 0 (by decide)
  rw [UInt64.add_zero] at hr₀
  rw [readDataset, hr₀, hr 1 (by decide), hr 2 (by decide), hr 3 (by decide)]
  simp only [ok_bind, UInt64.reduceToNat]
  generalize hl : recvBuf.toList.drop pos.toNat = l
  have hlen : l.length = 128 - pos.toNat := by rw [← hl, List.length_drop, hv]
  have hsize : Dataset.format.size l = (le16 (l.getD 0 0) (l.getD 1 0)).toNat := rfl
  rw [subrange_payload, hv, hl, ← hlen, hsize]
  by_cases hs : headerSize ≤ (le16 (l.getD 0 0) (l.getD 1 0)).toNat ∧
      (le16 (l.getD 0 0) (l.getD 1 0)).toNat ≤ l.length
  · rw [if_pos hs, if_pos hs, ok_bind]
    rw [headerSize] at hs
    rw [Dataset.ofFrame, getD_take (by omega), getD_take (by omega), getD_take (by omega),
      getD_take (by omega)]
    rfl
  · rw [if_neg hs, if_neg hs]
    rfl

/-! ## One turn of the loop -/

section Turn

variable {n pos : UInt64}

theorem guard_iff (h : pos.toNat ≤ n.toNat) : 4 ≤ n - pos ↔ pos.toNat + headerSize ≤ n.toNat := by
  have := n.toNat_lt
  rw [UInt64.le_iff_toNat_le, UInt64.toNat_sub, headerSize]
  show 4 ≤ _ ↔ _
  omega

/-- Behind the received bytes the difference in the guard wraps around. -/
theorem guard_of_lt (h : n.toNat < pos.toNat) (hpos : pos.toNat ≤ 128) : 4 ≤ n - pos := by
  have := n.toNat_lt
  rw [UInt64.le_iff_toNat_le, UInt64.toNat_sub]
  show 4 ≤ _
  omega

variable {σ : Type} {handle : σ → Dataset → Except Fault σ} {recvBuf : RecvBuf} {s s' : σ}
  {d : Dataset} {fault : Fault}

theorem receiveLoop_of_not_guard (h : ¬4 ≤ n - pos) :
    receiveLoop handle recvBuf n pos s = .ok s := by
  rw [receiveLoop, if_neg h]

theorem receiveLoop_of_access (h : 4 ≤ n - pos) (hd : readDataset recvBuf pos = .error fault) :
    receiveLoop handle recvBuf n pos s = .error (.access fault s) := by
  rw [receiveLoop, if_pos h]
  split
  · rename_i hd'
    rw [hd] at hd'
    cases hd'
    rfl
  · rename_i hd'
    rw [hd] at hd'
    cases hd'

theorem receiveLoop_of_readDataset (h : 4 ≤ n - pos) (hd : readDataset recvBuf pos = .ok d) :
    receiveLoop handle recvBuf n pos s =
      match handle s d with
      | .error fault => .error (.call ⟨fault, s, d⟩)
      | .ok s' => receiveLoop handle recvBuf n (pos + d.size.toUInt64) s' := by
  rw [receiveLoop, if_pos h]
  split
  · rename_i hd'
    rw [hd] at hd'
    cases hd'
  · rename_i hd'
    rw [hd] at hd'
    cases hd'
    rfl

theorem toNat_pos_add (hd : readDataset recvBuf pos = .ok d) :
    (pos + d.size.toUInt64).toNat = pos.toNat + d.size.toNat := by
  have := le_size_of_readDataset hd
  rw [toNat_add_of_lt]
  · rw [UInt16.toNat_toUInt64]
  · rw [UInt16.toNat_toUInt64]
    omega

end Turn

/-! ## The whole loop -/

section Loop

variable {σ : Type} {handle : σ → Dataset → Except Fault σ} {recvBuf : RecvBuf} {n : UInt64}

/-- The received bytes from a position on. -/
def received (recvBuf : RecvBuf) (n pos : ℕ) : List UInt8 := (recvBuf.toList.take n).drop pos

theorem length_received (recvBuf : RecvBuf) (hn : n.toNat ≤ 128) (pos : ℕ) :
    (received recvBuf n.toNat pos).length = n.toNat - pos := by
  rw [received, List.length_drop, List.length_take, Vector.length_toList, Nat.min_eq_left hn]

theorem drop_eq_received_append (recvBuf : RecvBuf) (hn : n.toNat ≤ 128) {pos : ℕ}
    (hpos : pos ≤ n.toNat) :
    recvBuf.toList.drop pos = received recvBuf n.toNat pos ++ recvBuf.toList.drop n.toNat := by
  rw [received, ← List.drop_append_of_le_length, List.take_append_drop]
  rw [List.length_take, Vector.length_toList]
  omega

theorem size_drop_eq (recvBuf : RecvBuf) (hn : n.toNat ≤ 128) {pos : ℕ}
    (hpos : pos + headerSize ≤ n.toNat) :
    Dataset.format.size (recvBuf.toList.drop pos) =
      Dataset.format.size (received recvBuf n.toNat pos) := by
  rw [drop_eq_received_append recvBuf hn (by omega)]
  exact Dataset.format.size_append _ _ (by rw [length_received _ hn]; show headerSize ≤ _; omega)

theorem received_add {pos : ℕ} {f l : List UInt8} (h : received recvBuf n.toNat pos = f ++ l) :
    received recvBuf n.toNat (pos + f.length) = l := by
  rw [received, ← List.drop_drop, ← received, h, List.drop_left]

/-- A frame at the head of the received bytes is the dataset that the loop reads. -/
theorem readDataset_of_received {pos : UInt64} (hn : n.toNat ≤ 128) (hpos : pos.toNat ≤ n.toNat)
    {f l : List UInt8} (hf : Dataset.format.IsFrame f)
    (h : received recvBuf n.toNat pos.toNat = f ++ l) :
    readDataset recvBuf pos = .ok (Dataset.ofFrame f) := by
  have hlen := length_received recvBuf hn pos.toNat
  have hle : headerSize ≤ f.length := hf.header_le
  rw [h, List.length_append] at hlen
  have hd : recvBuf.toList.drop pos.toNat = f ++ (l ++ recvBuf.toList.drop n.toNat) := by
    rw [drop_eq_received_append recvBuf hn hpos, h, List.append_assoc]
  rw [readDataset_eq _ (by omega), hd]
  dsimp only
  rw [hf.size_append, if_pos ⟨hle, by simp⟩, List.take_left]

/-- A size below the header makes a range that ends before it starts, and a size beyond the buffer
one that ends behind the buffer. -/
theorem readDataset_of_bad_size {pos : UInt64} (hn : n.toNat ≤ 128)
    (hpos : pos.toNat + headerSize ≤ n.toNat) {l : List UInt8}
    (hl : received recvBuf n.toNat pos.toNat = l)
    (hbad : Dataset.format.size l < headerSize ∨ 128 < pos.toNat + Dataset.format.size l) :
    readDataset recvBuf pos =
      .error (.range (pos.toNat + headerSize) (pos.toNat + Dataset.format.size l) 128) := by
  rw [readDataset_eq _ (by omega)]
  dsimp only
  rw [size_drop_eq _ hn hpos, hl, List.length_drop, Vector.length_toList, if_neg (by omega)]

/-- A size beyond the received bytes, but not beyond the buffer, makes a dataset that ends in bytes
that were not received. -/
theorem readDataset_of_overrun {pos : UInt64} (hn : n.toNat ≤ 128)
    (hpos : pos.toNat + headerSize ≤ n.toNat) {l : List UInt8}
    (hl : received recvBuf n.toNat pos.toNat = l) (hover : l.length < Dataset.format.size l)
    (hin : pos.toNat + Dataset.format.size l ≤ 128) :
    Dataset.format.IsFrame ((recvBuf.toList.drop pos.toNat).take (Dataset.format.size l)) ∧
      readDataset recvBuf pos = .ok (Dataset.ofFrame
        ((recvBuf.toList.drop pos.toNat).take (Dataset.format.size l))) := by
  have hlen := length_received recvBuf hn pos.toNat
  have hsize := size_drop_eq recvBuf hn hpos
  rw [hl] at hlen hsize
  have hs : headerSize ≤ Dataset.format.size l := by omega
  have hb : Dataset.format.size l ≤ (recvBuf.toList.drop pos.toNat).length := by
    rw [List.length_drop, Vector.length_toList]
    omega
  rw [← hsize] at hs hb ⊢
  refine ⟨Format.isFrame_take hs hb, ?_⟩
  rw [readDataset_eq _ (by omega)]
  dsimp only
  rw [if_pos ⟨hs, hb⟩]

/-- **What the loop reads at a header**: a frame of the received bytes; or nothing, because of a bad
size; or a dataset that ends in bytes that were not received. -/
theorem size_cases (pos : ℕ) (l : List UInt8) :
    (∃ f rest, Dataset.format.IsFrame f ∧ l = f ++ rest) ∨
      (Dataset.format.size l < headerSize ∨ 128 < pos + Dataset.format.size l) ∨
      (l.length < Dataset.format.size l ∧ pos + Dataset.format.size l ≤ 128) := by
  by_cases hbad : Dataset.format.size l < headerSize ∨ 128 < pos + Dataset.format.size l
  · exact .inr (.inl hbad)
  by_cases hin : Dataset.format.size l ≤ l.length
  · exact .inl ⟨l.take (Dataset.format.size l), l.drop (Dataset.format.size l),
      Format.isFrame_take (by show headerSize ≤ _; omega) hin, (List.take_append_drop _ l).symm⟩
  · exact .inr (.inr ⟨by omega, by omega⟩)

/-- A dataset that is read is a frame of the received bytes, or ends in bytes that were not
received. -/
theorem readDataset_cases {pos : UInt64} {d : Dataset} (hn : n.toNat ≤ 128)
    (hpos : pos.toNat + headerSize ≤ n.toNat) (hd : readDataset recvBuf pos = .ok d) :
    (∃ f rest, Dataset.format.IsFrame f ∧ received recvBuf n.toNat pos.toNat = f ++ rest ∧
        d = Dataset.ofFrame f) ∨
      ((received recvBuf n.toNat pos.toNat).length < d.size.toNat ∧
        d.size.toNat = Dataset.format.size (received recvBuf n.toNat pos.toNat)) := by
  rcases size_cases pos.toNat (received recvBuf n.toNat pos.toNat) with
    ⟨f, rest, hf, hl⟩ | hbad | ⟨hover, hin⟩
  · rw [readDataset_of_received hn (by omega) hf hl] at hd
    exact .inl ⟨f, rest, hf, hl, (Except.ok.inj hd).symm⟩
  · rw [readDataset_of_bad_size hn hpos rfl hbad] at hd
    cases hd
  · obtain ⟨hf, hd'⟩ := readDataset_of_overrun hn hpos rfl hover hin
    rw [hd'] at hd
    cases hd
    rw [toNat_size_ofFrame hf, List.length_take_of_le
      (by rw [List.length_drop, Vector.length_toList]; omega)]
    exact .inr ⟨hover, rfl⟩

/-- **Received frames are handed over in order**, and the loop goes on behind them. -/
theorem receiveLoop_of_frames (hn : n.toNat ≤ 128) {fs : List (List UInt8)} {r : List UInt8}
    (hfs : ∀ f ∈ fs, Dataset.format.IsFrame f) :
    ∀ {pos : UInt64}, pos.toNat ≤ n.toNat →
      received recvBuf n.toNat pos.toNat = fs.flatten ++ r →
      ∃ pos' : UInt64, pos'.toNat = pos.toNat + fs.flatten.length ∧
        ∀ s : σ, receiveLoop handle recvBuf n pos s =
          (runAll handle s (fs.map Dataset.ofFrame)).mapError .call >>=
            receiveLoop handle recvBuf n pos' := by
  induction fs with
  | nil => exact fun {pos} _ _ => ⟨pos, rfl, fun _ => rfl⟩
  | cons f fs ih =>
    intro pos hpos h
    have hf := hfs f (by simp)
    have hle : headerSize ≤ f.length := hf.header_le
    rw [List.flatten_cons, List.append_assoc] at h
    have hlen := length_received recvBuf hn pos.toNat
    rw [h, List.length_append] at hlen
    have hd := readDataset_of_received hn hpos hf h
    have hadd := toNat_pos_add hd
    rw [toNat_size_ofFrame hf] at hadd
    have hnext := received_add h
    rw [← hadd] at hnext
    obtain ⟨pos', hpos', hloop⟩ := ih (fun g hg => hfs g (by simp [hg])) (by omega) hnext
    refine ⟨pos', by rw [hpos', hadd, List.flatten_cons, List.length_append, Nat.add_assoc],
      fun s => ?_⟩
    rw [receiveLoop_of_readDataset (by rw [guard_iff hpos]; omega) hd, List.map_cons]
    cases hs : handle s (Dataset.ofFrame f) with
    | error fault =>
      rw [runAll_cons_error hs]
      rfl
    | ok s' =>
      rw [runAll_cons_ok hs]
      exact hloop s'

/-- A loop behind the received bytes never ends normally. -/
theorem receiveLoop_ne_ok_of_lt {pos : UInt64} (s t : σ) (hlt : n.toNat < pos.toNat)
    (hpos : pos.toNat ≤ 128) : receiveLoop handle recvBuf n pos s ≠ .ok t := by
  induction pos, s using receiveLoop.induct handle recvBuf n with
  | case1 pos s hg fault hd =>
    rw [receiveLoop_of_access hg hd]
    exact error_ne_ok
  | case2 pos s hg d hd fault hs =>
    rw [receiveLoop_of_readDataset hg hd, hs]
    exact error_ne_ok
  | case3 pos s hg d hd s' hs ih =>
    have hsize := le_size_of_readDataset hd
    have hadd := toNat_pos_add hd
    rw [receiveLoop_of_readDataset hg hd, hs]
    exact ih (by omega) (by omega)
  | case4 pos s hg => exact absurd (guard_of_lt hlt hpos) hg

/-- **Received bytes that are not frames** never let the loop end normally. -/
theorem receiveLoop_ne_ok (hn : n.toNat ≤ 128) {pos : UInt64} (s t : σ)
    (hpos : pos.toNat ≤ n.toNat)
    (hsplit : Dataset.format.split (received recvBuf n.toNat pos.toNat) = none) :
    receiveLoop handle recvBuf n pos s ≠ .ok t := by
  induction pos, s using receiveLoop.induct handle recvBuf n with
  | case1 pos s hg fault hd =>
    rw [receiveLoop_of_access hg hd]
    exact error_ne_ok
  | case2 pos s hg d hd fault hs =>
    rw [receiveLoop_of_readDataset hg hd, hs]
    exact error_ne_ok
  | case3 pos s hg d hd s' hs ih =>
    have hlen := length_received recvBuf hn pos.toNat
    have hadd := toNat_pos_add hd
    rw [receiveLoop_of_readDataset hg hd, hs]
    rcases readDataset_cases hn ((guard_iff hpos).1 hg) hd with
      ⟨f, rest, hf, hl, rfl⟩ | ⟨hover, -⟩
    · -- what follows the frame is not cut into frames either
      rw [toNat_size_ofFrame hf] at hadd
      rw [hl, List.length_append] at hlen
      rw [hl, Format.split_append hf, Option.map_eq_none_iff, ← received_add hl, ← hadd] at hsplit
      exact ih (by omega) hsplit
    · have hsize := le_size_of_readDataset hd
      exact receiveLoop_ne_ok_of_lt s' t (by omega) (by omega)
  | case4 pos s hg =>
    have hlen := length_received recvBuf hn pos.toNat
    rw [guard_iff hpos] at hg
    rw [Format.split_of_length_lt (by rw [hlen]; show _ < headerSize; omega)] at hsplit
    cases hsplit

/-! ## The datasets of the received bytes -/

theorem received_zero (recvBuf : RecvBuf) :
    received recvBuf n.toNat (0 : UInt64).toNat = recvBuf.toList.take n.toNat :=
  rfl

theorem receiveLoop_of_datasets? (hn : n.toNat ≤ 128) {ds : List Dataset}
    (h : datasets? (recvBuf.toList.take n.toNat) = some ds) (s : σ) :
    receiveLoop handle recvBuf n 0 s = (runAll handle s ds).mapError .call := by
  obtain ⟨fs, hfs, rfl⟩ := Option.map_eq_some_iff.1 h
  obtain ⟨hframe, r, hr, hl⟩ := Format.split_eq_some_iff.1 hfs
  have hr : r.length < headerSize := hr
  rw [← received_zero] at hl
  obtain ⟨pos', hpos', hloop⟩ := receiveLoop_of_frames hn hframe (Nat.zero_le _) hl
  have hlen := length_received recvBuf hn (0 : UInt64).toNat
  rw [hl, List.length_append, UInt64.toNat_zero] at hlen
  rw [UInt64.toNat_zero] at hpos'
  -- less than a header is left
  have hend : ∀ s', receiveLoop handle recvBuf n pos' s' = .ok s' := fun s' =>
    receiveLoop_of_not_guard (by rw [guard_iff (by omega)]; omega)
  rw [hloop s]
  cases runAll handle s (fs.map Dataset.ofFrame) with
  | error e => rfl
  | ok s' => exact hend s'

/-- **The loop ends normally exactly when** the received bytes are datasets and the handler returns
from each of them. -/
theorem receiveLoop_eq_ok_iff (hn : n.toNat ≤ 128) {s t : σ} :
    receiveLoop handle recvBuf n 0 s = .ok t ↔
      ∃ ds, datasets? (recvBuf.toList.take n.toNat) = some ds ∧ runAll handle s ds = .ok t := by
  cases h : datasets? (recvBuf.toList.take n.toNat) with
  | none =>
    refine iff_of_false ?_ (by simp)
    exact receiveLoop_ne_ok hn s t (Nat.zero_le _) (Option.map_eq_none_iff.1 h)
  | some ds =>
    rw [receiveLoop_of_datasets? hn h]
    cases hrun : runAll handle s ds with
    | error e => simp [Except.mapError, hrun]
    | ok t' => simp [Except.mapError, hrun]

/-- Complete datasets, followed by less than a header. -/
def Framed (l : List UInt8) : Prop :=
  ∃ (fs : List (List UInt8)) (r : List UInt8),
    (∀ f ∈ fs, Dataset.format.IsFrame f) ∧ r.length < headerSize ∧ l = fs.flatten ++ r

theorem framed_iff {l : List UInt8} : Framed l ↔ ∃ ds, datasets? l = some ds := by
  constructor
  · rintro ⟨fs, r, hfs, hr, hl⟩
    have hsplit := Format.split_eq_some_iff.2 ⟨hfs, r, hr, hl⟩
    exact ⟨_, by rw [datasets?, hsplit, Option.map_some]⟩
  · rintro ⟨ds, hds⟩
    obtain ⟨fs, hfs, -⟩ := Option.map_eq_some_iff.1 hds
    obtain ⟨hframe, r, hr, hl⟩ := Format.split_eq_some_iff.1 hfs
    exact ⟨fs, r, hframe, hr, hl⟩

/-- A header that declares less than itself, or more than there is behind it, is not framed. -/
theorem datasets?_of_bad_size {fs : List (List UInt8)} {rest : List UInt8}
    (hfs : ∀ f ∈ fs, Dataset.format.IsFrame f) (hheader : headerSize ≤ rest.length)
    (hbad : ¬(headerSize ≤ Dataset.format.size rest ∧ Dataset.format.size rest ≤ rest.length)) :
    datasets? (fs.flatten ++ rest) = none := by
  rw [datasets?, Format.split_append_flatten hfs, Format.split_of_not_size hheader hbad]
  rfl

/-- The datasets that are left of datasets that end early are the first ones. -/
theorem prefix_of_datasets?_take {fs : List (List UInt8)} {ds : List Dataset}
    (hfs : ∀ f ∈ fs, Dataset.format.IsFrame f) {n : ℕ}
    (h : datasets? (fs.flatten.take n) = some ds) : ds <+: fs.map Dataset.ofFrame := by
  obtain ⟨gs, hgs, rfl⟩ := Option.map_eq_some_iff.1 h
  exact (Format.prefix_of_split_take hfs hgs).map _

/-! ## The completion handler -/

theorem handleReceive_eq_ok_iff (hn : n.toNat ≤ 128) {error : ErrorCode} (he : error.readable)
    {armed : ℕ} {s : σ} {r : Receiver σ} :
    handleReceive handle ⟨recvBuf, armed, s⟩ error n = .ok r ↔
      ∃ ds t, datasets? (recvBuf.toList.take n.toNat) = some ds ∧ runAll handle s ds = .ok t ∧
        r = ⟨recvBuf, armed + 1, t⟩ := by
  rw [handleReceive, if_pos he, bind_eq_ok_iff]
  constructor
  · rintro ⟨t, ht, hr⟩
    obtain ⟨ds, hds, hrun⟩ := (receiveLoop_eq_ok_iff hn).1 ht
    exact ⟨ds, t, hds, hrun, (Except.ok.inj hr).symm⟩
  · rintro ⟨ds, t, hds, hrun, rfl⟩
    exact ⟨t, (receiveLoop_eq_ok_iff hn).2 ⟨ds, hds, hrun⟩, rfl⟩

end Loop

end TrainPP
