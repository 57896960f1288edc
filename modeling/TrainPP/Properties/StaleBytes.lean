import TrainPP.Properties.Delivery
import TrainPP.Properties.ReceiveSafety

/-!
# When stale bytes of the receive buffer matter

Two receive buffers that agree on the received bytes may differ behind them, in what earlier
datagrams left. Handling the received bytes in either makes the same calls of `handle_dataset` and
ends in the same client exactly when the received bytes are complete datasets, followed by less than
a header, and the handler returns from each of them (`outcome_congr_iff`). A dataset that is reached
and whose size ends behind the received bytes has a payload that ends in stale bytes: if it does not
end behind the buffer, too, the calls are different ones for some other stale bytes
(`exists_calls_ne_of_overrun`).
-/

namespace TrainPP

open Checked Runs Framing

/-! ## Outcomes -/

section Outcome

variable {σ : Type} (handle : σ → Dataset → Except Fault σ) (s : σ)

/-- The calls that `handle_receive` makes on a client, and how it ends: in a client state, or where
it is left. -/
def outcome (recvBuf : RecvBuf) (error : ErrorCode) (n : UInt64) :
    Except (Stop (List Dataset × σ)) (List Dataset × σ) :=
  (handleReceive (recording handle) ⟨recvBuf, 0, ([], s)⟩ error n).map (·.client)

/-- On both buffers `handle_receive` ends without having left the buffer or a payload, with the same
calls made and in the same client state. -/
def SameOutcome (error : ErrorCode) (n : UInt64) (b₁ b₂ : RecvBuf) : Prop :=
  ∃ p, outcome handle s b₁ error n = .ok p ∧ outcome handle s b₂ error n = .ok p

variable {handle s}

theorem outcome_eq_receiveLoop {error : ErrorCode} (he : error.readable) (recvBuf : RecvBuf)
    (n : UInt64) :
    outcome handle s recvBuf error n = receiveLoop (recording handle) recvBuf n 0 ([], s) := by
  rw [outcome, handleReceive, if_pos he]
  dsimp only
  cases receiveLoop (recording handle) recvBuf n 0 ([], s) <;> rfl

theorem runAll_recording_eq_ok_iff {log ds : List Dataset} {p : List Dataset × σ} :
    runAll (recording handle) (log, s) ds = .ok p ↔
      runAll handle s ds = .ok p.2 ∧ p.1 = log ++ ds := by
  rw [← toOption_eq_some_iff, toOption_runAll_recording, Option.map_eq_some_iff]
  simp only [toOption_eq_some_iff, Prod.ext_iff]
  constructor
  · rintro ⟨t, ht, hlog, rfl⟩
    exact ⟨ht, hlog.symm⟩
  · rintro ⟨ht, hlog⟩
    exact ⟨p.2, ht, hlog.symm, rfl⟩

/-- An outcome without a failure has the calls for the datasets of the received bytes. -/
theorem outcome_eq_ok_iff {error : ErrorCode} (he : error.readable) {recvBuf : RecvBuf} {n : UInt64}
    (hn : n.toNat ≤ 128) {p : List Dataset × σ} :
    outcome handle s recvBuf error n = .ok p ↔
      datasets? (recvBuf.toList.take n.toNat) = some p.1 ∧ runAll handle s p.1 = .ok p.2 := by
  rw [outcome_eq_receiveLoop he, receiveLoop_eq_ok_iff hn]
  simp only [runAll_recording_eq_ok_iff, List.nil_append]
  constructor
  · rintro ⟨ds, hds, hrun, rfl⟩
    exact ⟨hds, hrun⟩
  · rintro ⟨hds, hrun⟩
    exact ⟨p.1, hds, hrun, rfl⟩

/-- Buffers that agree on the received bytes have the same outcome exactly when these bytes are
datasets from which the handler returns. -/
theorem sameOutcome_iff {error : ErrorCode} (he : error.readable) {b₁ : RecvBuf} {n : UInt64}
    (hn : n.toNat ≤ 128) :
    (∀ b₂ : RecvBuf, b₂.toList.take n.toNat = b₁.toList.take n.toNat →
        SameOutcome handle s error n b₁ b₂) ↔
      ∃ ds, datasets? (b₁.toList.take n.toNat) = some ds ∧ ∃ t, runAll handle s ds = .ok t := by
  constructor
  · intro h
    obtain ⟨p, hp, -⟩ := h b₁ rfl
    obtain ⟨hds, hrun⟩ := (outcome_eq_ok_iff he hn).1 hp
    exact ⟨p.1, hds, p.2, hrun⟩
  · rintro ⟨ds, hds, t, hrun⟩ b₂ hb
    have hds₂ := hds
    rw [← hb] at hds₂
    exact ⟨(ds, t), (outcome_eq_ok_iff he hn).2 ⟨hds, hrun⟩,
      (outcome_eq_ok_iff he hn).2 ⟨hds₂, hrun⟩⟩

end Outcome

/-- The calls of an outcome, the one that did not return included. -/
def calls {σ : Type} : Except (Stop (List Dataset × σ)) (List Dataset × σ) → List Dataset
  | .ok p => p.1
  | .error (.access _ p) => p.1
  | .error (.call e) => e.state.1 ++ [e.input]

theorem recording_eq_ok_iff {σ : Type} {handle : σ → Dataset → Except Fault σ} {d : Dataset}
    {p q : List Dataset × σ} :
    recording handle p d = .ok q ↔ handle p.2 d = .ok q.2 ∧ q.1 = p.1 ++ [d] := by
  rcases q with ⟨log, s⟩
  rw [recording]
  cases handle p.2 d with
  | error fault => simp [Except.map]
  | ok s' => simp [Except.map, eq_comm, and_comm]

/-- The calls of a loop begin with the calls made before it. -/
theorem prefix_calls_receiveLoop {σ : Type} (handle : σ → Dataset → Except Fault σ)
    (recvBuf : RecvBuf) (n pos : UInt64) (p : List Dataset × σ) :
    p.1 <+: calls (receiveLoop (recording handle) recvBuf n pos p) := by
  induction pos, p using receiveLoop.induct (recording handle) recvBuf n with
  | case1 pos p hg fault hd =>
    rw [receiveLoop_of_access hg hd]
    exact List.prefix_rfl
  | case2 pos p hg d hd fault hc =>
    rw [receiveLoop_of_readDataset hg hd, hc]
    exact List.prefix_append _ _
  | case3 pos p hg d hd q hc ih =>
    rw [receiveLoop_of_readDataset hg hd, hc]
    rw [(recording_eq_ok_iff.1 hc).2] at ih
    exact (List.prefix_append _ _).trans ih
  | case4 pos p hg =>
    rw [receiveLoop_of_not_guard hg]
    exact List.prefix_rfl

/-- The calls of a loop that reads a dataset begin with the calls made before it and the call for
this dataset. -/
theorem prefix_calls_of_readDataset {σ : Type} (handle : σ → Dataset → Except Fault σ)
    {recvBuf : RecvBuf} {n pos : UInt64} {d : Dataset} (hg : 4 ≤ n - pos)
    (hd : readDataset recvBuf pos = .ok d) (p : List Dataset × σ) :
    p.1 ++ [d] <+: calls (receiveLoop (recording handle) recvBuf n pos p) := by
  rw [receiveLoop_of_readDataset hg hd]
  cases hc : recording handle p d with
  | error fault => exact List.prefix_rfl
  | ok q =>
    rw [← (recording_eq_ok_iff.1 hc).2]
    exact prefix_calls_receiveLoop _ _ _ _ q

/-! ## Stale bytes in a payload -/

theorem received_congr {b₁ b₂ : RecvBuf} {n : UInt64}
    (hb : b₂.toList.take n.toNat = b₁.toList.take n.toNat) (pos : ℕ) :
    received b₂ n.toNat pos = received b₁ n.toNat pos := by
  rw [received, received, hb]

/-- The buffer with another byte at `i`. -/
def changeByte (recvBuf : RecvBuf) (i : ℕ) (hi : i < 128) : RecvBuf :=
  recvBuf.set i (recvBuf[i] + 1)

theorem take_changeByte (recvBuf : RecvBuf) {i : ℕ} (hi : i < 128) :
    (changeByte recvBuf i hi).toList.take i = recvBuf.toList.take i := by
  rw [changeByte, Vector.toList_set, List.take_set_of_le le_rfl]

theorem ofFrame_changeByte_ne (recvBuf : RecvBuf) {pos i size : ℕ} (hi : i < 128)
    (hpos : pos + headerSize ≤ i) (hsize : i < pos + size) :
    Dataset.ofFrame (((changeByte recvBuf i hi).toList.drop pos).take size) ≠
      Dataset.ofFrame ((recvBuf.toList.drop pos).take size) := by
  intro h
  have hdata := congrArg (fun d => d.data[i - pos - headerSize]?) h
  rw [headerSize] at hpos
  simp only [Dataset.ofFrame, headerSize, List.getElem?_drop] at hdata
  rw [List.getElem?_take_of_lt (by omega), List.getElem?_take_of_lt (by omega),
    List.getElem?_drop, List.getElem?_drop, show pos + (4 + (i - pos - 4)) = i by omega,
    Vector.getElem?_toList, Vector.getElem?_toList, Vector.getElem?_eq_getElem hi,
    Vector.getElem?_eq_getElem hi, changeByte, Vector.getElem_set_self, Option.some.injEq] at hdata
  have hnat := congrArg UInt8.toNat hdata
  have hlt := recvBuf[i].toNat_lt
  rw [UInt8.toNat_add] at hnat
  change (_ + 1) % 2 ^ 8 = _ at hnat
  omega

/-- **Stale bytes in a payload**: when the loop reaches a dataset whose size ends behind the
received bytes but not behind the buffer, there are other stale bytes with which its calls are
different ones. -/
theorem exists_calls_ne_of_overrun {σ : Type} {handle : σ → Dataset → Except Fault σ} {s t : σ}
    (b₁ : RecvBuf) {error : ErrorCode} (he : error.readable) {n : UInt64} (hn : n.toNat ≤ 128)
    {fs : List (List UInt8)} {rest : List UInt8} (hl : b₁.toList.take n.toNat = fs.flatten ++ rest)
    (hframe : ∀ f ∈ fs, Dataset.format.IsFrame f)
    (hrun : runAll handle s (fs.map Dataset.ofFrame) = .ok t) (hheader : headerSize ≤ rest.length)
    (hover : rest.length < Dataset.format.size rest)
    (hin : fs.flatten.length + Dataset.format.size rest ≤ 128) :
    ∃ b₂ : RecvBuf, b₂.toList.take n.toNat = b₁.toList.take n.toNat ∧
      calls (outcome handle s b₁ error n) ≠ calls (outcome handle s b₂ error n) := by
  rw [← received_zero] at hl
  have hlen := length_received b₁ hn (0 : UInt64).toNat
  rw [hl, List.length_append, UInt64.toNat_zero] at hlen
  -- the first byte behind the received ones
  have hi : n.toNat < 128 := by omega
  have hb := take_changeByte b₁ hi
  refine ⟨changeByte b₁ n.toNat hi, hb, fun heq => ?_⟩
  rw [outcome_eq_receiveLoop he, outcome_eq_receiveLoop he] at heq
  -- both loops come to the dataset in question with the same calls made
  obtain ⟨p, hp, hloop₁⟩ := receiveLoop_of_frames hn hframe (Nat.zero_le _) hl
  obtain ⟨p', hp', hloop₂⟩ :=
    receiveLoop_of_frames hn hframe (Nat.zero_le _) ((received_congr hb _).trans hl)
  obtain rfl := UInt64.toNat_inj.1 (hp'.trans hp.symm)
  have hlog : runAll (recording handle) ([], s) (fs.map Dataset.ofFrame) =
      .ok (fs.map Dataset.ofFrame, t) := runAll_recording_eq_ok_iff.2 ⟨hrun, rfl⟩
  rw [hloop₁, hloop₂, hlog] at heq
  change calls (receiveLoop _ b₁ n p' _) = calls (receiveLoop _ (changeByte b₁ n.toNat hi) n p' _)
    at heq
  -- there they read different datasets
  rw [UInt64.toNat_zero] at hp
  have hrest₁ : received b₁ n.toNat p'.toNat = rest := by rw [hp]; exact received_add hl
  have hrest₂ : received (changeByte b₁ n.toNat hi) n.toNat p'.toNat = rest :=
    (received_congr hb _).trans hrest₁
  have hpos : p'.toNat + headerSize ≤ n.toNat := by omega
  have hg := (guard_iff (by omega)).2 hpos
  obtain ⟨-, hd₁⟩ := readDataset_of_overrun hn hpos hrest₁ hover (by omega)
  obtain ⟨-, hd₂⟩ := readDataset_of_overrun hn hpos hrest₂ hover (by omega)
  have hpre₁ := prefix_calls_of_readDataset handle hg hd₁ (fs.map Dataset.ofFrame, t)
  have hpre₂ := prefix_calls_of_readDataset handle hg hd₂ (fs.map Dataset.ofFrame, t)
  rw [heq] at hpre₁
  have hpre := List.prefix_of_prefix_length_le hpre₂ hpre₁ (by simp)
  have hd := List.append_cancel_left (hpre.eq_of_length (by simp))
  exact ofFrame_changeByte_ne b₁ hi hpos (by omega) (List.singleton_inj.1 hd)

/-! ## The received bytes alone -/

/-- **Stale bytes**: whatever `handle_dataset` computes, as long as it returns, the calls and the
client in which `handle_receive` ends are the same for all bytes behind the received ones exactly
when the received bytes are framed. For the client's own `handle_dataset`, the datasets have to be
decodable as well. -/
theorem outcome_congr_iff (b₁ : RecvBuf) {error : ErrorCode} (he : error.readable) {n : UInt64}
    (hn : n.toNat ≤ 128) :
    (∀ {σ : Type} (h : σ → Dataset → σ) (s : σ),
        (∀ b₂ : RecvBuf, b₂.toList.take n.toNat = b₁.toList.take n.toNat →
            SameOutcome (fun s d => .ok (h s d)) s error n b₁ b₂) ↔
          Framed (b₁.toList.take n.toNat)) ∧
      ∀ z : Z21,
        (∀ b₂ : RecvBuf, b₂.toList.take n.toNat = b₁.toList.take n.toNat →
            SameOutcome Z21.handleDataset z error n b₁ b₂) ↔
          ∃ ds, datasets? (b₁.toList.take n.toNat) = some ds ∧ ∀ d ∈ ds, d.Decodable := by
  constructor
  · intro σ h s
    rw [sameOutcome_iff he hn, framed_iff]
    exact exists_congr fun ds => and_iff_left (exists_runAll_total h s ds)
  · intro z
    rw [sameOutcome_iff he hn]
    simp only [z.exists_runAll_handleDataset_iff]

/-- A reply to `LAN_GET_SERIAL_NUMBER`, over two buffers. -/
theorem outcome_congr_serialNumberReply :
    SameOutcome Z21.handleDataset (Z21.fresh ⟨0, 0, .unknown⟩) .success 8 serialNumberReply
      (RecvBuf.store (Vector.replicate 128 9) [8, 0, 0x10, 0, 1, 2, 3, 4]) := by
  have htake : ∀ recvBuf : RecvBuf,
      (recvBuf.store [8, 0, 0x10, 0, 1, 2, 3, 4]).toList.take (8 : UInt64).toNat =
        [8, 0, 0x10, 0, 1, 2, 3, 4] :=
    fun recvBuf => take_store recvBuf [8, 0, 0x10, 0, 1, 2, 3, 4]
  have hds : datasets? (serialNumberReply.toList.take (8 : UInt64).toNat) =
      some [⟨8, 0x10, [1, 2, 3, 4]⟩] :=
    (congrArg datasets? (htake _)).trans
      (Batch.ofItems [(0x10, [1, 2, 3, 4])] (by decide)).datasets?_take
  have hn : (8 : UInt64).toNat ≤ 128 := by decide
  exact ((outcome_congr_iff serialNumberReply rfl hn).2 _).2 ⟨_, hds, by decide⟩ _
    ((htake _).trans (htake _).symm)

/-- A header of eight bytes, of which four were received, over two buffers. -/
theorem not_outcome_congr_shortSerialNumber :
    ¬∀ (z : Z21) (b₁ b₂ : RecvBuf) (n : UInt64), n.toNat ≤ 128 →
      b₂.toList.take n.toNat = b₁.toList.take n.toNat →
        calls (outcome Z21.handleDataset z b₁ .success n) =
          calls (outcome Z21.handleDataset z b₂ .success n) := by
  intro h
  have heq := h (Z21.fresh ⟨0, 0, .unknown⟩)
    (RecvBuf.store (Vector.replicate 128 0) [8, 0, 0x10, 0])
    (RecvBuf.store (Vector.replicate 128 1) [8, 0, 0x10, 0]) 4 (by decide) (by decide)
  rw [outcome_eq_receiveLoop rfl, outcome_eq_receiveLoop rfl] at heq
  have hd₁ : readDataset (RecvBuf.store (Vector.replicate 128 0) [8, 0, 0x10, 0]) 0 =
      .ok ⟨8, 0x10, [0, 0, 0, 0]⟩ := by decide +kernel
  have hd₂ : readDataset (RecvBuf.store (Vector.replicate 128 1) [8, 0, 0x10, 0]) 0 =
      .ok ⟨8, 0x10, [1, 1, 1, 1]⟩ := by decide +kernel
  have hg : (4 : UInt64) ≤ 4 - 0 := by decide
  have hpre₁ := prefix_calls_of_readDataset Z21.handleDataset hg hd₁
    ([], Z21.fresh ⟨0, 0, .unknown⟩)
  have hpre₂ := prefix_calls_of_readDataset Z21.handleDataset hg hd₂
    ([], Z21.fresh ⟨0, 0, .unknown⟩)
  rw [heq] at hpre₁
  have hpre := List.prefix_of_prefix_length_le hpre₁ hpre₂ le_rfl
  exact absurd (hpre.eq_of_length rfl) (by decide)

end TrainPP
