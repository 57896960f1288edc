import TrainPP.Foundations.Runs
import TrainPP.Z21.Client

/-!
# Receiving a datagram

`Z21::handle_receive`: the loop that cuts the received bytes into datasets and hands them to
`handle_dataset`, and the receive that is armed behind it.

The loop never looks at what `handle_dataset` computes, so it is written for any handler
`handle : σ → Dataset → Except Fault σ` over any client state `σ`; `Z21.handleDataset` is the
client's own. An access outside the receive buffer ends the loop, and so does a call that does not
return: `Stop`. This also is why the loop terminates: a payload range in bounds moves `pos` forward.
-/

namespace TrainPP

open Checked Words Runs

/-- The receive buffer, which the constructor of `Z21` resizes to 128 bytes. -/
abbrev RecvBuf := Vector UInt8 128

def headerSize : ℕ := 4

/-- The arguments that the body of the loop hands to `handle_dataset`: the header at `pos`, and
the payload range from behind the header to the declared size. The ends of the range are computed
on integers. -/
def readDataset (recvBuf : RecvBuf) (pos : UInt64) : Except Fault Dataset := do
  let size := le16 (← readAt recvBuf.toList pos.toNat) (← readAt recvBuf.toList (pos + 1).toNat)
  let id := le16 (← readAt recvBuf.toList (pos + 2).toNat) (← readAt recvBuf.toList (pos + 3).toNat)
  let dataStart := pos.toNat + headerSize
  let data ← subrange recvBuf.toList dataStart (dataStart + size.toNat - headerSize)
  return { size, id, data }

theorem le_size_of_readDataset {recvBuf : RecvBuf} {pos : UInt64} {d : Dataset}
    (h : readDataset recvBuf pos = .ok d) :
    headerSize ≤ d.size.toNat ∧ pos.toNat + d.size.toNat ≤ 128 := by
  simp only [readDataset, bind_eq_ok_iff, subrange_eq_ok_iff] at h
  obtain ⟨_, -, _, -, _, -, _, -, _, ⟨⟨h₁, h₂⟩, -⟩, h⟩ := h
  cases h
  rw [Vector.length_toList] at h₂
  simp only [headerSize] at h₁ h₂ ⊢
  exact ⟨by omega, by omega⟩

/-- How the loop can be left early. -/
inductive Stop (σ : Type)
  /-- An access outside the receive buffer. -/
  | access (fault : Fault) (client : σ)
  /-- A call of the handler that did not return. -/
  | call (failure : Failure Fault σ Dataset)
  deriving DecidableEq

section Loop

variable {σ : Type} (handle : σ → Dataset → Except Fault σ)

/-- The loop of `handle_receive` from `pos` on. The difference in its guard is one of unsigned
words. -/
def receiveLoop (recvBuf : RecvBuf) (bytesTransferred pos : UInt64) (client : σ) :
    Except (Stop σ) σ :=
  if 4 ≤ bytesTransferred - pos then
    match _h : readDataset recvBuf pos with
    | .error fault => .error (.access fault client)
    | .ok d =>
      match handle client d with
      | .error fault => .error (.call ⟨fault, client, d⟩)
      | .ok client => receiveLoop recvBuf bytesTransferred (pos + d.size.toUInt64) client
  else .ok client
termination_by 128 - pos.toNat
decreasing_by
  have := le_size_of_readDataset _h
  simp only [headerSize, UInt64.toNat_add, UInt16.toNat_toUInt64] at this ⊢
  omega

/-- The error codes that `handle_receive` tells apart. -/
inductive ErrorCode
  | success
  | messageSize
  | other
  deriving DecidableEq, Repr

/-- `!error || error == boost::asio::error::message_size`. -/
def ErrorCode.readable : ErrorCode → Bool
  | success => true
  | messageSize => true
  | other => false

/-- What `handle_receive` works on: the receive buffer, the number of receives armed, and the
client. -/
structure Receiver (σ : Type) where
  recvBuf : RecvBuf
  pendingReceives : ℕ
  client : σ

/-- `Z21::handle_receive`. -/
def handleReceive (r : Receiver σ) (error : ErrorCode) (bytesTransferred : UInt64) :
    Except (Stop σ) (Receiver σ) := do
  let client ←
    if error.readable then receiveLoop handle r.recvBuf bytesTransferred 0 r.client
    else pure r.client
  return { r with client, pendingReceives := r.pendingReceives + 1 }

/-! ## Arrival of a datagram -/

/-- The buffer after a datagram has been received into it: bytes behind the datagram stay as they
were, and bytes that do not fit are lost. -/
def RecvBuf.store (recvBuf : RecvBuf) (datagram : List UInt8) : RecvBuf :=
  Vector.ofFn fun i => datagram.getD i recvBuf[i]

/-- A pending receive completes with a datagram, and its completion handler runs. -/
def arrive (r : Receiver σ) (datagram : List UInt8) : Except (Stop σ) (Receiver σ) :=
  let received := { r with
    recvBuf := RecvBuf.store r.recvBuf datagram
    pendingReceives := r.pendingReceives - 1 }
  let error := if 128 < datagram.length then ErrorCode.messageSize else ErrorCode.success
  handleReceive handle received error (UInt64.ofNat (min datagram.length 128))

end Loop

/-- `handle` with the log of the datasets it was called with and returned from. -/
def recording {σ : Type} (handle : σ → Dataset → Except Fault σ) :
    List Dataset × σ → Dataset → Except Fault (List Dataset × σ) :=
  fun p d => (handle p.2 d).map fun client => (p.1 ++ [d], client)

end TrainPP
