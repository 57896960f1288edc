import TrainPP.Protocol.Datagrams
import TrainPP.Z21.Session

/-!
# Where requests are sent

A request is sent to what the endpoint object holds, which is the sender of the last datagram
received, or the endpoint that `connect` resolved when none was. So the requests of a run all go to
the resolved endpoint exactly when the last datagram received before each of them came from there
(`sent_iff_lastHeard`).

Only three things of a session matter for this, its `Link`; a step of a session is a step of its
link (`link_of_step`), and a run of it ends in the link that the senders heard in the run determine
(`foldl_step_endpoint`).
-/

namespace TrainPP

open Runs

variable {E : Type}

/-! ## Links -/

/-- What decides where a session sends its requests. -/
structure Link (E : Type) where
  socketOpen : Bool
  receiving : Bool
  endpoint : E

/-- What an event does to a link. -/
def Link.step (l : Link E) : Event E → Link E
  | .listen sends => { l with receiving := l.receiving || (l.socketOpen && sends) }
  | .request _ _ => l
  | .arrival sender _ => if l.receiving then { l with endpoint := sender } else l

/-- The link of a session. -/
def Session.link (s : Session E) : Link E where
  socketOpen := s.socketOpen
  receiving := decide (0 < s.receiver.pendingReceives)
  endpoint := s.receiverEndpoint

section Receiver

variable {σ : Type} {handle : σ → Dataset → Except Checked.Fault σ} {r r' : Receiver σ}

/-- `handle_receive` arms another receive whenever it returns. -/
theorem pendingReceives_of_handleReceive {error : ErrorCode} {n : UInt64}
    (h : handleReceive handle r error n = .ok r') : r'.pendingReceives = r.pendingReceives + 1 := by
  unfold handleReceive at h
  by_cases he : error.readable
  · rw [if_pos he] at h
    obtain ⟨client, -, h⟩ := Checked.bind_eq_ok_iff.1 h
    cases h
    rfl
  · rw [if_neg he] at h
    cases h
    rfl

theorem pendingReceives_of_arrive {datagram : List UInt8}
    (h : arrive handle r datagram = .ok r') :
    r'.pendingReceives = r.pendingReceives - 1 + 1 :=
  pendingReceives_of_handleReceive h

end Receiver

namespace Session

theorem link_request (s : Session E) (r : Request) (sends : Bool) :
    (s.request r sends).link = s.link := by
  rw [request, sendTo]
  cases s.socketOpen && sends <;> rfl

theorem link_listenThreadFn (s : Session E) (sends : Bool) :
    (s.listenThreadFn sends).link =
      { s.link with receiving := s.link.receiving || (s.link.socketOpen && sends) } := by
  rw [listenThreadFn, sendTo]
  cases h : s.socketOpen <;> cases sends <;> simp [link, asyncReceiveFrom, h]

/-- **A step of a session is a step of its link.** -/
theorem link_of_step {s s' : Session E} {e : Event E} (h : s.step e = .ok s') :
    s'.link = s.link.step e := by
  cases e with
  | listen sends =>
    obtain ⟨-, rfl⟩ := listen_eq_ok_iff.1 h
    exact link_listenThreadFn _ sends
  | request r sends =>
    cases h
    exact link_request s r sends
  | arrival sender datagram =>
    obtain ⟨hp, rfl⟩ | ⟨hp, receiver, harrive, rfl⟩ := arrival_eq_ok_iff.1 h
    · simp [link, Link.step, hp]
    · have hpending := pendingReceives_of_arrive harrive
      simp [link, Link.step, hp, hpending]

theorem link_of_runAll {s s' : Session E} {es : List (Event E)}
    (h : runAll Session.step s es = .ok s') : s'.link = es.foldl Link.step s.link :=
  runAll_simulates (fun _ _ _ _ => link_of_step) h

end Session

/-! ## Senders heard in a run -/

namespace Event

/-- The call of `listen` that arms the receive on an open socket. -/
def arms : Event E → Bool
  | listen sends => sends
  | _ => false

/-- The sender of an arriving datagram. -/
def sender? : Event E → Option E
  | arrival sender _ => some sender
  | _ => none

/-- The datagram that an event sends on an open socket. -/
def datagram? : Event E → Option (List UInt8)
  | listen sends => if sends then some LanGetSerialNumber.pack else none
  | request r sends => if sends then some r.pack else none
  | arrival _ _ => none

end Event

/-- The senders of the datagrams received in a run: those that are delivered after the call of
`listen` that arms the receive. -/
def heard (es : List (Event E)) : List E :=
  (es.dropWhile fun e => !e.arms).filterMap Event.sender?

theorem foldl_step_of_receiving (es : List (Event E)) (isOpen : Bool) (endpoint : E) :
    es.foldl Link.step ⟨isOpen, true, endpoint⟩ =
      ⟨isOpen, true, (es.filterMap Event.sender?).getLast?.getD endpoint⟩ := by
  induction es generalizing endpoint with
  | nil => rfl
  | cons e es ih =>
    rw [List.foldl_cons]
    cases e with
    | listen sends => exact ih endpoint
    | request r sends => exact ih endpoint
    | arrival sender datagram =>
      refine (ih sender).trans ?_
      have hlast : ((sender :: es.filterMap Event.sender?).getLast?).getD endpoint =
          (es.filterMap Event.sender?).getLast?.getD sender := by
        rw [List.getLast?_cons, Option.getD_some]
      exact congrArg (Link.mk isOpen true) hlast.symm

/-- From a new connection on, the endpoint object holds the sender last heard. -/
theorem foldl_step_endpoint (es : List (Event E)) (peer : E) :
    (es.foldl Link.step ⟨true, false, peer⟩).endpoint = (heard es).getLast?.getD peer := by
  induction es with
  | nil => rfl
  | cons e es ih =>
    rw [List.foldl_cons]
    cases e with
    | listen sends =>
      cases sends with
      | false => exact ih
      | true => exact congrArg Link.endpoint (foldl_step_of_receiving es true peer)
    | request r sends => exact ih
    | arrival sender datagram => exact ih

/-! ## Destinations -/

namespace Session

/-- On an open socket, an event sends its datagram to the endpoint object. -/
theorem sent_of_step {s s' : Session E} {e : Event E} (hopen : s.socketOpen = true)
    (h : s.step e = .ok s') :
    s'.sent = s.sent ++ e.datagram?.toList.map (·, s.receiverEndpoint) := by
  cases e with
  | listen sends =>
    obtain ⟨-, rfl⟩ := listen_eq_ok_iff.1 h
    cases sends <;> simp [listenThreadFn, sendTo, hopen, asyncReceiveFrom, Event.datagram?]
  | request r sends =>
    cases h
    cases sends with
    | false =>
      rw [request_false]
      exact (List.append_nil _).symm
    | true =>
      rw [request_of_open hopen]
      rfl
  | arrival sender datagram =>
    obtain ⟨-, rfl⟩ | ⟨-, receiver, -, rfl⟩ := arrival_eq_ok_iff.1 h
    · exact (List.append_nil _).symm
    · exact (List.append_nil _).symm

theorem socketOpen_of_step {s s' : Session E} {e : Event E} (h : s.step e = .ok s') :
    s'.socketOpen = s.socketOpen := by
  have hlink := congrArg Link.socketOpen (link_of_step h)
  cases e with
  | listen sends => exact hlink
  | request r sends => exact hlink
  | arrival sender datagram =>
    refine hlink.trans ?_
    rw [Link.step]
    split <;> rfl

/-- What holds of every datagram sent in a run holds wherever one is sent along it. -/
theorem forall_sent_iff {P : List UInt8 × E → Prop} :
    ∀ {es : List (Event E)} {s s' : Session E}, s.socketOpen = true →
      runAll Session.step s es = .ok s' →
      ((∀ p ∈ s'.sent, P p) ↔
        (∀ p ∈ s.sent, P p) ∧
          Along Session.step (fun s e => ∀ d ∈ e.datagram?, P (d, s.receiverEndpoint)) s es)
  | [], _, _, _, hrun => by
    cases hrun
    simp [Along]
  | e :: es, s, s', hopen, hrun => by
    obtain ⟨s₁, hstep, hrun₁⟩ := runAll_cons_eq_ok_iff.1 hrun
    have hopen₁ := (socketOpen_of_step hstep).trans hopen
    rw [forall_sent_iff hopen₁ hrun₁, sent_of_step hopen hstep, List.forall_mem_append, Along,
      and_assoc]
    simp [hstep]

theorem link_connect {resolve : String → String → Option E} {s : Session E} {peer : E}
    (h : resolve s.host s.port = some peer) :
    (s.connect resolve true).1.link = { s.link with socketOpen := true, endpoint := peer } := by
  rw [connect, h]
  simp [link]

theorem sent_connect (resolve : String → String → Option E) (opens : Bool) (s : Session E) :
    (s.connect resolve opens).1.sent = s.sent := by
  rw [connect]
  split <;> rfl

end Session

/-- Whenever an event sends a datagram, the datagram last received before, if any, came from
`peer`. -/
def LastHeard (peer : E) (es : List (Event E)) : Prop :=
  ∀ es₁ e es₂, es = es₁ ++ e :: es₂ → e.datagram?.isSome →
    ∀ sender ∈ (heard es₁).getLast?, sender = peer

/-- From a new connection on, the destinations of a run are the peer's exactly when the peer was
last heard. -/
theorem sent_iff_of_link {peer : E} {s s' : Session E} (hlink : s.link = ⟨true, false, peer⟩)
    (hsent : s.sent = []) {es : List (Event E)} (hrun : runAll Session.step s es = .ok s') :
    (∀ p ∈ s'.sent, p.2 = peer) ↔ LastHeard peer es := by
  have hendpoint : ∀ {es₁ s₁}, runAll Session.step s es₁ = .ok s₁ →
      s₁.receiverEndpoint = (heard es₁).getLast?.getD peer := by
    intro es₁ s₁ h
    have hlink₁ := Session.link_of_runAll h
    rw [hlink] at hlink₁
    exact (congrArg Link.endpoint hlink₁).trans (foldl_step_endpoint es₁ peer)
  rw [Session.forall_sent_iff (congrArg Link.socketOpen hlink) hrun]
  constructor
  · rintro ⟨-, halong⟩ es₁ e es₂ rfl hsends sender hsender
    obtain ⟨s₁, hrun₁⟩ := exists_runAll_of_append hrun
    obtain ⟨d, hd⟩ := Option.isSome_iff_exists.1 hsends
    have hpeer : s₁.receiverEndpoint = peer := halong.of_append hrun₁ d hd
    rw [hendpoint hrun₁, hsender, Option.getD_some] at hpeer
    exact hpeer
  · refine fun hlast => ⟨by simp [hsent], along_of_forall ?_⟩
    intro es₁ e es₂ hes s₁ hrun₁ d hd
    change s₁.receiverEndpoint = peer
    rw [hendpoint hrun₁]
    cases hsender : (heard es₁).getLast? with
    | none => rfl
    | some sender => exact hlast es₁ e es₂ hes (by rw [hd]; rfl) sender hsender

/-- **Destinations**: in a run that begins with a successful `connect`, every datagram is sent to
the resolved endpoint exactly when the datagram last received before each of them, if any, came from
there. -/
theorem sent_iff_lastHeard {resolve : String → String → Option E} {host port : String} {peer : E}
    (hresolve : resolve host port = some peer) (unspecified : E) (z : Z21) {es : List (Event E)}
    {s : Session E}
    (hrun : runAll Session.step
      ((Session.new host port unspecified z).connect resolve true).1 es = .ok s) :
    (∀ p ∈ s.sent, p.2 = peer) ↔ LastHeard peer es := by
  refine sent_iff_of_link ?_ ?_ hrun
  · exact Session.link_connect hresolve
  · exact Session.sent_connect resolve true _

/-! ## A run with two command stations -/

/-- The reply of a command station to the request that `listen` sends. -/
def serialNumberBatch : Batch := .ofItems [(0x10, [1, 2, 3, 4])] (by decide)

/-- A client connected to an address and a port, of version 4. -/
def connectedTo (peer : UInt32 × UInt16) : Session (UInt32 × UInt16) :=
  ((Session.new "z21" "21105" (0, 0) (Z21.fresh ⟨0, 0, .unknown⟩)).connect
    (fun _ _ => some peer) true).1

/-- The client listens, receives a reply of `sender`, and asks for the feature set. -/
def askAfterReply (sender : UInt32 × UInt16) : List (Event (UInt32 × UInt16)) :=
  [.listen true, .arrival sender serialNumberBatch.datagram, .request .getCode true]

/-- The second request goes to the sender of the reply. -/
theorem exists_runAll_askAfterReply (peer sender : UInt32 × UInt16) :
    ∃ s, runAll Session.step (connectedTo peer) (askAfterReply sender) = .ok s ∧
      s.sent = [(LanGetSerialNumber.pack, peer), (LanGetCode.pack, sender)] := by
  obtain ⟨receiver, harrive⟩ : ∃ receiver,
      arrive Z21.handleDataset ⟨Vector.replicate 128 0, 1, Z21.fresh ⟨0, 0, .unknown⟩⟩
        serialNumberBatch.datagram = .ok receiver :=
    ⟨_, arrive_eq_ok _ serialNumberBatch.datasets?_take rfl⟩
  have harrival : ({ connectedTo peer with listening := true }.listenThreadFn true).step
      (.arrival sender serialNumberBatch.datagram) = .ok _ :=
    Session.arrival_eq_ok_iff.2 (.inr ⟨Nat.one_pos, receiver, harrive, rfl⟩)
  exact ⟨_, (runAll_cons_ok rfl).trans ((runAll_cons_ok harrival).trans (runAll_cons_ok rfl)), rfl⟩

/-- The reply comes from the command station itself. -/
theorem lastHeard_askAfterReply_of_peer :
    LastHeard ((0xc0a8006f, 21105) : UInt32 × UInt16) (askAfterReply (0xc0a8006f, 21105)) := by
  obtain ⟨s, hrun, hsent⟩ := exists_runAll_askAfterReply (0xc0a8006f, 21105) (0xc0a8006f, 21105)
  exact (sent_iff_lastHeard rfl _ _ hrun).1 (by simp [hsent])

/-- The reply comes from another endpoint. -/
theorem not_sent_askAfterReply :
    ¬∀ (resolve : String → String → Option (UInt32 × UInt16)) (host port : String)
        (peer unspecified : UInt32 × UInt16) (z : Z21) (es : List (Event (UInt32 × UInt16)))
        (s : Session (UInt32 × UInt16)),
      resolve host port = some peer →
      runAll Session.step
        ((Session.new host port unspecified z).connect resolve true).1 es = .ok s →
      ∀ p ∈ s.sent, p.2 = peer := by
  intro h
  obtain ⟨s, hrun, hsent⟩ := exists_runAll_askAfterReply (0xc0a8006f, 21105) (0x0a000002, 40000)
  have hpeer := h (fun _ _ => some (0xc0a8006f, 21105)) _ _ _ _ _ _ s rfl hrun
    (LanGetCode.pack, (0x0a000002, 40000)) (by simp [hsent])
  exact absurd hpeer (by decide)

end TrainPP
