import Mathlib.Data.List.TakeWhile
import TrainPP.Properties.Destinations
import TrainPP.Properties.ReceiveSafety

/-!
# Runs of a session

The calls of the user and the datagrams of the network come in any order. The receive path sees the
call of `listen` and the bytes of the datagrams; the send path sees the calls. Neither sees the
rest:

* `Session.runAll_congr`: how calls and datagrams interleave, and who sent the datagrams, changes
  neither what is received nor what is sent, nor whether the program ends;
* `Session.runAll_connected`: after `connect`, a run goes on to its end exactly when `listen` is
  called at most once and every datagram received is `Acceptable`; the client has then handled the
  datasets received, in order;
* `Session.destroy_connected`: a receive that was armed stays pending, so that the destructor blocks
  on a connection, and comes to its deletes only if none was armed.
-/

namespace TrainPP

open Checked Runs

variable {E E' : Type}

/-! ## The receive path -/

/-- What the receive path sees of an event. -/
inductive Signal
  | listen (sends : Bool)
  | datagram (bytes : List UInt8)
  deriving DecidableEq

def Event.signal? : Event E → Option Signal
  | listen sends => some (.listen sends)
  | request _ _ => none
  | arrival _ datagram => some (.datagram datagram)

/-- What the receive path works on. -/
structure Inbox where
  socketOpen : Bool
  listening : Bool
  receiver : Receiver Z21

def Inbox.step (i : Inbox) : Signal → Except Crash Inbox
  | .listen sends =>
    if i.listening then .error .terminate
    else .ok { i with
      listening := true
      receiver.pendingReceives :=
        i.receiver.pendingReceives + if i.socketOpen && sends then 1 else 0 }
  | .datagram bytes =>
    if i.receiver.pendingReceives = 0 then .ok i
    else
      match arrive Z21.handleDataset i.receiver bytes with
      | .error stop => .error (.receive stop)
      | .ok receiver => .ok { i with receiver }

/-- The receive path of a session. -/
def Session.inbox (s : Session E) : Inbox := ⟨s.socketOpen, s.listening, s.receiver⟩

theorem Session.inbox_request (s : Session E) (r : Request) (sends : Bool) :
    (s.request r sends).inbox = s.inbox := by
  rw [request, sendTo]
  cases s.socketOpen && sends <;> rfl

/-- **A step of a session is a step of its receive path**, or it leaves the receive path alone. -/
theorem Session.toOption_step_inbox (s : Session E) (e : Event E) :
    (s.step e).toOption.map inbox =
      e.signal?.elim (some s.inbox) fun signal => (s.inbox.step signal).toOption := by
  cases e with
  | listen sends =>
    show (s.listen sends).toOption.map inbox = (s.inbox.step (.listen sends)).toOption
    rw [listen, Inbox.step, inbox]
    cases s.listening with
    | true => rfl
    | false =>
      rw [if_neg Bool.false_ne_true, if_neg Bool.false_ne_true, listenThreadFn, sendTo]
      cases s.socketOpen <;> cases sends <;> rfl
  | request r sends => exact congrArg some (s.inbox_request r sends)
  | arrival sender datagram =>
    show (s.arrival sender datagram).toOption.map inbox =
      (s.inbox.step (.datagram datagram)).toOption
    have hreceiver : s.inbox.receiver = s.receiver := rfl
    rw [arrival, Inbox.step, hreceiver]
    by_cases hp : s.receiver.pendingReceives = 0
    · rw [if_pos hp, if_pos hp]
      rfl
    · rw [if_neg hp, if_neg hp]
      cases arrive Z21.handleDataset s.receiver datagram <;> rfl

theorem Session.toOption_runAll_inbox (s : Session E) (es : List (Event E)) :
    (runAll step s es).toOption.map inbox =
      (runAll Inbox.step s.inbox (es.filterMap Event.signal?)).toOption :=
  toOption_runAll_filterMap Event.signal? toOption_step_inbox s es

/-! ## Interleavings -/

/-- The datagrams sent, without their destinations. -/
def Session.payloads (s : Session E) : List (List UInt8) := s.sent.map (·.1)

theorem Session.payloads_of_step {s s' : Session E} {e : Event E} (h : s.step e = .ok s') :
    s'.payloads = s.payloads ++ if s.socketOpen then e.datagram?.toList else [] := by
  cases hopen : s.socketOpen with
  | true =>
    rw [payloads, sent_of_step hopen h, List.map_append, List.map_map]
    exact congrArg _ (List.map_id _)
  | false =>
    rw [if_neg Bool.false_ne_true, List.append_nil]
    cases e with
    | listen sends =>
      obtain ⟨-, rfl⟩ := listen_eq_ok_iff.1 h
      simp [payloads, listenThreadFn, sendTo, hopen]
    | request r sends =>
      cases h
      rw [request_of_not_open hopen]
    | arrival sender datagram =>
      obtain ⟨-, rfl⟩ | ⟨-, receiver, -, rfl⟩ := arrival_eq_ok_iff.1 h <;> rfl

theorem Session.payloads_of_runAll {s s' : Session E} {es : List (Event E)}
    (h : runAll step s es = .ok s') :
    s'.payloads = s.payloads ++ if s.socketOpen then es.filterMap Event.datagram? else [] := by
  induction es generalizing s with
  | nil =>
    cases h
    simp
  | cons e es ih =>
    obtain ⟨s₁, hstep, hrun⟩ := runAll_cons_eq_ok_iff.1 h
    rw [ih hrun, payloads_of_step hstep, socketOpen_of_step hstep, List.append_assoc]
    cases s.socketOpen with
    | false => rfl
    | true => cases hd : e.datagram? <;> simp [hd]

/-- **Interleavings**: two runs that begin alike, in which `listen` is called and datagrams arrive
in the same order, and in which the calls that are sent come in the same order, receive the same and
send the same, or both end the program; how the calls and the arrivals interleave does not matter,
nor who the senders are. -/
theorem Session.runAll_congr {s : Session E} {s' : Session E'} {es : List (Event E)}
    {es' : List (Event E')} (hinbox : s.inbox = s'.inbox) (hsent : s.payloads = s'.payloads)
    (hsignals : es.filterMap Event.signal? = es'.filterMap Event.signal?)
    (hcalls : es.filterMap Event.datagram? = es'.filterMap Event.datagram?) :
    (runAll step s es).toOption.map (fun t => (t.inbox, t.payloads)) =
      (runAll step s' es').toOption.map fun t => (t.inbox, t.payloads) := by
  have hrun := s.toOption_runAll_inbox es
  rw [hinbox, hsignals, ← s'.toOption_runAll_inbox es'] at hrun
  have hopen : s.socketOpen = s'.socketOpen := congrArg Inbox.socketOpen hinbox
  cases ht : runAll step s es with
  | error _ =>
    cases ht' : runAll step s' es' with
    | error _ => rfl
    | ok t' =>
      rw [ht, ht'] at hrun
      cases hrun
  | ok t =>
    cases ht' : runAll step s' es' with
    | error _ =>
      rw [ht, ht'] at hrun
      cases hrun
    | ok t' =>
      rw [ht, ht'] at hrun
      have hpayloads : t.payloads = t'.payloads := by
        rw [payloads_of_runAll ht, payloads_of_runAll ht', hsent, hopen, hcalls]
      exact congrArg some (Prod.ext (Option.some.inj hrun) hpayloads)

/-- A reply that comes before or after a request, and from two different senders. -/
theorem Session.runAll_congr_getCode :
    (runAll step (connectedTo (0xc0a8006f, 21105)) [.listen true,
        .arrival (0xc0a8006f, 21105) serialNumberBatch.datagram,
        .request .getCode true]).toOption.map (fun t => (t.inbox, t.payloads)) =
      (runAll step (connectedTo (0xc0a8006f, 21105)) [.listen true, .request .getCode true,
        .arrival (0x0a000002, 40000) serialNumberBatch.datagram]).toOption.map
          fun t => (t.inbox, t.payloads) :=
  Session.runAll_congr rfl rfl rfl rfl

/-! ## Datagrams received -/

/-- The datasets of a datagram, as far as the receive buffer holds it. -/
def datasetsOf (bytes : List UInt8) : List Dataset := (datasets? (bytes.take 128)).getD []

/-- The bytes of a datagram that fit in the receive buffer, its first 128, are complete datasets,
each of them decodable, followed by at most three more bytes. -/
def Acceptable (bytes : List UInt8) : Prop :=
  Framed (bytes.take 128) ∧ ∀ d ∈ datasetsOf bytes, d.Decodable

theorem exists_arrive_iff (r : Receiver Z21) (bytes : List UInt8) :
    (∃ r', arrive Z21.handleDataset r bytes = .ok r') ↔ Acceptable bytes := by
  rw [Acceptable, framed_iff, datasetsOf]
  constructor
  · rintro ⟨r', h⟩
    obtain ⟨ds, client, hds, hrun, -⟩ := (arrive_eq_ok_iff _).1 h
    rw [hds]
    exact ⟨⟨ds, rfl⟩, (r.client.exists_runAll_handleDataset_iff ds).1 ⟨client, hrun⟩⟩
  · rintro ⟨⟨ds, hds⟩, hdec⟩
    rw [hds] at hdec
    obtain ⟨client, hrun⟩ := (r.client.exists_runAll_handleDataset_iff ds).2 hdec
    exact ⟨_, (arrive_eq_ok_iff _).2 ⟨ds, client, hds, hrun, rfl⟩⟩

theorem acceptable_datagram (b : Batch) (h : ∀ d ∈ b.datasets, d.Decodable) :
    Acceptable b.datagram := by
  rw [Acceptable, framed_iff, datasetsOf, b.datasets?_take]
  exact ⟨⟨_, rfl⟩, h⟩

/-- A run over datagrams handles their datasets in order. -/
theorem runAll_handleDataset_of_arrive {bs : List (List UInt8)} {r r' : Receiver Z21}
    (h : runAll (arrive Z21.handleDataset) r bs = .ok r') :
    runAll Z21.handleDataset r.client (bs.flatMap datasetsOf) = .ok r'.client := by
  induction bs generalizing r with
  | nil =>
    cases h
    rfl
  | cons b bs ih =>
    obtain ⟨r₁, harrive, hrun⟩ := runAll_cons_eq_ok_iff.1 h
    obtain ⟨ds, client, hds, hclient, rfl⟩ := (arrive_eq_ok_iff _).1 harrive
    rw [List.flatMap_cons, datasetsOf, hds, Option.getD_some, runAll_append_ok hclient]
    exact ih hrun

theorem pendingReceives_of_runAll_arrive {bs : List (List UInt8)} {r r' : Receiver Z21}
    (hr : r.pendingReceives = 1) (h : runAll (arrive Z21.handleDataset) r bs = .ok r') :
    r'.pendingReceives = 1 := by
  refine runAll_induction (R := fun _ r => r.pendingReceives = 1) hr ?_ h
  intro _ r _ r' hr h
  rw [pendingReceives_of_arrive h, hr]

/-! ## Runs of the receive path -/

namespace Signal

def bytes? : Signal → Option (List UInt8)
  | listen _ => none
  | datagram bytes => some bytes

def isListen : Signal → Bool
  | listen _ => true
  | datagram _ => false

end Signal

/-- The datagrams received: those that are delivered after the call of `listen` that arms the
receive. -/
def delivered (signals : List Signal) : List (List UInt8) :=
  (signals.dropWhile (· ≠ .listen true)).filterMap Signal.bytes?

theorem delivered_of_not_mem {signals : List Signal} (h : .listen true ∉ signals) :
    delivered signals = [] := by
  rw [delivered, List.dropWhile_eq_nil_iff.2, List.filterMap_nil]
  intro signal hsignal
  exact decide_eq_true fun heq => h (heq ▸ hsignal)

namespace Inbox

/-- While a receive is pending, every datagram is received, and another call of `listen` ends the
program. -/
theorem runAll_eq_ok_iff_of_pending {signals : List Signal} {i t : Inbox}
    (hlistening : i.listening = true) (hp : i.receiver.pendingReceives = 1) :
    runAll step i signals = .ok t ↔ signals.countP Signal.isListen = 0 ∧
      ∃ r, runAll (arrive Z21.handleDataset) i.receiver (signals.filterMap Signal.bytes?) = .ok r ∧
        t = { i with receiver := r } := by
  induction signals generalizing i with
  | nil => simp [eq_comm]
  | cons signal signals ih =>
    cases signal with
    | listen sends =>
      have hstep : i.step (.listen sends) = .error .terminate := by rw [step, if_pos hlistening]
      rw [runAll_cons_error hstep, List.countP_cons_of_pos rfl]
      simp
    | datagram bytes =>
      have hbytes : (Signal.datagram bytes :: signals).filterMap Signal.bytes? =
        bytes :: signals.filterMap Signal.bytes? := rfl
      rw [hbytes, List.countP_cons_of_neg Bool.false_ne_true]
      cases harrive : arrive Z21.handleDataset i.receiver bytes with
      | error stop =>
        have hstep : i.step (.datagram bytes) = .error (.receive stop) := by
          rw [step, if_neg (by omega), harrive]
        rw [runAll_cons_error hstep, runAll_cons_error harrive]
        simp
      | ok receiver =>
        have hstep : i.step (.datagram bytes) = .ok { i with receiver } := by
          rw [step, if_neg (by omega), harrive]
        have hp' : receiver.pendingReceives = 1 := by rw [pendingReceives_of_arrive harrive, hp]
        rw [runAll_cons_ok hstep, runAll_cons_ok harrive,
          ih (i := { i with receiver }) hlistening hp']

/-- Without a socket, or once `listen` has armed no receive, none is ever armed. -/
theorem runAll_eq_ok_iff_of_deaf {signals : List Signal} {i t : Inbox}
    (hdeaf : i.socketOpen = false ∨ i.listening = true) (hp : i.receiver.pendingReceives = 0) :
    runAll step i signals = .ok t ↔
      signals.countP Signal.isListen ≤ (if i.listening then 0 else 1) ∧
        t = { i with listening := i.listening || signals.any Signal.isListen } := by
  induction signals generalizing i with
  | nil =>
    simp only [runAll_nil, List.countP_nil, Nat.zero_le, true_and, List.any_nil, Bool.or_false,
      Except.ok.injEq]
    exact eq_comm
  | cons signal signals ih =>
    cases signal with
    | listen sends =>
      rw [List.countP_cons_of_pos rfl, List.any_cons]
      cases hl : i.listening with
      | true =>
        have hstep : i.step (.listen sends) = .error .terminate := by rw [step, if_pos hl]
        rw [runAll_cons_error hstep]
        simp
      | false =>
        have hopen : i.socketOpen = false := hdeaf.resolve_right (by simp [hl])
        have hstep : i.step (.listen sends) = .ok { i with listening := true } := by
          rw [step, if_neg (by simp [hl])]
          simp [hopen]
        rw [runAll_cons_ok hstep, ih (i := { i with listening := true }) (.inr rfl) hp]
        simp [Signal.isListen]
    | datagram bytes =>
      have hstep : i.step (.datagram bytes) = .ok i := by rw [step, if_pos hp]
      rw [runAll_cons_ok hstep, ih hdeaf hp, List.countP_cons_of_neg Bool.false_ne_true]
      simp [Signal.isListen]

/-- With a socket, the call of `listen` arms the receive if its request goes through. -/
theorem runAll_eq_ok_iff_of_open {signals : List Signal} {i t : Inbox}
    (hopen : i.socketOpen = true) (hlistening : i.listening = false)
    (hp : i.receiver.pendingReceives = 0) :
    runAll step i signals = .ok t ↔ signals.countP Signal.isListen ≤ 1 ∧
      ∃ r, runAll (arrive Z21.handleDataset)
          { i.receiver with pendingReceives := if .listen true ∈ signals then 1 else 0 }
          (delivered signals) = .ok r ∧
        t = { i with listening := signals.any Signal.isListen, receiver := r } := by
  induction signals with
  | nil =>
    have hi : i = { i with
        listening := false
        receiver := { i.receiver with pendingReceives := 0 } } := by
      rw [← hlistening, ← hp]
    simp only [runAll_nil, List.countP_nil, Nat.zero_le, true_and, List.not_mem_nil, List.any_nil,
      if_false, delivered, List.dropWhile_nil, List.filterMap_nil, Except.ok.injEq,
      exists_eq_left']
    rw [← hi]
    exact eq_comm
  | cons signal signals ih =>
    cases signal with
    | listen sends =>
      have hstep : i.step (.listen sends) = .ok { i with
          listening := true
          receiver := { i.receiver with pendingReceives := if sends then 1 else 0 } } := by
        rw [step, if_neg (by simp [hlistening])]
        simp [hopen, hp]
      rw [runAll_cons_ok hstep, List.countP_cons_of_pos rfl]
      cases sends with
      | true =>
        have hdelivered : delivered (.listen true :: signals) = signals.filterMap Signal.bytes? :=
          rfl
        rw [hdelivered, runAll_eq_ok_iff_of_pending rfl rfl]
        simp [Signal.isListen]
      | false =>
        rw [runAll_eq_ok_iff_of_deaf (.inr rfl) rfl]
        by_cases hcount : signals.countP Signal.isListen = 0
        · have hmem : .listen true ∉ signals := fun h => List.countP_eq_zero.1 hcount _ h rfl
          rw [delivered_of_not_mem (by simp [hmem])]
          simp [hcount, hmem, Signal.isListen]
        · simp [hcount]
    | datagram bytes =>
      have hstep : i.step (.datagram bytes) = .ok i := by rw [step, if_pos hp]
      have hdelivered : delivered (.datagram bytes :: signals) = delivered signals := rfl
      rw [runAll_cons_ok hstep, hdelivered, ih, List.countP_cons_of_neg Bool.false_ne_true]
      simp [Signal.isListen]

/-- The datagrams that a new receive path receives. -/
def received (i : Inbox) (signals : List Signal) : List (List UInt8) :=
  if i.socketOpen then delivered signals else []

/-- A receive path from which no receive is pending. -/
structure IsNew (i : Inbox) : Prop where
  listening : i.listening = false
  pendingReceives : i.receiver.pendingReceives = 0

theorem IsNew.exists_runAll_iff {i : Inbox} (hi : i.IsNew) (signals : List Signal) :
    (∃ t, runAll step i signals = .ok t) ↔
      signals.countP Signal.isListen ≤ 1 ∧ ∀ bytes ∈ i.received signals, Acceptable bytes := by
  rw [received]
  cases hopen : i.socketOpen with
  | false =>
    simp only [runAll_eq_ok_iff_of_deaf (.inl hopen) hi.2, hi.1]
    simp
  | true =>
    simp only [runAll_eq_ok_iff_of_open hopen hi.1 hi.2, exists_and_left, if_true]
    refine and_congr_right fun _ => ?_
    rw [← exists_runAll_ok_iff exists_arrive_iff]
    constructor
    · rintro ⟨t, r, hr, -⟩
      exact ⟨r, hr⟩
    · rintro ⟨r, hr⟩
      exact ⟨_, r, hr, rfl⟩

/-- What a run of a new receive path ends in. -/
theorem IsNew.of_runAll {i t : Inbox} (hi : i.IsNew) {signals : List Signal}
    (h : runAll step i signals = .ok t) :
    runAll Z21.handleDataset i.receiver.client ((i.received signals).flatMap datasetsOf) =
        .ok t.receiver.client ∧
      t.receiver.pendingReceives = (if i.socketOpen ∧ .listen true ∈ signals then 1 else 0) ∧
      t.listening = signals.any Signal.isListen := by
  rw [received]
  cases hopen : i.socketOpen with
  | false =>
    obtain ⟨-, rfl⟩ := (runAll_eq_ok_iff_of_deaf (.inl hopen) hi.2).1 h
    exact ⟨rfl, by simp [hi.2], by simp [hi.1]⟩
  | true =>
    obtain ⟨-, r, hr, rfl⟩ := (runAll_eq_ok_iff_of_open hopen hi.1 hi.2).1 h
    have hclient := runAll_handleDataset_of_arrive hr
    refine ⟨hclient, ?_, rfl⟩
    by_cases hmem : .listen true ∈ signals
    · rw [if_pos hmem] at hr
      rw [if_pos ⟨rfl, hmem⟩]
      exact pendingReceives_of_runAll_arrive rfl hr
    · rw [if_neg fun h => hmem h.2]
      rw [delivered_of_not_mem hmem, if_neg hmem] at hr
      cases hr
      rfl

end Inbox

/-! ## Runs after `connect` -/

theorem Session.inbox_connect (resolve : String → String → Option E) (opens : Bool)
    (s : Session E) :
    (s.connect resolve opens).1.inbox =
      ⟨s.socketOpen || ((resolve s.host s.port).isSome && opens), s.listening, s.receiver⟩ := by
  rw [connect]
  cases resolve s.host s.port <;> simp [inbox]

/-- A client of which `connect` has been called. -/
def Session.connected (resolve : String → String → Option E) (opens : Bool) (host port : String)
    (unspecified : E) (z : Z21) : Session E :=
  ((Session.new host port unspecified z).connect resolve opens).1

namespace Event

def isListen : Event E → Bool
  | listen _ => true
  | _ => false

theorem listen_mem_iff (es : List (Event E)) :
    .listen true ∈ es.filterMap signal? ↔ es.any arms = true := by
  rw [List.mem_filterMap, List.any_eq_true]
  refine exists_congr fun e => and_congr_right fun _ => ?_
  cases e <;> simp [signal?, arms]

theorem any_isListen (es : List (Event E)) :
    (es.filterMap signal?).any Signal.isListen = es.any isListen := by
  rw [List.any_filterMap]
  refine congrArg es.any (funext fun e => ?_)
  cases e <;> rfl

theorem countP_isListen (es : List (Event E)) :
    (es.filterMap signal?).countP Signal.isListen = es.countP isListen := by
  rw [List.countP_filterMap]
  refine List.countP_congr fun e _ => ?_
  cases e <;> simp [signal?, isListen, Signal.isListen]

end Event

section Connect

variable (resolve : String → String → Option E) (opens : Bool) (host port : String)
  (unspecified : E) (z : Z21) (es : List (Event E))

/-- The receive path after `connect`. -/
theorem Session.inbox_connected :
    (connected resolve opens host port unspecified z).inbox =
      ⟨(resolve host port).isSome && opens, false, ⟨Vector.replicate 128 0, 0, z⟩⟩ :=
  inbox_connect resolve opens (Session.new host port unspecified z)

theorem Session.isNew_inbox_connected :
    (connected resolve opens host port unspecified z).inbox.IsNew := by
  rw [inbox_connected]
  exact ⟨rfl, rfl⟩

/-- The datagrams received in a run after `connect`: those that are delivered after the call of
`listen` that arms the receive, if the connection was made. -/
def Session.received : List (List UInt8) :=
  if (resolve host port).isSome && opens then delivered (es.filterMap Event.signal?) else []

theorem Session.received_inbox_connected :
    (connected resolve opens host port unspecified z).inbox.received
      (es.filterMap Event.signal?) = received resolve opens host port es := by
  rw [inbox_connected]
  rfl

theorem Session.exists_runAll_connected_iff :
    (∃ t, runAll step (connected resolve opens host port unspecified z) es = .ok t) ↔
      es.countP Event.isListen ≤ 1 ∧
        ∀ bytes ∈ received resolve opens host port es, Acceptable bytes := by
  have hinbox := toOption_runAll_inbox (connected resolve opens host port unspecified z) es
  have hnew := isNew_inbox_connected resolve opens host port unspecified z
  rw [← Event.countP_isListen, ← received_inbox_connected resolve opens host port unspecified z es,
    ← hnew.exists_runAll_iff, exists_eq_ok_iff, exists_eq_ok_iff, ← hinbox, Option.isSome_map]

section Ended

variable {resolve opens host port unspecified z es} {t : Session E}
  (h : runAll Session.step (Session.connected resolve opens host port unspecified z) es = .ok t)
include h

theorem Session.client_of_runAll_connected :
    runAll Z21.handleDataset z ((received resolve opens host port es).flatMap datasetsOf) =
      .ok t.receiver.client := by
  have hinbox := toOption_runAll_inbox (connected resolve opens host port unspecified z) es
  rw [h] at hinbox
  have hclient := ((isNew_inbox_connected resolve opens host port unspecified z).of_runAll
    (toOption_eq_some_iff.1 hinbox.symm)).1
  rwa [received_inbox_connected, inbox_connected] at hclient

theorem Session.payloads_of_runAll_connected :
    t.payloads =
      if (resolve host port).isSome && opens then es.filterMap Event.datagram? else [] := by
  have hopen : (connected resolve opens host port unspecified z).socketOpen =
      ((resolve host port).isSome && opens) :=
    congrArg Inbox.socketOpen (inbox_connected resolve opens host port unspecified z)
  have hsent : (connected resolve opens host port unspecified z).payloads = [] := by
    rw [payloads, connected, sent_connect]
    rfl
  rw [payloads_of_runAll h, hopen, hsent, List.nil_append]

end Ended

/-- **Runs of a session**: a run after `connect` goes on to its end exactly when `listen` is called
at most once and every datagram received is acceptable: its first 128 bytes are decodable datasets
and at most three more bytes. The client has then handled the datasets received, in order, and each
call whose `send_to` goes through has sent its datagram if the connection was made. -/
theorem Session.runAll_connected :
    ((∃ t, runAll step (connected resolve opens host port unspecified z) es = .ok t) ↔
        es.countP Event.isListen ≤ 1 ∧
          ∀ bytes ∈ received resolve opens host port es, Acceptable bytes) ∧
      ∀ t, runAll step (connected resolve opens host port unspecified z) es = .ok t →
        runAll Z21.handleDataset z ((received resolve opens host port es).flatMap datasetsOf) =
            .ok t.receiver.client ∧
          t.payloads =
            if (resolve host port).isSome && opens then es.filterMap Event.datagram? else [] :=
  ⟨exists_runAll_connected_iff resolve opens host port unspecified z es,
    fun _ h => ⟨client_of_runAll_connected h, payloads_of_runAll_connected h⟩⟩

/-- **The destructor**: after a run, it ends the program if `listen` was not called; it blocks if
`listen` was called on a connection and its request went through; else it comes to its deletes,
whose behaviour is undefined. -/
theorem Session.destroy_connected {t : Session E}
    (h : runAll step (connected resolve opens host port unspecified z) es = .ok t) :
    t.destroy =
      if es.any Event.isListen then
        if (resolve host port).isSome && opens && es.any Event.arms then .blocks else .deletes
      else .terminates := by
  have hinbox := toOption_runAll_inbox (connected resolve opens host port unspecified z) es
  rw [h] at hinbox
  obtain ⟨-, hp, hl⟩ := (isNew_inbox_connected resolve opens host port unspecified z).of_runAll
    (toOption_eq_some_iff.1 hinbox.symm)
  rw [inbox_connected] at hp
  have hp : t.receiver.pendingReceives = _ := hp
  have hl : t.listening = _ := hl
  simp only [Event.listen_mem_iff] at hp
  rw [Event.any_isListen] at hl
  rw [destroy, hl, hp]
  cases es.any Event.isListen <;> cases (resolve host port).isSome && opens <;>
    cases es.any Event.arms <;> rfl

end Connect

/-- A client that listens on a host that was not found. -/
theorem Session.destroy_not_found :
    ∃ t, runAll step (connected (fun _ _ => none) true "z21" "21105" () (.fresh ⟨0, 0, .unknown⟩))
        [.listen true] = .ok t ∧ t.destroy = .deletes :=
  ⟨_, rfl, Session.destroy_connected (fun _ _ => none) true "z21" "21105" () _ [.listen true] rfl⟩

end TrainPP
