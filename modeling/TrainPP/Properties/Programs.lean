import TrainPP.Properties.Sessions
import TrainPP.Z21.Program

/-!
# Runs of the program

The main thread, the listener thread and the network take turns in any order. A run of the program
on an open socket, in which no call of the main thread throws, is a run of a session: the listener
thread calls `listen`, and the main thread makes the calls of its turns
(`Program.toOption_runAll_asSession`). So what holds of every run of a session holds of the program.

* `Program.runAll_start`: on a connection the program runs as long as no call of the main thread
  throws and the datagrams received are `Acceptable`, and the client handles their datasets in
  order;
* `Program.payloads_start`: in every run, the requests sent are the first ones of a fixed sequence,
  in its order and each once, and all of it after thirteen turns of the main thread; the request of
  the listener thread, if it goes through, is sent once, somewhere between them;
* `Program.runAll_start_of_not_open`: when the connection failed, the program ends at the second
  turn of the main thread, with nothing sent.
-/

namespace TrainPP

open Checked Runs

variable {E : Type}

/-! ## The main thread -/

namespace MainThread

/-- The calls that the main thread makes in its next turns. -/
def requests : MainThread → ℕ → List Request
  | _, 0 => []
  | m, n + 1 => m.next.1.toList ++ requests m.next.2 n

/-- The main thread after some turns. -/
def after : MainThread → ℕ → MainThread
  | m, 0 => m
  | m, n + 1 => after m.next.2 n

theorem requests_add (m : MainThread) (k n : ℕ) :
    m.requests (k + n) = m.requests k ++ (m.after k).requests n := by
  induction k generalizing m with
  | zero => rw [Nat.zero_add, requests, after, List.nil_append]
  | succ k ih => rw [Nat.succ_add, requests, requests, after, ih, List.append_assoc]

/-- The requests of the program, in order. -/
def script : List Request :=
  [.systemstateGetData, .getHWInfo, .setBroadcastFlagsDefault, .getBroadcastFlags,
    .lanXGetLocoInfo 10, .getCode, .getLocomode 0x0001, .lanXSetTrackPowerOn]

/-- When everything has been sent, the turns of the loop make no calls. -/
theorem requests_of_done (n : ℕ) : requests ⟨[], true, true, true, true, true⟩ n = [] := by
  induction n with
  | zero => rfl
  | succ n ih => exact ih

theorem requests_initial_of_le {n : ℕ} (h : 13 ≤ n) : initial.requests n = script := by
  obtain ⟨k, rfl⟩ := Nat.exists_eq_add_of_le h
  have hafter : initial.after 13 = ⟨[], true, true, true, true, true⟩ := by decide
  have hscript : initial.requests 13 = script := by decide
  rw [requests_add, hafter, requests_of_done, List.append_nil, hscript]

/-- **The calls of the main thread** are the first ones of the script. -/
theorem requests_initial_prefix (n : ℕ) : initial.requests n <+: script := by
  rcases Nat.le_total 13 n with h | h
  · exact ⟨[], by rw [requests_initial_of_le h, List.append_nil]⟩
  · refine ⟨(initial.after n).requests (13 - n), ?_⟩
    rw [← requests_add, Nat.add_sub_cancel' h, requests_initial_of_le (Nat.le_refl 13)]

theorem requests_initial_eq_nil_iff {n : ℕ} : initial.requests n = [] ↔ n ≤ 1 := by
  constructor
  · intro h
    by_contra hn
    obtain ⟨k, rfl⟩ := Nat.exists_eq_add_of_le (Nat.lt_of_not_le hn)
    rw [requests_add, List.append_eq_nil_iff] at h
    exact absurd h.1 (by decide)
  · intro h
    match n, h with
    | 0, _ => rfl
    | 1, _ => rfl

end MainThread

/-! ## A run of the program is a run of a session -/

theorem Session.listenThreadFn_of_open {s : Session E} (h : s.socketOpen = true) :
    s.listenThreadFn true = { s with
      sent := s.sent ++ [(LanGetSerialNumber.pack, s.receiverEndpoint)] }.asyncReceiveFrom := by
  rw [listenThreadFn, sendTo, if_pos (by simp [h])]

theorem Session.listenThreadFn_false (s : Session E) : s.listenThreadFn false = s := by
  rw [listenThreadFn, sendTo_false]

theorem Session.socketOpen_of_runAll {s s' : Session E} {es : List (Event E)}
    (h : runAll step s es = .ok s') : s'.socketOpen = s.socketOpen := by
  refine runAll_induction (R := fun _ t => t.socketOpen = s.socketOpen) rfl ?_ h
  exact fun _ _ _ _ ht hstep => (socketOpen_of_step hstep).trans ht

namespace Turn

def isMain : Turn E → Bool
  | main _ => true
  | _ => false

def bytes? : Turn E → Option (List UInt8)
  | arrival _ datagram => some datagram
  | _ => none

end Turn

/-- What decides which calls a turn makes. -/
structure Control where
  main : MainThread
  started : Bool

namespace Control

def step (c : Control) : Turn E → Control
  | .main _ => { c with main := c.main.next.2 }
  | .listener _ => { c with started := true }
  | .arrival _ _ => c

/-- The events of the session in a turn. -/
def events (c : Control) : Turn E → List (Event E)
  | .main sends => c.main.next.1.toList.map (.request · sends)
  | .listener sends => if c.started then [] else [.listen sends]
  | .arrival sender datagram => [.arrival sender datagram]

/-- The events of the session in a run. -/
def trace : Control → List (Turn E) → List (Event E)
  | _, [] => []
  | c, t :: ts => c.events t ++ trace (c.step t) ts

/-- The main thread makes a call in a turn, and the call throws on an open socket. -/
def throws (c : Control) : Turn E → Bool
  | .main sends => c.main.next.1.isSome && !sends
  | _ => false

/-- A call of the main thread throws in a run. -/
def throwsIn : Control → List (Turn E) → Bool
  | _, [] => false
  | c, t :: ts => c.throws t || throwsIn (c.step t) ts

end Control

namespace Program

def control (p : Program E) : Control := ⟨p.main, p.started⟩

/-- The session of a program, in which `listen` is called when the listener thread starts. -/
def asSession (p : Program E) : Session E := { p.session with listening := p.started }

theorem step_main_of_none {p : Program E} {m : MainThread} (h : p.main.next = (none, m))
    (sends : Bool) : p.step (.main sends) = .ok { p with main := m } := by
  rw [step, h]

theorem step_main_of_some {p : Program E} {r : Request} {m : MainThread}
    (h : p.main.next = (some r, m)) (hopen : p.session.socketOpen = true) :
    p.step (.main true) = .ok { p with main := m, session := p.session.request r true } := by
  rw [step, h, Session.request_of_open hopen]
  dsimp only
  rw [Session.sendTo, if_pos (by simp [hopen])]

theorem step_main_of_not_open {p : Program E} {r : Request} {m : MainThread}
    (h : p.main.next = (some r, m)) (hopen : p.session.socketOpen = false) (sends : Bool) :
    p.step (.main sends) = .error .uncaught := by
  rw [step, h]
  dsimp only
  rw [Session.sendTo_of_not_open hopen]

theorem step_of_throws {p : Program E} {t : Turn E} (h : p.control.throws t = true) :
    p.step t = .error .uncaught := by
  cases t with
  | main sends =>
    obtain ⟨hcall, hsends⟩ := Bool.and_eq_true_iff.1 h
    obtain rfl : sends = false := by simpa using hsends
    obtain ⟨r, hr⟩ := Option.isSome_iff_exists.1 hcall
    have hnext : p.main.next = (some r, p.main.next.2) := Prod.ext hr rfl
    rw [step, hnext]
    dsimp only
    rw [Session.sendTo_false]
  | listener sends => cases h
  | arrival sender datagram => cases h

theorem toOption_arrival_asSession (p : Program E) (sender : E) (datagram : List UInt8) :
    (p.asSession.arrival sender datagram).toOption =
      (p.session.arrival sender datagram).toOption.map fun s =>
        { s with listening := p.started } := by
  have hreceiver : p.asSession.receiver = p.session.receiver := rfl
  rw [Session.arrival, Session.arrival, hreceiver]
  by_cases hp : p.session.receiver.pendingReceives = 0
  · rw [if_pos hp, if_pos hp]
    rfl
  · rw [if_neg hp, if_neg hp]
    cases arrive Z21.handleDataset p.session.receiver datagram <;> rfl

/-- **A turn of the program on an open socket is a run of its session**, if it does not throw. -/
theorem toOption_step_asSession {p : Program E} (hopen : p.session.socketOpen = true)
    {t : Turn E} (h : p.control.throws t = false) :
    (p.step t).toOption.map (fun p => (p.control, p.asSession)) =
      (runAll Session.step p.asSession (p.control.events t)).toOption.map
        (p.control.step t, ·) := by
  cases t with
  | main sends =>
    rcases hnext : p.main.next with ⟨call, m⟩
    have hcontrol : p.control.step (.main sends : Turn E) = ⟨m, p.started⟩ :=
      congrArg (Control.mk · p.started) (congrArg Prod.snd hnext)
    have hevents : p.control.events (.main sends : Turn E) = call.toList.map (.request · sends) :=
      congrArg (fun x : Option Request × MainThread => x.1.toList.map (Event.request · sends)) hnext
    rw [hcontrol, hevents]
    cases call with
    | none =>
      rw [step_main_of_none hnext]
      rfl
    | some r =>
      have hcall : p.control.main.next.1 = some r := congrArg Prod.fst hnext
      obtain rfl : sends = true := by simpa [Control.throws, hcall] using h
      have hrequest : p.asSession.step (.request r true) =
          .ok { p.session.request r true with listening := p.started } := by
        refine congrArg Except.ok ?_
        rw [Session.request_of_open hopen]
        exact Session.request_of_open (s := p.asSession) hopen r
      rw [step_main_of_some hnext hopen, Option.toList_some, List.map_singleton,
        runAll_cons_ok hrequest]
      rfl
  | listener sends =>
    cases hs : p.started with
    | true =>
      have hevents : p.control.events (.listener sends : Turn E) = [] := if_pos hs
      rw [hevents, step, if_pos hs]
      exact congrArg (fun b => some (Control.mk p.main b, p.asSession)) hs
    | false =>
      have hevents : p.control.events (.listener sends : Turn E) = [.listen sends] :=
        if_neg (by simp [control, hs])
      have hlisten : p.asSession.step (.listen sends) =
          .ok ({ p.asSession with listening := true }.listenThreadFn sends) :=
        Session.listen_eq_ok_iff.2 ⟨hs, rfl⟩
      rw [hevents, step, if_neg (by simp [hs]), runAll_cons_ok hlisten]
      cases sends with
      | false =>
        rw [Session.listenThreadFn_false, Session.listenThreadFn_false]
        rfl
      | true =>
        rw [Session.listenThreadFn_of_open hopen,
          Session.listenThreadFn_of_open (s := { p.asSession with listening := true }) hopen]
        rfl
  | arrival sender datagram =>
    show (p.step (.arrival sender datagram)).toOption.map _ =
      (runAll Session.step p.asSession [.arrival sender datagram]).toOption.map _
    rw [toOption_runAll_cons]
    show _ = Option.map _ ((p.asSession.arrival sender datagram).toOption.bind _)
    rw [toOption_arrival_asSession, step]
    cases p.session.arrival sender datagram <;> rfl

/-- **Refinement**: a run of the program on an open socket is a run of its session, and ends before
when a call of the main thread throws. -/
theorem toOption_runAll_asSession {p : Program E} (hopen : p.session.socketOpen = true)
    (ts : List (Turn E)) :
    (runAll step p ts).toOption.map asSession =
      if p.control.throwsIn ts then none
      else (runAll Session.step p.asSession (p.control.trace ts)).toOption := by
  induction ts generalizing p with
  | nil => rfl
  | cons t ts ih =>
    rw [Control.throwsIn]
    cases hthrows : p.control.throws t with
    | true =>
      rw [Bool.true_or, if_pos rfl, runAll_cons_error (step_of_throws hthrows)]
      rfl
    | false =>
      have hstep := toOption_step_asSession hopen hthrows
      rw [Bool.false_or, toOption_runAll_cons, Control.trace, toOption_runAll_append]
      cases hp : p.step t with
      | error exit =>
        rw [hp] at hstep
        cases hs : runAll Session.step p.asSession (p.control.events t) with
        | error _ => exact (ite_self _).symm
        | ok s =>
          rw [hs] at hstep
          cases hstep
      | ok p' =>
        rw [hp] at hstep
        cases hs : runAll Session.step p.asSession (p.control.events t) with
        | error _ =>
          rw [hs] at hstep
          cases hstep
        | ok s =>
          rw [hs] at hstep
          obtain ⟨hcontrol, rfl⟩ := Prod.mk.inj (Option.some.inj hstep)
          rw [← hcontrol]
          exact ih ((Session.socketOpen_of_runAll hs).trans hopen)

end Program

/-! ## What a run of the program is as a run of a session -/

namespace Turn

/-- The first turn of the listener thread, whose request arms the receive if it goes through. -/
def armed : List (Turn E) → Bool
  | [] => false
  | listener sends :: _ => sends
  | _ :: ts => armed ts

/-- The datagrams received in a run: those delivered after the turn that arms the receive. -/
def received : List (Turn E) → List (List UInt8)
  | [] => []
  | listener sends :: ts => if sends then ts.filterMap bytes? else []
  | _ :: ts => received ts

/-- A call of the main thread throws in a run of the program, on an open socket. -/
def throwsIn (ts : List (Turn E)) : Bool := Control.throwsIn ⟨.initial, false⟩ ts

end Turn

namespace Control

/-- The events of the main thread are calls. -/
theorem filterMap_signal?_events_main (c : Control) (sends : Bool) :
    (c.events (.main sends : Turn E)).filterMap Event.signal? = [] := by
  rw [events]
  cases c.main.next.1 <;> rfl

theorem filterMap_datagram?_events_main {c : Control} {sends : Bool}
    (h : c.throws (.main sends : Turn E) = false) :
    (c.events (.main sends : Turn E)).filterMap Event.datagram? =
      c.main.next.1.toList.map (·.pack) := by
  rw [throws] at h
  rw [events]
  cases hcall : c.main.next.1 with
  | none => rfl
  | some r =>
    obtain rfl : sends = true := by simpa [hcall] using h
    rfl

/-- The receive path of a listener that runs sees the datagrams of the network. -/
theorem signals_of_started {c : Control} (h : c.started = true) (ts : List (Turn E)) :
    (c.trace ts).filterMap Event.signal? = (ts.filterMap Turn.bytes?).map .datagram := by
  induction ts generalizing c with
  | nil => rfl
  | cons t ts ih =>
    rw [trace, List.filterMap_append]
    cases t with
    | main sends =>
      rw [filterMap_signal?_events_main, List.nil_append]
      exact ih h
    | listener sends =>
      rw [events, if_pos h]
      exact ih rfl
    | arrival sender datagram => exact congrArg (Signal.datagram datagram :: ·) (ih h)

theorem filterMap_bytes?_datagram (bs : List (List UInt8)) :
    (bs.map Signal.datagram).filterMap Signal.bytes? = bs := by
  rw [List.filterMap_map]
  exact List.filterMap_some

/-- What is received in a run of the session is what is received in the run of the program. -/
theorem delivered_trace {c : Control} (h : c.started = false) (ts : List (Turn E)) :
    delivered ((c.trace ts).filterMap Event.signal?) = Turn.received ts := by
  induction ts generalizing c with
  | nil => rfl
  | cons t ts ih =>
    rw [trace, List.filterMap_append]
    cases t with
    | main sends =>
      rw [filterMap_signal?_events_main, List.nil_append]
      exact ih h
    | listener sends =>
      rw [events, if_neg (by simp [h]), signals_of_started rfl]
      cases sends with
      | false => exact delivered_of_not_mem (by simp [Event.signal?])
      | true => exact filterMap_bytes?_datagram _
    | arrival sender datagram => exact ih h

/-- The listener thread calls `listen` once. -/
theorem countP_isListen_trace (c : Control) (ts : List (Turn E)) :
    (c.trace ts).countP Event.isListen ≤ if c.started then 0 else 1 := by
  induction ts generalizing c with
  | nil => exact Nat.zero_le _
  | cons t ts ih =>
    rw [trace, List.countP_append]
    cases t with
    | main sends =>
      have hcalls : (c.events (.main sends : Turn E)).countP Event.isListen = 0 := by
        rw [events]
        cases c.main.next.1 <;> rfl
      rw [hcalls, Nat.zero_add]
      exact ih _
    | listener sends =>
      have hrest := ih (c.step (.listener sends : Turn E))
      rw [events]
      cases hs : c.started with
      | true => simpa [step] using hrest
      | false =>
        have hnone :
            List.countP Event.isListen (trace (c.step (.listener sends : Turn E)) ts) = 0 :=
          Nat.le_zero.1 hrest
        rw [hnone]
        exact Nat.le_refl 1
    | arrival sender datagram =>
      have hnone : (c.events (.arrival sender datagram)).countP Event.isListen = 0 := rfl
      rw [hnone, Nat.zero_add]
      exact ih c

/-- What a run sends is what its main thread sends, with the request of the listener thread
somewhere between. -/
theorem exists_datagrams_trace {c : Control} {ts : List (Turn E)} (h : c.throwsIn ts = false) :
    ∃ l₁ l₂, (c.trace ts).filterMap Event.datagram? =
        l₁ ++ (if !c.started && Turn.armed ts then [LanGetSerialNumber.pack] else []) ++ l₂ ∧
      l₁ ++ l₂ = (c.main.requests (ts.countP Turn.isMain)).map (·.pack) := by
  induction ts generalizing c with
  | nil => exact ⟨[], [], by simp [trace, Turn.armed], rfl⟩
  | cons t ts ih =>
    rw [throwsIn, Bool.or_eq_false_iff] at h
    rw [trace, List.filterMap_append]
    obtain ⟨l₁, l₂, hsent, hcalls⟩ := ih h.2
    rw [hsent]
    cases t with
    | main sends =>
      refine ⟨c.main.next.1.toList.map (·.pack) ++ l₁, l₂, ?_, ?_⟩
      · rw [filterMap_datagram?_events_main h.1]
        simp [step, Turn.armed]
      · rw [List.append_assoc, hcalls, List.countP_cons_of_pos rfl, MainThread.requests,
          List.map_append]
        rfl
    | listener sends =>
      rw [List.countP_cons_of_neg Bool.false_ne_true]
      cases hs : c.started with
      | true => exact ⟨l₁, l₂, by simp [events, step, hs], hcalls⟩
      | false =>
        refine ⟨[], l₁ ++ l₂, ?_, hcalls⟩
        cases sends <;> simp [events, step, hs, Event.datagram?, Turn.armed]
    | arrival sender datagram =>
      refine ⟨l₁, l₂, ?_, hcalls⟩
      simp [events, step, Event.datagram?, Turn.armed]

end Control

/-! ## Runs from the start -/

namespace Program

section Start

variable {resolve : String → String → Option E} {opens : Bool} {host port : String}
  (unspecified : E) (z : Z21)

/-- When the loop begins, the session is the one that `connect` has left. -/
theorem asSession_start :
    (start resolve opens host port unspecified z).asSession =
      Session.connected resolve opens host port unspecified z := by
  have h : (Session.connected resolve opens host port unspecified z).listening = false :=
    congrArg Inbox.listening (Session.inbox_connected resolve opens host port unspecified z)
  show { Session.connected resolve opens host port unspecified z with listening := false } = _
  rw [← h]

theorem socketOpen_start :
    (start resolve opens host port unspecified z).session.socketOpen =
      ((resolve host port).isSome && opens) :=
  congrArg Inbox.socketOpen (Session.inbox_connected resolve opens host port unspecified z)

section Open

variable (hopen : ((resolve host port).isSome && opens) = true)
include hopen

theorem toOption_runAll_start (ts : List (Turn E)) :
    (runAll step (start resolve opens host port unspecified z) ts).toOption.map asSession =
      if Turn.throwsIn ts then none
      else (runAll Session.step (Session.connected resolve opens host port unspecified z)
        (Control.trace ⟨.initial, false⟩ ts)).toOption := by
  rw [toOption_runAll_asSession ((socketOpen_start unspecified z).trans hopen), asSession_start]
  rfl

theorem received_trace (ts : List (Turn E)) :
    Session.received resolve opens host port (Control.trace ⟨.initial, false⟩ ts) =
      Turn.received ts := by
  rw [Session.received, if_pos hopen, Control.delivered_trace rfl]

/-- A run of the program that goes on has a run of the session that goes on. -/
theorem of_runAll_start {ts : List (Turn E)} {p : Program E}
    (hp : runAll step (start resolve opens host port unspecified z) ts = .ok p) :
    Turn.throwsIn ts = false ∧
      runAll Session.step (Session.connected resolve opens host port unspecified z)
        (Control.trace ⟨.initial, false⟩ ts) = .ok p.asSession := by
  have hrun := toOption_runAll_start unspecified z hopen ts
  rw [hp] at hrun
  cases hthrows : Turn.throwsIn ts with
  | true =>
    rw [hthrows] at hrun
    cases hrun
  | false =>
    rw [hthrows, if_neg Bool.false_ne_true] at hrun
    exact ⟨rfl, toOption_eq_some_iff.1 hrun.symm⟩

/-- **The program on a connection** runs as long as no call of the main thread throws and every
datagram received is acceptable, whatever the order of the turns, and the client handles the
datasets of these datagrams in order. -/
theorem runAll_start (ts : List (Turn E)) :
    ((∃ p, runAll step (start resolve opens host port unspecified z) ts = .ok p) ↔
        Turn.throwsIn ts = false ∧ ∀ bytes ∈ Turn.received ts, Acceptable bytes) ∧
      ∀ p, runAll step (start resolve opens host port unspecified z) ts = .ok p →
        runAll Z21.handleDataset z ((Turn.received ts).flatMap datasetsOf) =
          .ok p.session.receiver.client := by
  have hreceived := received_trace (E := E) hopen ts
  constructor
  · have hlisten : (Control.trace ⟨.initial, false⟩ ts).countP Event.isListen ≤ 1 :=
      Control.countP_isListen_trace ⟨.initial, false⟩ ts
    have hsession := Session.exists_runAll_connected_iff resolve opens host port unspecified z
      (Control.trace ⟨.initial, false⟩ ts)
    rw [and_iff_right hlisten, hreceived] at hsession
    rw [exists_eq_ok_iff, ← Option.isSome_map, toOption_runAll_start unspecified z hopen]
    cases Turn.throwsIn ts with
    | true => simp
    | false =>
      rw [if_neg Bool.false_ne_true, ← exists_eq_ok_iff, hsession]
      exact (and_iff_right rfl).symm
  · intro p hp
    have hclient := Session.client_of_runAll_connected (of_runAll_start unspecified z hopen hp).2
    rwa [hreceived] at hclient

/-- **What the program sends**: in every run on a connection, the first requests of the script, each
once and in order, and all of it after thirteen turns of the main thread; and in one place the
request of the listener thread, if it had a turn and the request went through. -/
theorem payloads_start {ts : List (Turn E)} {p : Program E}
    (hp : runAll step (start resolve opens host port unspecified z) ts = .ok p) :
    ∃ l₁ l₂, p.session.payloads =
        l₁ ++ (if Turn.armed ts then [LanGetSerialNumber.pack] else []) ++ l₂ ∧
      l₁ ++ l₂ <+: MainThread.script.map (·.pack) ∧
      (13 ≤ ts.countP Turn.isMain → l₁ ++ l₂ = MainThread.script.map (·.pack)) := by
  obtain ⟨hthrows, hrun⟩ := of_runAll_start unspecified z hopen hp
  have hpayloads := Session.payloads_of_runAll_connected hrun
  rw [if_pos hopen] at hpayloads
  obtain ⟨l₁, l₂, hsent, hcalls⟩ := Control.exists_datagrams_trace hthrows
  refine ⟨l₁, l₂, hpayloads.trans hsent, ?_, fun hmain => ?_⟩
  · rw [hcalls]
    exact (MainThread.requests_initial_prefix _).map _
  · rw [hcalls]
    exact congrArg _ (MainThread.requests_initial_of_le hmain)

end Open

/-- Without a socket a turn of the listener thread only marks that it has started. -/
theorem step_listener_of_not_open {p : Program E} (hopen : p.session.socketOpen = false)
    (sends : Bool) : p.step (.listener sends) = .ok { p with started := true } := by
  have hlisten : p.session.listenThreadFn sends = p.session := by
    rw [Session.listenThreadFn, Session.sendTo_of_not_open hopen]
  rw [step, hlisten]
  cases hs : p.started with
  | true =>
    rw [if_pos rfl, ← hs]
  | false => exact if_neg Bool.false_ne_true

/-- Without a pending receive no datagram is delivered. -/
theorem step_arrival_of_not_pending {p : Program E}
    (hpending : p.session.receiver.pendingReceives = 0) (sender : E) (datagram : List UInt8) :
    p.step (.arrival sender datagram) = .ok p := by
  rw [step, Session.arrival, if_pos hpending]

/-- Without a socket the first call of the main thread ends the program, and nothing else does. -/
theorem runAll_of_not_open {p : Program E} (hopen : p.session.socketOpen = false)
    (hpending : p.session.receiver.pendingReceives = 0) (ts : List (Turn E)) :
    ((∃ p', runAll step p ts = .ok p') ↔ p.main.requests (ts.countP Turn.isMain) = []) ∧
      ∀ p', runAll step p ts = .ok p' →
        p'.session.receiver = p.session.receiver ∧ p'.session.sent = p.session.sent := by
  induction ts generalizing p with
  | nil =>
    refine ⟨iff_of_true ⟨p, rfl⟩ rfl, ?_⟩
    rintro p' ⟨⟩
    exact ⟨rfl, rfl⟩
  | cons t ts ih =>
    cases t with
    | main sends =>
      rw [List.countP_cons_of_pos rfl, MainThread.requests]
      rcases hnext : p.main.next with ⟨call, m⟩
      cases call with
      | none =>
        have hrest := ih (p := { p with main := m }) hopen hpending
        rw [runAll_cons_ok (step_main_of_none hnext sends)]
        exact hrest
      | some r =>
        rw [runAll_cons_error (step_main_of_not_open hnext hopen sends)]
        exact ⟨iff_of_false (by simp) (by simp), by simp⟩
    | listener sends =>
      have hrest := ih (p := { p with started := true }) hopen hpending
      rw [List.countP_cons_of_neg Bool.false_ne_true,
        runAll_cons_ok (step_listener_of_not_open hopen sends)]
      exact hrest
    | arrival sender datagram =>
      rw [List.countP_cons_of_neg Bool.false_ne_true,
        runAll_cons_ok (step_arrival_of_not_pending hpending sender datagram)]
      exact ih hopen hpending

/-- **The program without a connection** ends at the second turn of its main thread, which makes the
first call; whatever happens before, nothing is sent and nothing is received. -/
theorem runAll_start_of_not_open (hopen : ((resolve host port).isSome && opens) = false)
    (ts : List (Turn E)) :
    ((∃ p, runAll step (start resolve opens host port unspecified z) ts = .ok p) ↔
        ts.countP Turn.isMain ≤ 1) ∧
      ∀ p, runAll step (start resolve opens host port unspecified z) ts = .ok p →
        p.session.receiver.client = z ∧ p.session.sent = [] := by
  have hreceiver : (start resolve opens host port unspecified z).session.receiver =
      ⟨Vector.replicate 128 0, 0, z⟩ :=
    congrArg Inbox.receiver (Session.inbox_connected resolve opens host port unspecified z)
  have hsent : (start resolve opens host port unspecified z).session.sent = [] :=
    Session.sent_connect resolve opens (Session.new host port unspecified z)
  obtain ⟨hiff, hend⟩ := runAll_of_not_open ((socketOpen_start unspecified z).trans hopen)
    (congrArg Receiver.pendingReceives hreceiver) ts
  refine ⟨hiff.trans MainThread.requests_initial_eq_nil_iff, fun p hp => ?_⟩
  obtain ⟨hr, hs⟩ := hend p hp
  exact ⟨congrArg Receiver.client (hr.trans hreceiver), hs.trans hsent⟩

end Start

/-! ## Runs of a few turns -/

/-- A client of a command station that was found. -/
def startFound : Program Unit :=
  start (fun _ _ => some ()) true "z21" "21105" () (.fresh ⟨0, 0, .unknown⟩)

/-- The reply to the listener thread arrives between two turns of the main thread. -/
theorem runAll_start_found :
    ∃ p, runAll step startFound
      [.main true, .listener true, .arrival () serialNumberBatch.datagram, .main true] = .ok p := by
  refine (runAll_start () _ rfl _).1.2 ⟨rfl, ?_⟩
  rintro _ (_ | ⟨_, ⟨⟩⟩)
  refine acceptable_datagram serialNumberBatch ?_
  rintro _ (_ | ⟨_, ⟨⟩⟩)
  decide

/-- The listener thread sends its request behind the first call of the main thread. -/
theorem payloads_start_found :
    ∃ p, runAll step startFound
        [.main true, .main true, .listener true, .main true, .main true] = .ok p ∧
      ∃ l₁ l₂, p.session.payloads = l₁ ++ [LanGetSerialNumber.pack] ++ l₂ ∧
        l₁ ++ l₂ <+: MainThread.script.map (·.pack) := by
  obtain ⟨p, hp⟩ : ∃ p, runAll step startFound
      [.main true, .main true, .listener true, .main true, .main true] = .ok p := ⟨_, rfl⟩
  obtain ⟨l₁, l₂, hsent, hcalls, -⟩ := payloads_start () _ rfl hp
  exact ⟨p, hp, l₁, l₂, hsent, hcalls⟩

/-- The command station is not found. -/
theorem runAll_start_not_found :
    ∃ p, runAll step (start (fun _ _ => none) true "z21" "21105" () (.fresh ⟨0, 0, .unknown⟩))
      [.listener true, .main true] = .ok p :=
  (runAll_start_of_not_open () _ rfl _).1.2 (by decide)

end Program

end TrainPP
