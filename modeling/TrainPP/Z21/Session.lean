import TrainPP.Z21.Receive
import TrainPP.Z21.Requests

/-!
# Sessions

`Z21::connect`, `Z21::listen`, the request methods and the destructor, on the state that they share
with the receive path. The endpoint object `receiver_endpoint` is where every request is sent, and
it is also the object into which a completed receive stores the sender of its datagram.

Endpoints are of any type `E`. A `send_to` on a socket that is not open throws. One on an open
socket may go through or throw, which is up to the network: an event that sends says which it is.
-/

namespace TrainPP

/-- A client with its socket, over endpoints `E`. -/
structure Session (E : Type) where
  host : String
  port : String
  receiverEndpoint : E
  socketOpen : Bool
  /-- The listener thread has been started. -/
  listening : Bool
  receiver : Receiver Z21
  /-- The datagrams sent, each with its destination. -/
  sent : List (List UInt8 × E)

/-- How a session ends the program. -/
inductive Crash
  /-- The listener thread is assigned while it is joinable. -/
  | terminate
  /-- `handle_receive` is left early. -/
  | receive (stop : Stop Z21)
  deriving DecidableEq

/-- What happens to a connected client. Where a datagram is sent, `sends` tells whether `send_to`
goes through if the socket is open. -/
inductive Event (E : Type)
  /-- `listen` is called. -/
  | listen (sends : Bool)
  /-- A request method is called. -/
  | request (request : Request) (sends : Bool)
  /-- The socket delivers a datagram. -/
  | arrival (sender : E) (datagram : List UInt8)

namespace Session

variable {E : Type}

/-- The constructor `Z21::Z21`, with the address that a new endpoint object holds. -/
def new (host port : String) (unspecified : E) (client : Z21) : Session E where
  host := host
  port := port
  receiverEndpoint := unspecified
  socketOpen := false
  listening := false
  receiver := ⟨Vector.replicate 128 0, 0, client⟩
  sent := []

/-- `Z21::connect`, with the first endpoint that the resolver finds, if it does not throw, and
whether the socket can be opened. It returns true in every case. -/
def connect (resolve : String → String → Option E) (opens : Bool) (s : Session E) :
    Session E × Bool :=
  match resolve s.host s.port with
  | none => (s, true)
  | some endpoint =>
    ({ s with receiverEndpoint := endpoint, socketOpen := s.socketOpen || opens }, true)

/-- `socket.send_to`, to the endpoint object, or nothing when it throws. -/
def sendTo (s : Session E) (datagram : List UInt8) (sends : Bool) : Option (Session E) :=
  if s.socketOpen && sends then some { s with sent := s.sent ++ [(datagram, s.receiverEndpoint)] }
  else none

/-- A request method. An exception is passed to the caller. -/
def request (s : Session E) (r : Request) (sends : Bool) : Session E :=
  (s.sendTo r.pack sends).getD s

/-- `socket.async_receive_from`. -/
def asyncReceiveFrom (s : Session E) : Session E :=
  { s with receiver := { s.receiver with pendingReceives := s.receiver.pendingReceives + 1 } }

/-- `Z21::listen_thread_fn` up to the run of the context. An exception is caught, and then no
receive is armed. -/
def listenThreadFn (s : Session E) (sends : Bool) : Session E :=
  match s.sendTo LanGetSerialNumber.pack sends with
  | none => s
  | some s => s.asyncReceiveFrom

/-- `Z21::listen`. -/
def listen (s : Session E) (sends : Bool) : Except Crash (Session E) :=
  if s.listening then .error .terminate
  else .ok ({ s with listening := true }.listenThreadFn sends)

/-- The socket delivers a datagram: a pending receive stores its sender in the endpoint object and
its bytes in the buffer, and the completion handler runs. Without a pending receive the socket keeps
the datagram, and its delivery is a later event. -/
def arrival (s : Session E) (sender : E) (datagram : List UInt8) : Except Crash (Session E) :=
  if s.receiver.pendingReceives = 0 then .ok s
  else
    match arrive Z21.handleDataset s.receiver datagram with
    | .error stop => .error (.receive stop)
    | .ok receiver => .ok { s with receiverEndpoint := sender, receiver }

/-- What an event does to a session. -/
def step (s : Session E) : Event E → Except Crash (Session E)
  | .listen sends => s.listen sends
  | .request r sends => .ok (s.request r sends)
  | .arrival sender datagram => s.arrival sender datagram

/-- How the destructor ends. -/
inductive Ending
  /-- `join` of a thread that was never started throws, out of a destructor. -/
  | terminates
  /-- The thread runs the context as long as a receive is pending. -/
  | blocks
  /-- The handlers are deleted through pointers to `Z21_DataSet`, which has virtual functions and no
  virtual destructor: the behaviour is undefined. -/
  | deletes
  deriving DecidableEq

/-- `Z21::~Z21` joins the listener thread, and then deletes the handlers. Nothing cancels a pending
receive, and another one is pending whenever its completion handler returns. -/
def destroy (s : Session E) : Ending :=
  if s.listening then if 0 < s.receiver.pendingReceives then .blocks else .deletes else .terminates

/-! ## What a step does -/

theorem request_of_open {s : Session E} (h : s.socketOpen = true) (r : Request) :
    s.request r true = { s with sent := s.sent ++ [(r.pack, s.receiverEndpoint)] } := by
  rw [request, sendTo, if_pos (by simp [h])]
  rfl

theorem sendTo_of_not_open {s : Session E} (h : s.socketOpen = false) (datagram : List UInt8)
    (sends : Bool) : s.sendTo datagram sends = none := by
  rw [sendTo, if_neg (by simp [h])]

theorem sendTo_false (s : Session E) (datagram : List UInt8) : s.sendTo datagram false = none := by
  rw [sendTo, if_neg (by simp)]

theorem request_of_not_open {s : Session E} (h : s.socketOpen = false) (r : Request)
    (sends : Bool) : s.request r sends = s := by
  rw [request, sendTo_of_not_open h]
  rfl

/-- A request that is not sent does nothing. -/
theorem request_false (s : Session E) (r : Request) : s.request r false = s := by
  rw [request, sendTo_false]
  rfl

theorem listen_eq_ok_iff {s s' : Session E} {sends : Bool} :
    s.listen sends = .ok s' ↔
      s.listening = false ∧ s' = { s with listening := true }.listenThreadFn sends := by
  rw [listen]
  cases s.listening <;> simp [eq_comm]

theorem arrival_eq_ok_iff {s s' : Session E} {sender : E} {datagram : List UInt8} :
    s.arrival sender datagram = .ok s' ↔
      s.receiver.pendingReceives = 0 ∧ s' = s ∨
      0 < s.receiver.pendingReceives ∧ ∃ receiver,
        arrive Z21.handleDataset s.receiver datagram = .ok receiver ∧
          s' = { s with receiverEndpoint := sender, receiver } := by
  rw [arrival]
  by_cases h : s.receiver.pendingReceives = 0
  · simp [h, eq_comm]
  · rw [if_neg h]
    cases arrive Z21.handleDataset s.receiver datagram <;> simp [h, Nat.pos_iff_ne_zero, eq_comm]

end Session

end TrainPP
