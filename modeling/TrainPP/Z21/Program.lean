import TrainPP.Z21.Session

/-!
# The program

The program of `main.cpp`: a client is made, `connect` and `listen` are called, and a loop of one
turn a second sends a fixed sequence of requests. The main thread and the listener thread take turns
in any order, and datagrams arrive at any time.

`main` does not look at the result of `connect`. An exception of a `send_to` leaves it.
-/

namespace TrainPP

namespace BroadcastFlags

def drivingAndSwitching : UInt32 := 0x1
def z21StatusChanges : UInt32 := 0x100

end BroadcastFlags

/-- The call of `Z21::set_broadcast_flags`. -/
def Request.setBroadcastFlagsDefault : Request :=
  .setBroadcastFlags (BroadcastFlags.drivingAndSwitching ||| BroadcastFlags.z21StatusChanges)

/-- The variables of `main`, which say what has been sent. -/
structure SentFlags where
  sentGetHwInfo : Bool
  sentSetBcFlags : Bool
  sentGetSystemState : Bool
  sentLanGetCode : Bool
  sentSetCv : Bool
  deriving DecidableEq, Repr

def SentFlags.initial : SentFlags := ⟨false, false, false, false, false⟩

/-- A turn of the loop: the calls that it makes, and the variables behind it. -/
def SentFlags.turn (f : SentFlags) : List Request × SentFlags :=
  if !f.sentGetSystemState then
    ([.systemstateGetData], { f with sentGetSystemState := true })
  else if !f.sentGetHwInfo then
    ([.getHWInfo], { f with sentGetHwInfo := true })
  else if !f.sentSetBcFlags then
    ([.setBroadcastFlagsDefault, .getBroadcastFlags, .lanXGetLocoInfo 10],
      { f with sentSetBcFlags := true })
  else if !f.sentLanGetCode then
    ([.getCode, .getLocomode 0x0001], { f with sentLanGetCode := true })
  else if !f.sentSetCv then
    ([.lanXSetTrackPowerOn], { f with sentSetCv := true })
  else ([], f)

/-- The main thread in its loop, with the calls of the turn that it has not made yet. Only the main
thread reads its variables, so that a turn may set them before it makes its calls. -/
structure MainThread where
  calls : List Request
  flags : SentFlags
  deriving DecidableEq

def MainThread.initial : MainThread := ⟨[], .initial⟩

/-- What the main thread does next: a call, or the next turn of the loop. -/
def MainThread.next (m : MainThread) : Option Request × MainThread :=
  match m.calls with
  | [] => (none, ⟨m.flags.turn.1, m.flags.turn.2⟩)
  | r :: calls => (some r, { m with calls })

/-- The program, over endpoints `E`. -/
structure Program (E : Type) where
  main : MainThread
  /-- The listener thread runs the context. -/
  started : Bool
  session : Session E

/-- What happens next in the program. Where a datagram is sent, `sends` tells whether `send_to` goes
through if the socket is open. -/
inductive Turn (E : Type)
  | main (sends : Bool)
  | listener (sends : Bool)
  /-- The socket delivers a datagram. -/
  | arrival (sender : E) (datagram : List UInt8)

/-- How the program ends. -/
inductive Exit
  /-- An exception leaves `main`. -/
  | uncaught
  | crash (crash : Crash)
  deriving DecidableEq

namespace Program

variable {E : Type}

/-- The program when its loop begins: `connect` has returned, and `listen` has made the listener
thread. -/
def start (resolve : String → String → Option E) (opens : Bool) (host port : String)
    (unspecified : E) (z : Z21) : Program E where
  main := .initial
  started := false
  session := { ((Session.new host port unspecified z).connect resolve opens).1 with
    listening := true }

def step (p : Program E) : Turn E → Except Exit (Program E)
  | .main sends =>
    match p.main.next with
    | (none, main) => .ok { p with main }
    | (some r, main) =>
      match p.session.sendTo r.pack sends with
      | none => .error .uncaught
      | some session => .ok { p with main, session }
  | .listener sends =>
    if p.started then .ok p
    else .ok { p with started := true, session := p.session.listenThreadFn sends }
  | .arrival sender datagram =>
    match p.session.arrival sender datagram with
    | .error crash => .error (.crash crash)
    | .ok session => .ok { p with session }

end Program

end TrainPP
