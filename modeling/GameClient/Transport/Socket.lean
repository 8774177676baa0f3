import GameClient.Log.Notice

/-! # WebSocket links

Each link is driven by a task of its own. `SocketTask.step?` says what the task may do next, and
what of it shows: events reported to the client, messages sent to the server, notices. What is not
for the task to decide (how the attempt to connect ends, what the server sends, whether a frame
gets through) is in the step, and a step is possible in some states only.

While the task waits for its attempt to connect, the end of the attempt and a shutdown are equal:
either may be noticed first. Afterwards a shutdown comes before waiting frames, and these before
anything from the server. -/

namespace GameClient

/-- What comes from the server on an open link. -/
inductive Inbound where
  | binary (frame : Bytes)
  /-- Text, ping and pong carry no frames. -/
  | other
  | close
  | failed (reason : String)
  | ended
deriving DecidableEq

namespace SocketTask

inductive Phase where
  | spawned
  | connecting
  /-- The link is open, and the task waits. -/
  | waiting
  /-- A frame is on its way to the server. -/
  | sending (frame : Bytes)
  /-- The client closes the link; the waiting frames go out first. -/
  | flushing
  /-- Nothing is left but the Close message. -/
  | closing
  | finished
deriving DecidableEq

inductive Step where
  /-- The task runs for the first time. -/
  | run
  | connected
  | refused (reason : String)
  | shutdown
  /-- The next waiting frame is taken up. -/
  | take
  /-- The frame that is on its way gets through. -/
  | sent
  | sendFailed (reason : String)
  | receive (message : Inbound)
  | close
deriving DecidableEq

/-- What shows of a step. -/
inductive Output where
  | report (event : Event)
  | transmit (frame : Bytes)
  | transmitClose
  | note (notice : Notice)
deriving DecidableEq

end SocketTask

structure SocketTask where
  url : String
  phase : SocketTask.Phase := .spawned
  /-- Frames that were accepted and not yet taken up, oldest first. -/
  outbox : List Bytes := []
  /-- The owner asked for a shutdown, or let go of the link. -/
  shutdownRequested : Bool := false
deriving DecidableEq

namespace SocketTask

def finish (t : SocketTask) (outputs : List Output) : SocketTask × List Output :=
  ({ t with phase := .finished }, outputs)

/-- A link that ended by itself reports so; nobody may be there to hear it. -/
def lose (t : SocketTask) (heard : Bool) (why : List Output) : SocketTask × List Output :=
  t.finish (why ++ if heard then [.report .disconnected] else [])

/-- The task reads a message. A frame that nobody can receive ends the link. -/
def receive (t : SocketTask) (heard : Bool) : Inbound → SocketTask × List Output
  | .binary frame => if heard then (t, [.report (.frame frame)]) else t.finish []
  | .other => (t, [])
  | .close => t.lose heard [.note .serverClosed]
  | .failed reason => t.lose heard [.note (.socketFailed reason)]
  | .ended => t.lose heard [.note .socketEnded]

/-- One step of the task, if it is possible now. `heard` says whether the receiving end of the
event channel is still there. -/
def step? (t : SocketTask) (heard : Bool) (step : Step) : Option (SocketTask × List Output) :=
  match t.phase, step with
  | .spawned, .run => some ({ t with phase := .connecting }, [.note (.socketConnecting t.url)])
  | .connecting, .connected =>
    let established := Output.note (.socketEstablished t.url)
    if heard then some ({ t with phase := .waiting }, [established, .report .connected])
    else some (t.finish [established])
  | .connecting, .refused reason => some (t.lose heard [.note (.socketRefused t.url reason)])
  | .connecting, .shutdown => if t.shutdownRequested then some (t.finish []) else none
  | .waiting, .shutdown =>
    if t.shutdownRequested then some ({ t with phase := .flushing }, []) else none
  | .waiting, .take =>
    match t.shutdownRequested, t.outbox with
    | false, frame :: rest => some ({ t with phase := .sending frame, outbox := rest }, [])
    | _, _ => none
  | .waiting, .receive message =>
    if !t.shutdownRequested && t.outbox.isEmpty then some (t.receive heard message) else none
  | .sending frame, .sent => some ({ t with phase := .waiting }, [.transmit frame])
  | .sending _, .sendFailed reason => some (t.lose heard [.note (.socketSendFailed reason)])
  | .flushing, .sent =>
    match t.outbox with
    | frame :: rest => some ({ t with outbox := rest }, [.transmit frame])
    | [] => none
  | .flushing, .sendFailed _ =>
    match t.outbox with
    | _ :: rest => some ({ t with phase := .closing, outbox := rest }, [])
    | [] => none
  | .flushing, .close =>
    if t.outbox.isEmpty then some (t.finish [.transmitClose, .note (.socketClosed t.url)]) else none
  | .closing, .close => some (t.finish [.transmitClose, .note (.socketClosed t.url)])
  | _, _ => none

end SocketTask

/-- The owner's side: at most one current link, and the tasks of former links. -/
structure WebSocket where
  url : String
  /-- Tasks can be spawned. -/
  hasRuntime : Bool := true
  former : List SocketTask := []
  current : Option SocketTask := none
deriving DecidableEq

namespace WebSocket

/-- Lets go of the current link; its task is asked to shut down. -/
def disconnect (s : WebSocket) : WebSocket :=
  match s.current with
  | some task =>
    { s with former := s.former ++ [{ task with shutdownRequested := true }], current := none }
  | none => s

/-- A new link replaces the current one. The outcome is reported by its task. -/
def connect (s : WebSocket) : Answer × WebSocket :=
  if s.hasRuntime then (.accepted, { s.disconnect with current := some { url := s.url } })
  else (.refused .noRuntime, s)

/-- Leaves a frame with the task of the current link; a task that is finished takes none. -/
def send (frame : Bytes) (s : WebSocket) : Answer × WebSocket :=
  match s.current with
  | none => (.refused .notConnected, s)
  | some task =>
    if task.phase = .finished then (.refused .closed, s)
    else (.accepted, { s with current := some { task with outbox := task.outbox ++ [frame] } })

instance : Transport WebSocket where
  connect s := let (answer, s) := s.connect; (answer, [], s)
  send := send
  disconnect := disconnect

def stepCurrent? (s : WebSocket) (heard : Bool) (step : SocketTask.Step) :
    Option (WebSocket × List SocketTask.Output) := do
  let (task, outputs) ← (← s.current).step? heard step
  return ({ s with current := some task }, outputs)

def stepFormer? (s : WebSocket) (index : Nat) (heard : Bool) (step : SocketTask.Step) :
    Option (WebSocket × List SocketTask.Output) := do
  let (task, outputs) ← (← s.former[index]?).step? heard step
  return ({ s with former := s.former.set index task }, outputs)

end WebSocket

end GameClient
